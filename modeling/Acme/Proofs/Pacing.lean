import Acme.Proofs.OrderMachine
import Mathlib.Algebra.Order.Floor.Div

/-! How long the polling loops go on, on a clock that passes at least the pauses. -/

namespace Acme

open Interaction

/-- A monotone clock that passes each pause; the state is the earliest time it can show next. -/
def pacing : World calls Instant where
  Allows earliest event := match event with
    | ⟨.now, time⟩ => earliest ≤ time
    | _ => True
  next earliest event := match event with
    | ⟨.now, time⟩ => time
    | ⟨.sleep pause, _⟩ => earliest + pause.nanos
    | _ => earliest

/-- The rounds of a run are at most one submission and a bounded number of questions. -/
def AtMost (target : String) (payload : Bytes) (url : String) (bound : Nat)
    (trace : History) : Prop :=
  ∃ submissions polls, rounds trace = submissions ++ polls ∧ submissions.length ≤ 1 ∧
    (∀ submission ∈ submissions, submission.Posts target payload) ∧
    (∀ poll ∈ polls, poll.Posts url []) ∧ polls.length ≤ bound

variable {lib : Libraries} {account : Account} {trace : History}

@[simp] theorem pacing_allows_clocked {earliest time : Instant} :
    pacing.Allows earliest (clocked time) ↔ earliest ≤ time := Iff.rfl

@[simp] theorem pacing_next_clocked {earliest time : Instant} :
    pacing.next earliest (clocked time) = time := rfl

@[simp] theorem pacing_next_slept {earliest : Instant} {pause : Duration} :
    pacing.next earliest (slept pause) = earliest + pause.nanos := rfl

/-- While neither the clock is read nor a pause is made, nothing is learned about the time. -/
theorem pacing_after_plain {earliest : Instant} (plain : ∀ event ∈ trace, isAside event = false) :
    pacing.after earliest trace = earliest := by
  induction trace with
  | nil => rfl
  | cons event later ih =>
    obtain ⟨head, tail⟩ := List.forall_mem_cons.mp plain
    obtain ⟨call, answer⟩ := event
    -- What is left are the requests and the pool.
    cases call <;> first | exact ih tail | cases head

/-- After a request, what comes next starts at the same time at the earliest. -/
theorem Asks.paced {α : Type} {url : String} {payload : Bytes}
    {read : HttpResponse → Except AcmeError α} {outcome : Except Stop α} {earliest : Instant}
    {later : History} (asks : Asks lib account url payload read trace outcome)
    (paced : pacing.Admits earliest (trace ++ later)) : pacing.Admits earliest later := by
  have rest := (World.admits_append.mp paced).2
  rwa [pacing_after_plain (Reads.plain asks)] at rest

/-- A pause brings the deadline one pause nearer. -/
theorem pause_nearer {deadline earliest time pause count : Nat}
    (near : deadline ≤ earliest + pause * count) (passed : earliest ≤ time)
    (early : time < deadline) :
    ∃ fewer, count = fewer + 1 ∧ deadline ≤ time + pause + pause * fewer := by
  -- The deadline lies ahead, so there was a pause left to count.
  cases count with
  | zero => omega
  | succ fewer =>
    rw [Nat.mul_succ] at near
    exact ⟨fewer, rfl, by omega⟩

/-- A polling loop asks at most once more than pauses fit before its deadline. -/
theorem Polling.bounded {α β : Type} {poll : Poll α β} {pause : Duration} {deadline : Instant}
    {url : String} {read : HttpResponse → Except AcmeError α} {outcome : Except Stop β}
    {earliest : Instant} {count : Nat}
    (asked : ∀ {trace outcome}, poll.ask.Ends trace outcome →
      Asks lib account url [] read trace outcome)
    (polling : Polling poll pause deadline trace outcome)
    (paced : pacing.Admits earliest trace) (near : deadline ≤ earliest + pause.nanos * count) :
    (rounds trace).length ≤ count + 1 := by
  -- By induction on the rounds, with the earliest time that the next reading can show.
  induction polling generalizing earliest count with
  -- A question that fails is one round, or none.
  | failed question =>
    cases (asked question).round with
    | unsent failed reason silent => simp [rounds, silent]
    | sent carries shows plain round => simp [rounds, round]
  | settled question settled =>
    obtain ⟨round, _, _, _, divided⟩ := (asked question).shown [] []
    simp [rounds, divided _ divide_lettingGo]
  -- The last question is one round, and the deadline has passed.
  | @expired trace value time question unsettled expired =>
    obtain ⟨round, _, _, _, divided⟩ := (asked question).shown [time] []
    simp [rounds, divided (clocked time :: lettingGo poll.handle) (by simp)]
  | @again trace later value time outcome question unsettled early rest ih =>
    obtain ⟨round, _, _, _, divided⟩ :=
      (asked question).shown (time :: (divide later).1) (divide later).2
    obtain ⟨passed, _, paced⟩ := (asked question).paced paced
    -- The pause that follows leaves room for one question less.
    obtain ⟨fewer, rfl, nearer⟩ := pause_nearer near passed early
    have fewer_left := ih paced nearer
    have more : rounds (trace ++ clocked time :: slept pause :: later) = round :: rounds later := by
      simp [rounds, divided (clocked time :: slept pause :: later) (by simp)]
    simpa [more] using fewer_left
  | cut => simp [rounds, divide]

/-- A polling loop is not cut short when it may ask more often than pauses fit. -/
theorem Poll.loop_uncut {α β : Type} {poll : Poll α β} {pause : Duration} {deadline : Instant}
    {fuel count : Nat} {url : String} {read : HttpResponse → Except AcmeError α}
    {outcome : Except Stop β} {earliest : Instant}
    (asked : poll.ask = question lib account url read)
    (run : (poll.loop pause deadline fuel).Ends trace outcome)
    (paced : pacing.Admits earliest trace) (near : deadline ≤ earliest + pause.nanos * count)
    (enough : count < fuel) : outcome ≠ .error .unfinished := by
  have uncut : Uncut poll.ask := by
    rw [asked]
    exact uncut_question lib account url read
  -- Every further round uses up one pause and one unit of fuel.
  induction fuel generalizing trace earliest count with
  | zero => omega
  | succ fuel ih =>
    rcases Poll.loop_succ uncut run with ⟨_, finished⟩ |
      ⟨questioned, value, time, later, rfl, ended, _, early, rest⟩
    · -- The loop has ended in this round.
      exact finished
    · rw [asked] at ended
      obtain ⟨passed, _, paced⟩ := (asks_run ended).paced paced
      obtain ⟨fewer, rfl, nearer⟩ := pause_nearer near passed early
      exact ih rest paced nearer (by omega)

/-- One request is at most one round, in front of those that follow it. -/
theorem Asks.submission {α : Type} {url : String} {payload : Bytes}
    {read : HttpResponse → Except AcmeError α} {outcome : Except Stop α}
    (asks : Asks lib account url payload read trace outcome) (later : History) :
    ∃ submissions, rounds (trace ++ later) = submissions ++ rounds later ∧
      submissions.length ≤ 1 ∧ ∀ submission ∈ submissions, submission.Posts url payload := by
  -- A request is sent in one POST or not at all.
  cases asks.round with
  | unsent failed reason silent => exact ⟨[], by simp [rounds, silent], by simp, by simp⟩
  | sent carries shows plain round =>
    exact ⟨[_], by simp only [rounds, round]; rfl, le_rfl,
      List.forall_mem_singleton.mpr ⟨rfl, carries⟩⟩

/-- A submission without questions keeps to every bound. -/
theorem Asks.atMost {α : Type} {target url : String} {payload : Bytes} {bound : Nat}
    {read : HttpResponse → Except AcmeError α} {outcome : Except Stop α}
    (asks : Asks lib account target payload read trace outcome) {later : History}
    (still : rounds later = []) : AtMost target payload url bound (trace ++ later) := by
  obtain ⟨submissions, split, single, posts⟩ := asks.submission later
  exact ⟨submissions, [], by rw [split, still], single, posts, by simp, Nat.zero_le _⟩

/-- The deadline lies no further ahead than the pauses that are counted for it. -/
theorem deadline_near {timeout pause : Duration} {start deadline : Instant}
    (positive : 0 < pause.nanos) (representable : deadlineAfter lib start timeout = .ok deadline) :
    deadline ≤ start + pause.nanos * (timeout.nanos ⌈/⌉ pause.nanos) := by
  -- Rounding up, the pauses cover the time that is allowed.
  have enough : timeout.nanos ≤ pause.nanos * (timeout.nanos ⌈/⌉ pause.nanos) :=
    le_smul_ceilDiv positive
  rw [← deadlineAfter_eq_ok representable]
  exact Nat.add_le_add_left enough start

/-- A submission and the polling loop after it keep to the bound that the pauses set. -/
theorem Polling.atMost {α β : Type} {machine : Machine α β} {poll : Poll α β}
    {timeout pause : Duration} {start deadline earliest : Instant} {outcome : Except Stop β}
    {later : History} (positive : 0 < pause.nanos) (follows : poll.Follows machine lib account)
    (asks : Asks lib account machine.target machine.payload (HttpResponse.accepted lib) trace
      (.ok ()))
    (representable : deadlineAfter lib start timeout = .ok deadline)
    (polling : Polling poll pause deadline later outcome)
    (paced : pacing.Admits earliest (trace ++ clocked start :: later)) :
    AtMost machine.target machine.payload machine.url (timeout.nanos ⌈/⌉ pause.nanos + 1)
      (trace ++ clocked start :: later) := by
  obtain ⟨submissions, split, single, posts⟩ := asks.submission (clocked start :: later)
  obtain ⟨_, paced⟩ := asks.paced paced
  -- The clock was read between the submission and the questions.
  have few := polling.bounded follows.asks paced (deadline_near positive representable)
  exact ⟨submissions, rounds later, by rw [split]; rfl, single, posts,
    (follows.polled polling).asks, few⟩

/-- A challenge is asked for as often as pauses fit, and once more. -/
theorem DriveRun.atMost {url : String} {ready : Handle} {timeout pause : Duration}
    {outcome : Except Stop Unit} {earliest : Instant} (positive : 0 < pause.nanos)
    (run : DriveRun lib url account ready timeout pause trace outcome)
    (paced : pacing.Admits earliest trace) :
    AtMost url Challenge.kickPayload url (timeout.nanos ⌈/⌉ pause.nanos + 1) trace := by
  have follows : (Challenge.poll lib url account ready timeout).Follows
      (Challenge.machine lib url) lib account := Challenge.poll_follows url ready timeout
  cases run with
  -- Without a word to validate nothing is asked.
  | unseen failure => exact ⟨[], [], rfl, Nat.zero_le _, by simp, by simp, Nat.zero_le _⟩
  -- The word is one request, after which the driver stops.
  | unkicked asked => exact asked.atMost rfl
  | endless asked overflow => exact asked.atMost rfl
  -- The loop asks as often as its pauses fit between the start and the deadline.
  | polled asked representable polling =>
    exact polling.atMost positive follows asked representable paced.2

/-- With that many rounds at hand its loop is not cut. -/
theorem drive_uncut {fuel : Nat} {url : String} {ready : Handle} {timeout pause : Duration}
    {outcome : Except Stop Unit} {earliest : Instant} (positive : 0 < pause.nanos)
    (run : (Challenge.pollChallengeWithInterval lib fuel url account ready timeout pause).Ends
      trace outcome)
    (paced : pacing.Admits earliest trace)
    (enough : timeout.nanos ⌈/⌉ pause.nanos + 1 ≤ fuel) : outcome ≠ .error .unfinished := by
  rcases drive_loop run with ⟨_, uncut⟩ |
    ⟨kick, start, deadline, later, rfl, asked, representable, rest⟩
  · -- The driver does not come to its loop.
    exact uncut
  · -- The loop has more turns than it can take until the deadline.
    obtain ⟨_, paced⟩ := asked.paced paced.2
    exact Poll.loop_uncut rfl rest paced (deadline_near positive representable) enough

/-- An order is asked for as often as pauses fit, and once more. -/
theorem FinalizeRun.atMost {order : Order} {privateKey : CertificateKey}
    {timeout pause : Duration} {outcome : Except Stop Order} {earliest : Instant}
    (positive : 0 < pause.nanos)
    (run : FinalizeRun lib order privateKey account timeout pause trace outcome)
    (paced : pacing.Admits earliest trace) :
    ∃ csrDer, AtMost order.finalize (Certificate.csrPayload lib csrDer) order.url
      (timeout.nanos ⌈/⌉ pause.nanos + 1) trace := by
  cases run with
  -- Nothing is sent at all.
  | unbuilt failure => exact ⟨[], [], [], rfl, Nat.zero_le _, by simp, by simp, Nat.zero_le _⟩
  -- The certificate request is all that is sent.
  | @unsubmitted trace csrDer stop built asked =>
    have kept : AtMost order.finalize (Certificate.csrPayload lib csrDer) order.url
        (timeout.nanos ⌈/⌉ pause.nanos + 1) (trace ++ []) := asked.atMost rfl
    exact ⟨csrDer, by rwa [List.append_nil] at kept⟩
  | endless built asked overflow => exact ⟨_, asked.atMost rfl⟩
  -- Behind it the order is asked for in a loop.
  | polled built asked representable polling =>
    exact ⟨_, polling.atMost positive (Certificate.poll_follows order _ timeout) asked
      representable paced⟩

/-- With that many rounds at hand its loop is not cut. -/
theorem finalize_uncut {fuel : Nat} {order : Order} {privateKey : CertificateKey}
    {timeout pause : Duration} {outcome : Except Stop Order} {earliest : Instant}
    (positive : 0 < pause.nanos)
    (run : (Certificate.finalizeWithIntervals lib fuel order privateKey account timeout
      pause).Ends trace outcome)
    (paced : pacing.Admits earliest trace)
    (enough : timeout.nanos ⌈/⌉ pause.nanos + 1 ≤ fuel) : outcome ≠ .error .unfinished := by
  rcases finalize_loop run with ⟨_, uncut⟩ |
    ⟨submission, csrDer, start, deadline, later, rfl, _, asked, representable, rest⟩
  · -- It does not come to its loop.
    exact uncut
  · -- Here too the turns suffice until the deadline.
    obtain ⟨_, paced⟩ := asked.paced paced
    exact Poll.loop_uncut rfl rest paced (deadline_near positive representable) enough

/-- Both loops ask a bounded number of times, and end when they may ask that often. -/
theorem polling_bounded {fuel : Nat} {timeout pollInterval : Duration} {earliest : Instant}
    (positive : 0 < pollInterval.nanos) (paced : pacing.Admits earliest trace) :
    (∀ url ready outcome,
      (Challenge.pollChallengeWithInterval lib fuel url account ready timeout pollInterval).Ends
        trace outcome →
      AtMost url Challenge.kickPayload url (timeout.nanos ⌈/⌉ pollInterval.nanos + 1) trace ∧
        (timeout.nanos ⌈/⌉ pollInterval.nanos + 1 ≤ fuel → outcome ≠ .error .unfinished)) ∧
    ∀ order privateKey outcome,
      (Certificate.finalizeWithIntervals lib fuel order privateKey account timeout
        pollInterval).Ends trace outcome →
      (∃ csrDer, AtMost order.finalize (Certificate.csrPayload lib csrDer) order.url
        (timeout.nanos ⌈/⌉ pollInterval.nanos + 1) trace) ∧
        (timeout.nanos ⌈/⌉ pollInterval.nanos + 1 ≤ fuel → outcome ≠ .error .unfinished) := by
  -- Each driver is one submission and the loop, so the bound of the loop is the bound.
  constructor
  · intro url ready outcome run
    exact ⟨(drive_run run).atMost positive paced, drive_uncut positive run paced⟩
  · intro order privateKey outcome run
    exact ⟨(finalize_run run).atMost positive paced, finalize_uncut positive run paced⟩

/-- Answer from a script, on a clock that passes exactly the pauses. -/
def ticking (script : List (Except AcmeError HttpResponse)) (history : History) :
    (call : Call) → call.Reply
  | .now => pacing.after 0 history
  | call => scripted script history call

/-- Such a clock is monotone and passes each pause. -/
theorem ticking_paced {α : Type} (script : List (Except AcmeError HttpResponse))
    (operation : Client α) :
    pacing.Admits 0 (operation.run.play (ticking script) []).1 := by
  refine World.play_admits (fun history call => ?_) operation.run []
  cases call <;> simp [pacing, ticking]

/-- A challenge that stays in process, polled for three seconds with pauses of two. -/
def patientChallenge : History × Except Stop Unit :=
  (Challenge.pollChallengeWithInterval sampleLibraries 3 "ca/chall/1" sampleAccount 1
    (Duration.fromSecs 3) (Duration.fromSecs 2)).run.play
      (ticking (List.replicate 9 (answering 200 "n" [] (challengeText "processing")))) []

/-- It is polled three times at most, and then its polling is over. -/
theorem polling_bounded_sample :
    pacing.Admits 0 patientChallenge.1 ∧
      AtMost "ca/chall/1" Challenge.kickPayload "ca/chall/1" 3 patientChallenge.1 ∧
      patientChallenge.2 ≠ .error .unfinished := by
  -- Three seconds are covered by two pauses of two seconds each.
  have paced : pacing.Admits 0 patientChallenge.1 := ticking_paced _ _
  have bound : (Duration.fromSecs 3).nanos ⌈/⌉ (Duration.fromSecs 2).nanos + 1 = 3 := by
    decide +kernel
  have run : (Challenge.pollChallengeWithInterval sampleLibraries 3 "ca/chall/1" sampleAccount 1
      (Duration.fromSecs 3) (Duration.fromSecs 2)).Ends patientChallenge.1 patientChallenge.2 :=
    Program.play_returns _ _ _
  have bounded := (polling_bounded (by decide) paced).1 "ca/chall/1" 1 patientChallenge.2 run
  rw [bound] at bounded
  exact ⟨paced, bounded.1, bounded.2 le_rfl⟩

end Acme
