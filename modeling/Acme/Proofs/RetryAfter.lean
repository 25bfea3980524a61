import Acme.Proofs.ChallengeMachine

/-! How long a challenge is left alone between two polls, and what the authority asked for. -/

namespace Acme

open Interaction

/-- The number of seconds a response asks to wait for, in its first `Retry-After` header. -/
def HttpResponse.retryAfter (answer : HttpResponse) : Option Nat :=
  match answer.header "Retry-After" with
  | none => none
  | some value =>
    -- The header may also hold a date, which is no number of seconds.
    if value.toList ≠ [] ∧ value.toList.all Char.isDigit then
      some (Nat.ofDigitChars 10 value.toList 0)
    else none

/-- The nanoseconds to wait after a response: what it asks for, or else the poll interval. -/
def requiredWait (pause : Duration) (answer : HttpResponse) : Nat :=
  match answer.retryAfter with
  | some seconds => seconds * 1000000000
  | none => pause.nanos

/-- The nanoseconds a call sleeps. -/
def sleepTime : Event calls → Nat
  | ⟨.sleep pause, _⟩ => pause.nanos
  | _ => 0

/-- The nanoseconds slept in a history. -/
def sleepTotal : History → Nat
  | [] => 0
  | event :: later => sleepTime event + sleepTotal later

/-- A poll was answered with a status that is not final, and the next POST came after a wait. -/
def Continues (lib : Libraries) (trace : History) (answer : HttpResponse) (waited : Nat) : Prop :=
  ∃ before poll between next behind challenge,
    trace = before ++ poll :: (between ++ next :: behind) ∧
    -- The first POST is no poll: it tells the authority to validate.
    posts before ≠ [] ∧ isPost poll ∧ posts between = [] ∧ isPost next ∧
    response poll = some answer ∧ Challenge.read lib answer = .ok challenge ∧
    Undecided challenge.status ∧ waited = sleepTotal between

/-- Each wait between two polls is as long as the response before it asks for. -/
def Honours (lib : Libraries) (pause : Duration) (trace : History) : Prop :=
  ∀ answer waited, Continues lib trace answer waited → requiredWait pause answer ≤ waited

/-- Put one more event in front of the sleep before the first POST, and of that after each POST. -/
def addWait (event : Event calls) : Nat × List Nat → Nat × List Nat
  | (waited, later) =>
    if isPost event then (0, waited :: later) else (sleepTime event + waited, later)

/-- The time slept before the first POST, and the times slept after each of the POSTs. -/
def spaced (history : History) : Nat × List Nat :=
  history.foldr addWait (0, [])

variable {lib : Libraries} {account : Account} {trace : History}

@[simp] theorem spaced_nil : spaced [] = (0, []) := rfl

@[simp] theorem spaced_cons {event : Event calls} {later : History} :
    spaced (event :: later) = addWait event (spaced later) := rfl

/-- The events of a trace are put in front one after the other. -/
theorem spaced_append {later : History} :
    spaced (trace ++ later) = trace.foldr addWait (spaced later) :=
  List.foldr_append

/-- Where nothing is posted, only the sleeps count. -/
theorem foldr_addWait_silent (silent : posts trace = []) (rest : Nat × List Nat) :
    trace.foldr addWait rest = (sleepTotal trace + rest.1, rest.2) := by
  induction trace with
  | nil => simp [sleepTotal]
  | cons event later ih =>
    -- The first event is no POST, so what it sleeps is added to what is slept behind it.
    obtain ⟨plain, quiet⟩ := List.forall_mem_cons.mp (List.filter_eq_nil_iff.mp silent)
    simp [ih (List.filter_eq_nil_iff.mpr quiet), addWait, plain, sleepTotal, Nat.add_assoc]

/-- Where nothing is slept, only the POSTs count. -/
theorem foldr_addWait_plain (plain : ∀ event ∈ trace, isAside event = false)
    (rest : Nat × List Nat) : trace.foldr addWait rest = (posts trace).foldr addWait rest := by
  induction trace with
  | nil => rfl
  | cons event later ih =>
    obtain ⟨head, tail⟩ := List.forall_mem_cons.mp plain
    obtain ⟨call, answer⟩ := event
    -- The calls of the pool and the other requests add nothing.
    cases call with
    | postJose url body => simp [ih tail]
    | sleep pause => cases head
    | _ => simpa [addWait, isPost, sleepTime, posts] using ih tail

/-- Each POST in front adds one time to those behind it. -/
theorem foldr_addWait_posts (rest : Nat × List Nat) :
    ∃ waits, waits.length = (posts trace).length ∧
      (trace.foldr addWait rest).2 = waits ++ rest.2 := by
  -- By induction on the trace; only a POST closes the time that is slept behind it.
  induction trace with
  | nil => exact ⟨[], rfl, rfl⟩
  | cons event later ih =>
    obtain ⟨waits, counted, split⟩ := ih
    cases posting : isPost event with
    | false =>
      exact ⟨waits, by simp [posts, posting, counted], by simp [addWait, posting, split]⟩
    | true =>
      refine ⟨(later.foldr addWait rest).1 :: waits, ?_, by simp [addWait, posting, split]⟩
      simp [posts, posting, counted]

/-- What was slept between two polls is among the times after the POSTs, but not the outer ones. -/
theorem Continues.mem {answer : HttpResponse} {waited : Nat}
    (continues : Continues lib trace answer waited) :
    waited ∈ (spaced trace).2.tail.dropLast := by
  obtain ⟨before, poll, between, next, behind, _, rfl, kicked, polls, silent, asks, _, _, _, rfl⟩ :=
    continues
  -- Each POST before the poll opens one such time.
  have waiting : ∃ waits : List Nat, waits.length = (posts before).length ∧
      (before.foldr addWait (spaced (poll :: (between ++ next :: behind)))).2
        = waits ++ (spaced (poll :: (between ++ next :: behind))).2 := foldr_addWait_posts _
  obtain ⟨waits, counted, split⟩ := waiting
  -- The time after the first POST comes first, and that after the next one comes behind.
  cases waits with
  -- There was a POST before the poll, namely the kick.
  | nil => exact absurd (List.length_eq_zero_iff.mp counted.symm) kicked
  | cons first later =>
    rw [spaced_append, split]
    simp [addWait, polls, asks, spaced_append, foldr_addWait_silent silent]

/-- A request in an account's name adds no sleep, and at most one POST. -/
theorem Asks.spaced {α : Type} {url : String} {payload : Bytes}
    {read : HttpResponse → Except AcmeError α} {outcome : Except Stop α}
    (asks : Asks lib account url payload read trace outcome) (later : History) :
    (∃ stop, outcome = .error stop ∧ Acme.spaced (trace ++ later) = Acme.spaced later) ∨
      Acme.spaced (trace ++ later) = (0, (Acme.spaced later).1 :: (Acme.spaced later).2) := by
  have plain := foldr_addWait_plain (Reads.plain asks) (Acme.spaced later)
  obtain ⟨exchanged, run, rfl⟩ := asks
  rw [spaced_append, plain]
  -- The POST closes the time that is slept behind it.
  rcases run.one_post with ⟨silent, stop, rfl⟩ | ⟨nonce, body, answer, _, sent, _⟩
  · exact .inl ⟨stop, rfl, by rw [silent]; rfl⟩
  · exact .inr (by rw [sent]; rfl)

@[simp] theorem spaced_lettingGo {handle : Option Handle} :
    spaced (lettingGo handle) = (0, []) := by
  cases handle <;> rfl

@[simp] theorem addWait_clocked {time : Instant} {rest : Nat × List Nat} :
    addWait (clocked time) rest = rest := by
  simp [addWait, isPost, sleepTime]

@[simp] theorem addWait_slept {pause : Duration} {rest : Nat × List Nat} :
    addWait (slept pause) rest = (pause.nanos + rest.1, rest.2) := rfl

/-- A polling loop sleeps one pause between two questions, and none before the first. -/
theorem Polling.spaced {α β : Type} {poll : Poll α β} {pause : Duration} {deadline : Instant}
    {url : String} {read : HttpResponse → Except AcmeError α} {outcome : Except Stop β}
    (asked : ∀ {trace outcome}, poll.ask.Ends trace outcome →
      Asks lib account url [] read trace outcome)
    (polling : Polling poll pause deadline trace outcome) :
    (Acme.spaced trace).1 = 0 ∧
      ∀ waited ∈ (Acme.spaced trace).2.dropLast, waited = pause.nanos := by
  -- By induction on the rounds: the pause of a round is slept behind its question.
  induction polling with
  -- A question that fails is the last one, and no pause follows it.
  | failed question =>
    rcases (asked question).spaced (lettingGo poll.handle) with ⟨_, _, same⟩ | same <;> simp [same]
  | settled question =>
    rcases (asked question).spaced (lettingGo poll.handle) with ⟨_, _, same⟩ | same <;> simp [same]
  | @expired trace value time question =>
    rcases (asked question).spaced (clocked time :: lettingGo poll.handle) with
      ⟨_, _, same⟩ | same <;> simp [same]
  | @again trace later value time outcome question unsettled early rest ih =>
    obtain ⟨first, waits⟩ := ih
    rcases (asked question).spaced (clocked time :: slept pause :: later) with
      ⟨_, failed, _⟩ | same
    · -- This question has got an answer.
      cases failed
    · rw [same]
      refine ⟨rfl, fun waited member => ?_⟩
      cases times : (Acme.spaced later).2 with
      -- The waiting time behind the last question is not looked at.
      | nil => simp [times] at member
      | cons next others =>
        simp only [spaced_cons, addWait_clocked, addWait_slept, times, first, Nat.add_zero,
          List.dropLast_cons_cons, List.mem_cons] at member
        rcases member with rfl | other
        · rfl
        · exact waits waited (by rwa [times])
  | cut => simp

/-- Between two polls of a challenge the client sleeps its own interval, whatever was asked for. -/
theorem Continues.waited_eq {fuel : Nat} {url : String} {ready : Handle}
    {timeout pollInterval : Duration} {outcome : Except Stop Unit} {answer : HttpResponse}
    {waited : Nat} (continues : Continues lib trace answer waited)
    (run : (Challenge.pollChallengeWithInterval lib fuel url account ready timeout
      pollInterval).Ends trace outcome) : waited = pollInterval.nanos := by
  have between := continues.mem
  -- Without a loop there is one POST at most, and no time between two polls.
  cases drive_run run with
  | unseen failure => simp [addWait, isPost, sleepTime] at between
  | unkicked asked =>
    rcases asked.spaced [dropped ready] with ⟨_, _, same⟩ | same <;>
      simp [addWait, isPost, sleepTime, same] at between
  | @endless kick start stop asked overflow =>
    rcases asked.spaced [clocked start, dropped ready] with ⟨_, _, same⟩ | same <;>
      simp [addWait, isPost, sleepTime, same] at between
  | @polled kick later start deadline outcome asked representable polling =>
    have follows : (Challenge.poll lib url account ready timeout).Follows
        (Challenge.machine lib url) lib account := Challenge.poll_follows url ready timeout
    obtain ⟨_, waits⟩ := polling.spaced follows.asks
    rcases asked.spaced (clocked start :: later) with ⟨_, failed, _⟩ | same
    · -- The kick was answered, or there would be no polls.
      cases failed
    · -- The kick is the first POST, so the times behind it are those of the loop.
      refine waits waited ?_
      simpa [addWait, isPost, sleepTime, same] using between

/-- A client honours what it is asked for exactly when nobody asks for more than its interval. -/
theorem retry_after_honoured_iff {fuel : Nat} {url : String} {ready : Handle}
    {timeout pollInterval : Duration} {outcome : Except Stop Unit}
    (run : (Challenge.pollChallengeWithInterval lib fuel url account ready timeout
      pollInterval).Ends trace outcome) :
    Honours lib pollInterval trace ↔
      ∀ answer waited seconds, Continues lib trace answer waited →
        answer.retryAfter = some seconds → seconds * 1000000000 ≤ pollInterval.nanos := by
  constructor
  · -- What was waited is the interval, and it covers what was asked for.
    intro honours answer waited seconds continues asked
    have enough := honours answer waited continues
    rwa [requiredWait, asked, continues.waited_eq run] at enough
  · intro modest answer waited continues
    rw [continues.waited_eq run, requiredWait]
    cases asked : answer.retryAfter with
    | none => exact le_rfl
    | some seconds => exact modest answer waited seconds continues asked

/-- A poll that is answered with a request to wait a number of seconds. -/
def throttling (seconds : String) : HttpResponse where
  status := 200
  headers := [("Replay-Nonce", "n2"), ("retry-after", seconds)]
  body := Utf8.bytes (challengeText "processing")

/-- A challenge whose first poll is answered so, and whose second one shows it valid. -/
def throttledChallenge (seconds : String) : History × Except Stop Unit :=
  play [answering 200 "n0" [] "", answering 200 "n1" [] "", .ok (throttling seconds),
      answering 200 "n3" [] (challengeText "valid")]
    (Challenge.pollChallenge sampleLibraries 2 "ca/chall/1" sampleAccount 1
      (Duration.fromSecs 60))

/-- The call of that run at some place. -/
def throttledCall (seconds : String) (place : Nat) : Event calls :=
  (throttledChallenge seconds).1[place]?.getD (clocked 0)

/-- The answer to the first poll shows a challenge in process. -/
theorem throttling_shows (seconds : String) :
    Challenge.read sampleLibraries (throttling seconds) = .ok (sampleChallenge "processing") := by
  simp [Challenge.read, throttling, HttpResponse.ok, HttpResponse.isSuccess, sampleLibraries,
    readTable, bind, Except.bind, Except.mapError]

/-- From any of its calls on, the run is that call and what follows it. -/
theorem throttled_drop (seconds : String) (place : Nat)
    (within : place < (throttledChallenge seconds).1.length) :
    (throttledChallenge seconds).1.drop place
      = throttledCall seconds place :: (throttledChallenge seconds).1.drop (place + 1) := by
  rw [List.drop_eq_getElem_cons within, throttledCall, List.getElem?_eq_getElem within,
    Option.getD_some]

/-- The second poll comes two seconds after the answer to the first one. -/
theorem throttled_continues : ∀ seconds ∈ ["1", "10"],
    Continues sampleLibraries (throttledChallenge seconds).1 (throttling seconds) 2000000000 := by
  intro seconds member
  have long : (throttledChallenge seconds).1.length = 18 := by
    revert seconds
    decide +kernel
  -- The polls are the eleventh and the sixteenth call of the run.
  have parts : (throttledChallenge seconds).1 = (throttledChallenge seconds).1.take 10 ++
      throttledCall seconds 10 :: (((throttledChallenge seconds).1.drop 11).take 4 ++
        throttledCall seconds 15 :: (throttledChallenge seconds).1.drop 16) := by
    rw [← throttled_drop seconds 15 (by omega), ← List.drop_drop (i := 4) (j := 11),
      List.take_append_drop, ← throttled_drop seconds 10 (by omega), List.take_append_drop]
  -- Between the two is no other POST, and the first answer is no verdict yet.
  refine ⟨_, throttledCall seconds 10, _, throttledCall seconds 15, _,
    sampleChallenge "processing", parts, ?_, ?_, ?_, ?_, ?_, throttling_shows seconds,
    by simp [Undecided, sampleChallenge], ?_⟩
  all_goals
    clear parts long
    revert seconds
    decide +kernel

/-- A client that is asked to wait one second waits two, as it would have without being asked. -/
theorem throttled_second_honoured :
    Continues sampleLibraries (throttledChallenge "1").1 (throttling "1") 2000000000 ∧
      (Honours sampleLibraries (Duration.fromSecs 2) (throttledChallenge "1").1 ↔
        ∀ answer waited seconds,
          Continues sampleLibraries (throttledChallenge "1").1 answer waited →
          answer.retryAfter = some seconds →
          seconds * 1000000000 ≤ (Duration.fromSecs 2).nanos) :=
  ⟨throttled_continues "1" (by decide),
    retry_after_honoured_iff (play_ends _ (Challenge.pollChallenge sampleLibraries 2 "ca/chall/1"
      sampleAccount 1 (Duration.fromSecs 60)))⟩

/-- A client that is asked to wait ten seconds polls again after two. -/
theorem throttled_early :
    ¬ ∀ lib fuel url account ready timeout trace outcome,
      (Challenge.pollChallenge lib fuel url account ready timeout).Ends trace outcome →
        Honours lib (Duration.fromSecs 2) trace := by
  -- Ten seconds are more than the two that were slept.
  intro honoured
  have enough := honoured _ _ _ _ _ _ _ _
    (play_ends _ (Challenge.pollChallenge sampleLibraries 2 "ca/chall/1" sampleAccount 1
      (Duration.fromSecs 60))) _ _ (throttled_continues "10" (by decide))
  revert enough
  decide +kernel

end Acme
