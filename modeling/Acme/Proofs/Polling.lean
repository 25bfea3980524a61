import Acme.Proofs.Asking

/-! Polling a resource until it is settled: one loop, of which the client has two. -/

namespace Acme

open Interaction

/-- How a resource is polled: what is asked, when it is settled, and what lateness means. -/
structure Poll (α β : Type) where
  /-- The handle that is owned meanwhile, if any. -/
  handle : Option Handle
  /-- One question to the resource. -/
  ask : Client α
  /-- The outcome, once the resource is settled. -/
  verdict : α → Option (Except AcmeError β)
  /-- The error when the deadline has passed. -/
  late : α → AcmeError

/-- Take down the handle that is owned, if any. -/
def letGo : Option Handle → Client Unit
  | some ready => dropReady ready
  | none => pure ()

/-- The calls that take down the handle that is owned, if any. -/
def lettingGo : Option Handle → History
  | some ready => [dropped ready]
  | none => []

/-- Run a program while a handle is owned, if any. -/
def guarding {α : Type} : Option Handle → Client α → Client α
  | some ready, program => owning ready program
  | none, program => program

/-- Ask, and until the resource is settled or the deadline has passed, wait and ask again. -/
def Poll.loop {α β : Type} (poll : Poll α β) (pause : Duration) (deadline : Instant) :
    Nat → Client β
  | 0 => throw .unfinished
  | fuel + 1 => do
    let value ← guarding poll.handle poll.ask
    match poll.verdict value with
    | some outcome =>
      letGo poll.handle
      lift outcome
    | none =>
      let time ← now
      if deadline ≤ time then
        letGo poll.handle
        throw (.error (poll.late value))
      else
        sleep pause
        poll.loop pause deadline fuel

/-- All ways a polling loop ends, or is cut short. -/
inductive Polling {α β : Type} (poll : Poll α β) (pause : Duration) (deadline : Instant) :
    History → Except Stop β → Prop where
  /-- The question failed. -/
  | failed {trace : History} {stop : Stop} (asked : poll.ask.Ends trace (.error stop)) :
      Polling poll pause deadline (trace ++ lettingGo poll.handle) (.error stop)
  /-- The resource was settled. -/
  | settled {trace : History} {value : α} {outcome : Except AcmeError β}
      (asked : poll.ask.Ends trace (.ok value)) (settled : poll.verdict value = some outcome) :
      Polling poll pause deadline (trace ++ lettingGo poll.handle) (result outcome)
  /-- The resource was not settled in time. -/
  | expired {trace : History} {value : α} {time : Instant}
      (asked : poll.ask.Ends trace (.ok value)) (unsettled : poll.verdict value = none)
      (expired : deadline ≤ time) :
      Polling poll pause deadline (trace ++ clocked time :: lettingGo poll.handle)
        (.error (.error (poll.late value)))
  /-- The resource was not settled yet, and is asked again later. -/
  | again {trace later : History} {value : α} {time : Instant} {outcome : Except Stop β}
      (asked : poll.ask.Ends trace (.ok value)) (unsettled : poll.verdict value = none)
      (early : time < deadline) (rest : Polling poll pause deadline later outcome) :
      Polling poll pause deadline (trace ++ clocked time :: slept pause :: later) outcome
  /-- The run is cut short between two questions. -/
  | cut : Polling poll pause deadline [] (.error .unfinished)

/-- A program that is not cut short by itself. -/
def Uncut {α : Type} (program : Client α) : Prop :=
  ∀ trace, ¬ program.Ends trace (.error .unfinished)

variable {lib : Libraries} {account : Account} {trace : History}

/-- Taking down a handle is one call, and without a handle it is none. -/
@[simp] theorem ends_letGo_bind {α : Type} {handle : Option Handle} {rest : Unit → Client α}
    {outcome : Except Stop α} :
    (letGo handle >>= rest).Ends trace outcome ↔
      ∃ later, trace = lettingGo handle ++ later ∧ (rest ()).Ends later outcome := by
  cases handle with
  -- There is nothing to drop.
  | none => simp [letGo, lettingGo]
  | some ready =>
    simp only [letGo, lettingGo, dropReady, Fallible.ends_ask_bind]
    -- Dropping a handle returns nothing, so nothing is passed on.
    constructor
    · intro dropping
      obtain ⟨⟨⟩, later, same, ended⟩ := dropping
      exact ⟨later, same, ended⟩
    · intro ending
      obtain ⟨later, same, ended⟩ := ending
      exact ⟨(), later, same, ended⟩

/-- When a handle is owned, a failure takes it down, and a result leaves it up. -/
theorem guarding_run {α : Type} {handle : Option Handle} {program : Client α}
    {outcome : Except Stop α} (uncut : Uncut program)
    (run : (guarding handle program).Ends trace outcome) :
    (∃ value, program.Ends trace (.ok value) ∧ outcome = .ok value) ∨
      ∃ stop earlier, trace = earlier ++ lettingGo handle ∧ program.Ends earlier (.error stop) ∧
        outcome = .error stop := by
  cases handle with
  -- Without a handle there is nothing to guard.
  | none =>
    cases outcome with
    | ok value => exact .inl ⟨value, run, rfl⟩
    | error stop => exact .inr ⟨stop, trace, by simp [lettingGo], run, rfl⟩
  | some ready =>
    rcases Fallible.ends_cleaning.mp run with kept | ⟨stop, earlier, later, rfl, failed, cleaned, rfl⟩
    · exact .inl kept
    · -- Errors and panics both let the handle go out of scope.
      refine .inr ⟨stop, earlier, ?_, failed, rfl⟩
      cases stop with
      | error failure | panic message =>
        obtain ⟨⟨⟩, _, rfl, ended⟩ := Program.returns_call.mp cleaned
        obtain ⟨rfl, _⟩ := Program.returns_done.mp ended
        rfl
      | unfinished => exact absurd failed (uncut earlier)

/-- What follows a guarded program starts from its result, while the handle is still up. -/
theorem guarding_bind_run {α β : Type} {handle : Option Handle} {program : Client α}
    {rest : α → Client β} {outcome : Except Stop β} (uncut : Uncut program)
    (run : (guarding handle program >>= rest).Ends trace outcome) :
    (∃ value earlier later, trace = earlier ++ later ∧ program.Ends earlier (.ok value) ∧
      (rest value).Ends later outcome) ∨
      ∃ stop earlier, trace = earlier ++ lettingGo handle ∧ program.Ends earlier (.error stop) ∧
        outcome = .error stop := by
  rcases Fallible.ends_bind.mp run with ⟨value, earlier, later, rfl, guarded, remains⟩ |
    ⟨stop, guarded, rfl⟩
  · -- A value came through, so the guarded part succeeded.
    rcases guarding_run uncut guarded with ⟨_, ended, same⟩ | ⟨_, _, _, _, same⟩
    · obtain rfl := Except.ok.inj same
      exact .inl ⟨value, earlier, later, rfl, ended, remains⟩
    · cases same
  · -- The guarded part stopped, and the handle was let go behind it.
    rcases guarding_run uncut guarded with ⟨_, _, same⟩ | ⟨_, earlier, rfl, ended, same⟩
    · cases same
    · obtain rfl := Except.error.inj same
      exact .inr ⟨stop, earlier, rfl, ended, rfl⟩

/-- What holds of the questions, the clock and the owned handle holds of a polling loop. -/
theorem Polling.forall_mem {α β : Type} {poll : Poll α β} {pause : Duration} {deadline : Instant}
    {outcome : Except Stop β} {kind : Event calls → Prop}
    (asked : ∀ {trace outcome}, poll.ask.Ends trace outcome → ∀ event ∈ trace, kind event)
    (clock : ∀ time, kind (clocked time)) (wait : kind (slept pause))
    (drop : ∀ ready, poll.handle = some ready → kind (dropped ready))
    (polling : Polling poll pause deadline trace outcome) : ∀ event ∈ trace, kind event := by
  -- Letting go is dropping the handle, if there is one.
  have left : ∀ event ∈ lettingGo poll.handle, kind event := by
    cases owned : poll.handle with
    | none => exact nofun
    | some ready => exact List.forall_mem_singleton.mpr (drop ready owned)
  -- By induction on the rounds: a question, and a reading, a pause or the end behind it.
  induction polling with
  | failed question => exact List.forall_mem_append.mpr ⟨asked question, left⟩
  | settled question => exact List.forall_mem_append.mpr ⟨asked question, left⟩
  | expired question =>
    exact List.forall_mem_append.mpr ⟨asked question, List.forall_mem_cons.mpr ⟨clock _, left⟩⟩
  | again question _ _ _ ih =>
    exact List.forall_mem_append.mpr
      ⟨asked question, List.forall_mem_cons.mpr ⟨clock _, List.forall_mem_cons.mpr ⟨wait, ih⟩⟩⟩
  | cut => exact nofun

/-- A round of a polling loop is the last one, or is followed by the rounds that are left. -/
theorem Poll.loop_succ {α β : Type} {poll : Poll α β} {pause : Duration} {deadline : Instant}
    {fuel : Nat} {outcome : Except Stop β} (uncut : Uncut poll.ask)
    (run : (poll.loop pause deadline (fuel + 1)).Ends trace outcome) :
    (Polling poll pause deadline trace outcome ∧ outcome ≠ .error .unfinished) ∨
      ∃ question value time later, trace = question ++ clocked time :: slept pause :: later ∧
        poll.ask.Ends question (.ok value) ∧ poll.verdict value = none ∧ time < deadline ∧
        (poll.loop pause deadline fuel).Ends later outcome := by
  rcases guarding_bind_run uncut run with ⟨value, earlier, later, rfl, asked, rest⟩ |
    ⟨stop, earlier, rfl, asked, rfl⟩
  · -- The question was answered, so the verdict decides.
    cases decided : poll.verdict value with
    -- The resource is settled, and the loop lets the handle go.
    | some settled =>
      simp only [decided, ends_letGo_bind, lift, Fallible.ends_ofExcept] at rest
      obtain ⟨_, rfl, rfl, rfl⟩ := rest
      refine .inl ⟨by simpa using Polling.settled asked decided, ?_⟩
      cases settled <;> simp
    | none =>
      simp only [decided, now, Fallible.ends_ask_bind] at rest
      obtain ⟨time, later, rfl, rest⟩ := rest
      -- Otherwise the clock decides whether there is another round.
      by_cases expired : deadline ≤ time
      · simp only [if_pos expired, ends_letGo_bind, Fallible.ends_throw] at rest
        obtain ⟨_, rfl, rfl, rfl⟩ := rest
        exact .inl ⟨by simpa using Polling.expired asked decided expired, by simp⟩
      · simp only [if_neg expired, sleep, Fallible.ends_ask_bind] at rest
        obtain ⟨⟨⟩, later, rfl, rest⟩ := rest
        exact .inr ⟨earlier, value, time, later, rfl, asked, decided,
          Nat.lt_of_not_le expired, rest⟩
  · -- The question failed, and the failure is the outcome.
    refine .inl ⟨.failed asked, fun cut => ?_⟩
    obtain rfl := Except.error.inj cut
    exact uncut earlier asked

/-- A polling loop ends in one of these ways. -/
theorem Poll.loop_run {α β : Type} {poll : Poll α β} {pause : Duration} {deadline : Instant}
    {fuel : Nat} {outcome : Except Stop β} (uncut : Uncut poll.ask)
    (run : (poll.loop pause deadline fuel).Ends trace outcome) :
    Polling poll pause deadline trace outcome := by
  -- Each round asks once, and only an unsettled resource before the deadline starts another.
  induction fuel generalizing trace with
  | zero =>
    obtain ⟨rfl, rfl⟩ := Fallible.ends_throw.mp run
    exact .cut
  | succ fuel ih =>
    rcases Poll.loop_succ uncut run with ⟨polling, _⟩ |
      ⟨question, value, time, later, rfl, asked, unsettled, early, rest⟩
    · exact polling
    · exact .again asked unsettled early (ih rest)

/-- When a polling loop succeeds, one of its questions was answered so that it does. -/
theorem Polling.question_ok {α β : Type} {poll : Poll α β} {pause : Duration}
    {deadline : Instant} {outcome : Except Stop β}
    (polling : Polling poll pause deadline trace outcome) :
    ∀ value, outcome = .ok value → ∃ found question, poll.ask.Ends question (.ok found) ∧
      (∀ event ∈ question, event ∈ trace) ∧ poll.verdict found = some (.ok value) := by
  -- Only a settled resource gives a result, and waiting passes that result on.
  induction polling with
  | failed question | expired question => simp
  | @settled trace found outcome question settled =>
    intro value came
    cases outcome with
    | error failure => cases came
    | ok result =>
      obtain rfl := Except.ok.inj came
      exact ⟨found, trace, question, fun event member => List.mem_append_left _ member, settled⟩
  -- The question that settles it is in a later round.
  | again question _ _ _ ih =>
    intro value came
    obtain ⟨found, asked, ended, part, settled⟩ := ih value came
    refine ⟨found, asked, ended, fun event member => ?_, settled⟩
    exact List.mem_append_right _ (.tail _ (.tail _ (part event member)))
  | cut => simp

/-- Obtaining a nonce is never cut short. -/
theorem GetRun.ne_unfinished {url : String} {outcome : Except Stop String}
    (run : GetRun url trace outcome) : outcome ≠ .error .unfinished := by
  cases run <;> simp [noNonce]

/-- A request in an account's name is never cut short. -/
theorem Asks.ne_unfinished {α : Type} {url : String} {payload : Bytes}
    {read : HttpResponse → Except AcmeError α} {outcome : Except Stop α}
    (asks : Asks lib account url payload read trace outcome) : outcome ≠ .error .unfinished := by
  obtain ⟨exchanged, run, rfl⟩ := asks
  cases run with
  | noNonce obtained =>
    -- The failure is the one of the nonce store.
    intro cut
    obtain rfl := Except.error.inj cut
    exact obtained.ne_unfinished rfl
  | unsigned obtained signed =>
    -- Signing fails by a panic only.
    obtain ⟨message, rfl⟩ := signJwsInner_panics signed
    simp [bind, Except.bind]
  | undelivered failure => simp [bind, Except.bind]
  | answered answer =>
    -- Reading a response fails with an error of the client.
    cases verdict : read answer <;> simp [bind, Except.bind, verdict]

/-- One question in an account's name. -/
def question {α : Type} (lib : Libraries) (account : Account) (url : String)
    (read : HttpResponse → Except AcmeError α) : Client α :=
  account.postKid lib url [] >>= fun answer => lift (read answer)

/-- A question in an account's name is not cut short. -/
theorem uncut_question {α : Type} (lib : Libraries) (account : Account) (url : String)
    (read : HttpResponse → Except AcmeError α) : Uncut (question lib account url read) :=
  fun _ cut => (asks_run cut).ne_unfinished rfl

namespace Challenge

/-- When a challenge is settled: valid is a success, and invalid an error. -/
def verdict (challenge : Challenge) : Option (Except AcmeError Unit) :=
  match challenge.statusEnum with
  | .valid => some (.ok ())
  | .invalid => some (.error (.malformed (errorDetail challenge.error "challenge invalid")))
  | _ => none

/-- How an armed challenge is polled. -/
def poll (lib : Libraries) (url : String) (account : Account) (ready : Handle)
    (timeout : Duration) : Poll Challenge Unit where
  handle := some ready
  ask := question lib account url (read lib)
  verdict := verdict
  late challenge := .timeout
    ("challenge " ++ url ++ " still " ++ challenge.status ++ " after " ++ timeout.debug)

/-- An armed challenge is polled by the loop. -/
theorem pollUntil_eq (lib : Libraries) (url : String) (account : Account) (ready : Handle)
    (timeout pause : Duration) (deadline : Instant) (fuel : Nat) :
    pollUntil lib url account ready timeout pause deadline fuel
      = (poll lib url account ready timeout).loop pause deadline fuel := by
  -- By induction on the turns.
  induction fuel with
  | zero => rfl
  | succ fuel ih =>
    unfold pollUntil Poll.loop
    -- Both ask the same question, and go on with its answer in the same way.
    have asked : (do
        let response ← account.postKid lib url []
        let response ← lift (response.ok lib)
        lift ((lib.parseChallenge response.body).mapError .serialization))
          = question lib account url (read lib) := by
      refine bind_congr fun answer => ?_
      simp only [read, ← lift_bind_lift]
    rw [asked]
    refine bind_congr fun challenge => ?_
    simp only [poll, verdict, ih]
    cases challenge.statusEnum <;> rfl

end Challenge

namespace Certificate

/-- When an order is settled: valid with a certificate is a success, and all else an error. -/
def verdict (order : Order) : Option (Except AcmeError Order) :=
  match order.statusEnum with
  | .valid =>
    if order.certificate = none then
      some (.error (.missingField "order.certificate on valid order"))
    else some (.ok order)
  | .invalid =>
    some (.error (.malformed (Challenge.errorDetail order.error "order invalid")))
  | _ => none

/-- How a finalized order is polled. -/
def poll (lib : Libraries) (order : Order) (account : Account) (timeout : Duration) :
    Poll Order Order where
  handle := none
  ask := question lib account order.url (Order.refreshed lib order.url)
  verdict := verdict
  late refreshed := .timeout
    ("order " ++ order.url ++ " still " ++ refreshed.status ++ " after " ++ timeout.debug)

/-- A finalized order is polled by the loop. -/
theorem pollUntil_eq (lib : Libraries) (order : Order) (account : Account)
    (timeout pause : Duration) (deadline : Instant) (fuel : Nat) :
    pollUntil lib order account timeout pause deadline fuel
      = (poll lib order account timeout).loop pause deadline fuel := by
  induction fuel with
  | zero => rfl
  | succ fuel ih =>
    unfold pollUntil Poll.loop
    rw [Order.refresh_eq]
    refine bind_congr fun refreshed => ?_
    simp only [poll, verdict, ih]
    -- A valid order is looked at once more, for its certificate.
    cases refreshed.statusEnum with
    | valid => by_cases missing : refreshed.certificate = none <;> simp only [missing] <;> rfl
    | pending | ready | processing | invalid | unknown => rfl

end Certificate

end Acme
