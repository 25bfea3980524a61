import Acme.Proofs.Rounds

/-! Submitting once and asking until the answer is final: the machine both drivers follow. -/

namespace Acme

open Interaction

/-- A driver as a machine: what it submits, what it asks, and what the answers mean to it. -/
structure Machine (α β : Type) where
  /-- Where the request is submitted. -/
  target : String
  /-- What the request says. -/
  payload : Bytes
  /-- Whom the questions go to. -/
  url : String
  /-- How the answer to a question is read. -/
  read : HttpResponse → Except AcmeError α
  /-- What is read decides nothing. -/
  undecided : α → Prop
  /-- What is read gives the result. -/
  accepts : α → β → Prop

/-- The round was answered with a 2xx status. -/
def Round.Accepted (round : Round) : Prop :=
  ∃ answer, round.answer = .ok answer ∧ answer.isSuccess = true

/-- A run follows the machine, with a deadline counted from the reading after the submission. -/
structure Machine.Runs {α β : Type} (machine : Machine α β) (account : Account)
    (timeout : Duration) (trace : History) (outcome : Except Stop β) : Prop where
  /-- One request is submitted, unless it cannot be sent, and only an accepted one is asked after. -/
  sends : (rounds trace = [] ∧ ∃ stop, outcome = .error stop ∧ Unsent account trace stop) ∨
    ∃ submission questions, rounds trace = submission :: questions ∧
      submission.Posts machine.target machine.payload ∧
      (∀ question ∈ questions, question.Posts machine.url []) ∧
      (¬ submission.Accepted → questions = [] ∧ ∃ failure, outcome = .error (.error failure))
  /-- It succeeds exactly when the last question does, and all before it decided nothing in time. -/
  succeeds : ∀ value, outcome = .ok value ↔ ∃ submission start earlier last found,
    rounds trace = submission :: (earlier ++ [last]) ∧
      submission.Accepted ∧ submission.readings = [start] ∧
      (∀ question ∈ earlier,
        question.Open machine.read machine.undecided (start + timeout.nanos)) ∧
      last.Shows machine.read found ∧ machine.accepts found value
  /-- A lapse of time comes from the transport, or the last question decided nothing in time. -/
  lapses : ∀ text, outcome = .error (.error (.timeout text)) →
    LastFailed trace (.timeout text) ∨ ∃ submission start earlier last,
      rounds trace = submission :: (earlier ++ [last]) ∧
        submission.Accepted ∧ submission.readings = [start] ∧
        last.Late machine.read machine.undecided (start + timeout.nanos)
  /-- After an accepted submission a question is sent, unless it cannot be. -/
  persists : ∀ submission, rounds trace = [submission] → submission.Accepted →
    ∃ stop, outcome = .error stop ∧ Unsent account trace stop

/-- A polling loop asks what the machine asks, and decides as the machine does. -/
structure Poll.Follows {α β : Type} (poll : Poll α β) (machine : Machine α β) (lib : Libraries)
    (account : Account) : Prop where
  asked : poll.ask = question lib account machine.url machine.read
  undecided : ∀ found, poll.verdict found = none ↔ machine.undecided found
  accepts : ∀ found value, poll.verdict found = some (.ok value) ↔ machine.accepts found value
  /-- Neither an answer nor a verdict is a lapse of time. -/
  foreign : ∀ text, Foreign machine.read (.timeout text)
  timely : ∀ found text, poll.verdict found ≠ some (.error (.timeout text))

variable {lib : Libraries} {account : Account} {trace : History}

/-- A round is accepted when its answer is read as a success. -/
theorem Round.accepted_iff {round : Round} :
    round.Accepted ↔ round.Shows (HttpResponse.accepted lib) () := by
  -- Reading the answer here means looking at its status alone.
  unfold Accepted Shows
  exact exists_congr fun answer => and_congr_right fun _ => HttpResponse.accepted_eq_ok.symm

/-- Whether a request was accepted is never read as a lapse of time. -/
theorem foreign_accepted (text : String) :
    Foreign (HttpResponse.accepted lib) (.timeout text) := by
  -- A refusal is read as the problem the response reports, which is never a lapse of time.
  intro answer
  cases success : answer.isSuccess with
  | true => simp [HttpResponse.accepted, HttpResponse.ok, success, Except.map]
  | false =>
    simpa [HttpResponse.accepted, HttpResponse.ok, success, Except.map, HttpResponse.intoError]
      using problemFromResponse_ne rfl

/-- What is read from a successful answer only is no lapse of time when its body is not. -/
theorem foreign_ok_bind {α : Type} {text : String} {rest : HttpResponse → Except AcmeError α}
    (quiet : Foreign rest (.timeout text)) :
    Foreign (fun answer => answer.ok lib >>= rest) (.timeout text) := by
  -- An answer with an error status is reported as its problem, all others are read further.
  intro answer
  cases success : answer.isSuccess with
  | true => simpa [HttpResponse.ok, success, bind, Except.bind] using quiet answer
  | false =>
    simpa [HttpResponse.ok, success, bind, Except.bind, HttpResponse.intoError]
      using problemFromResponse_ne rfl

/-- A question of a polling loop is a request that the machine makes. -/
theorem Poll.Follows.asks {α β : Type} {poll : Poll α β} {machine : Machine α β}
    {outcome : Except Stop α} (follows : poll.Follows machine lib account)
    (ended : poll.ask.Ends trace outcome) :
    Asks lib account machine.url [] machine.read trace outcome := by
  rw [follows.asked] at ended
  exact asks_run ended

/-- A polling loop has the rounds of the machine's questions. -/
theorem Poll.Follows.polled {α β : Type} {poll : Poll α β} {machine : Machine α β}
    {pause : Duration} {deadline : Instant} {outcome : Except Stop β}
    (follows : poll.Follows machine lib account)
    (polling : Polling poll pause deadline trace outcome) :
    Polled poll account machine.url machine.read deadline trace outcome :=
  polling.polled follows.asks follows.foreign follows.timely

/-- A submission that was not accepted is all that is sent, or was not sent. -/
theorem Machine.runs_unsubmitted {α β : Type} {machine : Machine α β} {timeout : Duration}
    {tail : History} {stop : Stop}
    (asks : Asks lib account machine.target machine.payload (HttpResponse.accepted lib) trace
      (.error stop))
    (still : divide tail = ([], [])) (silent : requests tail = []) :
    machine.Runs account timeout (trace ++ tail) (.error stop) := by
  -- The run has one round or none, so neither a success nor a question is in it.
  have lapses : ∀ text, (.error stop : Except Stop β) = .error (.error (.timeout text)) →
      LastFailed (trace ++ tail) (.timeout text) := by
    intro text lapsed
    obtain rfl := Except.error.inj lapsed
    exact (asks.last_failed (foreign_accepted text) rfl).before silent
  cases asks.round with
  -- The submission was not sent, and there is no round.
  | unsent failed reason quiet =>
    obtain rfl := Except.error.inj failed
    have none : rounds (trace ++ tail) = [] := by simp [rounds, quiet, still]
    exact
      { sends := .inl ⟨none, stop, rfl, reason.within [] tail⟩
        succeeds := by simp [none]
        lapses := fun text lapsed => .inl (lapses text lapsed)
        persists := by simp [none] }
  -- It was sent, and the answer was no acceptance.
  | @sent body answer carries shows plain round =>
    have one : rounds (trace ++ tail) = [⟨machine.target, body, answer, []⟩] := by
      simp [rounds, round, still]
    have refused : ¬ Round.Accepted ⟨machine.target, body, answer, []⟩ := by
      intro accepted
      cases (shows [] ()).mpr (Round.accepted_iff.mp accepted)
    obtain ⟨failure, rfl⟩ := plain stop rfl
    exact
      { sends := .inr ⟨_, [], one, ⟨rfl, carries⟩, by simp, fun _ => ⟨rfl, failure, rfl⟩⟩
        succeeds := by simp [one]
        lapses := fun text lapsed => .inl (lapses text lapsed)
        persists := by simp [one, refused] }

/-- A submission after which no deadline can be set is all that is sent. -/
theorem Machine.runs_endless {α β : Type} {machine : Machine α β} {timeout : Duration}
    {tail : History} {start : Instant} {stop : Stop}
    (asks : Asks lib account machine.target machine.payload (HttpResponse.accepted lib) trace
      (.ok ()))
    (overflow : deadlineAfter lib start timeout = .error stop) (still : divide tail = ([], [])) :
    machine.Runs account timeout (trace ++ clocked start :: tail) (.error stop) := by
  -- The submission is the only round, and what stopped the run is a panic.
  obtain ⟨message, rfl⟩ := deadlineAfter_eq_error overflow
  obtain ⟨submission, posts, shown, readings, divided⟩ := asks.shown [start] []
  have whole := divided (clocked start :: tail) (by simp [still])
  have one : rounds (trace ++ clocked start :: tail) = [submission] := by simp [rounds, whole]
  exact
    { sends := .inr ⟨submission, [], one, posts, by simp, fun refused =>
        absurd (Round.accepted_iff.mpr shown) refused⟩
      succeeds := by simp [one]
      lapses := by simp
      persists := fun _ _ _ => ⟨_, rfl, .inr ⟨message, rfl⟩⟩ }

/-- An accepted submission is followed by the questions of the polling loop. -/
theorem Machine.runs_polled {α β : Type} {machine : Machine α β} {poll : Poll α β}
    {timeout pause : Duration} {later : History} {start deadline : Instant}
    {outcome : Except Stop β} (follows : poll.Follows machine lib account)
    (asks : Asks lib account machine.target machine.payload (HttpResponse.accepted lib) trace
      (.ok ()))
    (representable : deadlineAfter lib start timeout = .ok deadline)
    (polling : Polling poll pause deadline later outcome)
    (started : outcome = .error .unfinished → rounds later ≠ []) :
    machine.Runs account timeout (trace ++ clocked start :: later) outcome := by
  obtain rfl := deadlineAfter_eq_ok representable
  -- The submission is the first round, and the questions of the loop are the others.
  have polled := follows.polled polling
  obtain ⟨submission, posts, shown, readings, divided⟩ := asks.shown [start] (rounds later)
  have whole := divided (clocked start :: later) (by simp [polled.unread, rounds])
  have more : rounds (trace ++ clocked start :: later) = submission :: rounds later := by
    simp only [rounds, whole]
  have accepted : submission.Accepted := Round.accepted_iff.mpr shown
  -- What the loop takes for unsettled is what the machine takes for undecided.
  have undecided : poll.Unsettled = machine.undecided :=
    funext fun found => propext (follows.undecided found)
  refine
    { sends := .inr ⟨submission, rounds later, more, posts, polled.asks, fun refused =>
        absurd accepted refused⟩
      succeeds := ?_
      lapses := ?_
      persists := ?_ }
  · -- What the loop says about its questions, the machine says about those after the submission.
    intro value
    rw [polled.succeeds value, more]
    constructor
    · intro succeeded
      obtain ⟨earlier, last, found, split, opened, shows, verdict⟩ := succeeded
      exact ⟨submission, start, earlier, last, found, by rw [split], accepted, readings,
        undecided ▸ opened, shows, (follows.accepts found value).mp verdict⟩
    · intro succeeded
      obtain ⟨first, began, earlier, last, found, split, _, same, opened, shows, accepts⟩ :=
        succeeded
      obtain ⟨rfl, rest⟩ := List.cons.inj split
      obtain rfl : start = began := by simpa [readings] using same
      exact ⟨earlier, last, found, rest, undecided ▸ opened, shows,
        (follows.accepts found value).mpr accepts⟩
  · intro text lapsed
    -- A lapse of the loop comes from its last question, which is the last of the run.
    rcases polled.lapses text lapsed with failed | ⟨earlier, last, split, late⟩
    · left
      simpa using failed.after (trace ++ [clocked start])
    · obtain ⟨value, time, shows, ⟨unsettled, _⟩, read, expired⟩ := late
      exact .inr ⟨submission, start, earlier, last, by rw [more, split], accepted, readings,
        value, time, shows, undecided ▸ unsettled, read, expired⟩
  · intro only one _
    -- Without a question the loop was cut, or its first question was not sent.
    rw [more] at one
    obtain ⟨_, none⟩ := List.cons.inj one
    obtain ⟨stop, rfl, unsent | rfl⟩ := polled.unsent none
    · exact ⟨stop, rfl, by simpa using unsent.within (trace ++ [clocked start]) []⟩
    · exact absurd none (started rfl)

end Acme
