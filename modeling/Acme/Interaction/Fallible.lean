import Acme.Interaction.Program

/-! Programs that may stop early with an error, and what a run says about each of their steps. -/

namespace Interaction

/-- A program whose value is either a result or the reason it stopped early. -/
abbrev Fallible (S : Signature) (ε α : Type) := ExceptT ε (Program S) α

namespace Fallible

variable {S : Signature} {ε δ α β : Type}

/-- One call, whose reply is read as a result or as a failure. -/
def ask (request : S.Call) (read : S.Reply request → Except ε α) : Fallible S ε α :=
  ExceptT.mk (.call request fun reply => .done (read reply))

/-- A result that was computed without calling anything. -/
def ofExcept (outcome : Except ε α) : Fallible S ε α :=
  ExceptT.mk (.done outcome)

/-- Run a cleanup when a program stops early, and pass its error on. -/
def cleaning (cleanup : ε → Program S Unit) (program : Fallible S ε α) : Fallible S ε α :=
  ExceptT.mk (program.run.bind fun outcome => match outcome with
    | .ok value => .done (.ok value)
    | .error failure => (cleanup failure).bind fun _ => .done (.error failure))

/-- Take another view of how a program ended. -/
def viewing (view : Except ε α → Except ε β) (program : Fallible S ε α) : Fallible S ε β :=
  ExceptT.mk (program.run.bind fun outcome => .done (view outcome))

/-- Report the failures of a program as failures of another kind. -/
def reporting (view : ε → δ) (program : Fallible S ε α) : Fallible S δ α :=
  ExceptT.mk (program.run.bind fun outcome => .done (outcome.mapError view))

/-- The program has the given outcome after exactly the calls of a trace. -/
def Ends (program : Fallible S ε α) (trace : Trace S) (outcome : Except ε α) : Prop :=
  program.run.Returns trace outcome

@[simp] theorem ends_pure {value : α} {trace : Trace S} {outcome : Except ε α} :
    Ends (pure value : Fallible S ε α) trace outcome ↔ trace = [] ∧ outcome = .ok value :=
  Program.returns_done

@[simp] theorem ends_throw {failure : ε} {trace : Trace S} {outcome : Except ε α} :
    Ends (throw failure : Fallible S ε α) trace outcome ↔
      trace = [] ∧ outcome = .error failure :=
  Program.returns_done

@[simp] theorem ends_ofExcept {result outcome : Except ε α} {trace : Trace S} :
    Ends (ofExcept result : Fallible S ε α) trace outcome ↔ trace = [] ∧ outcome = result :=
  Program.returns_done

@[simp] theorem ends_ask {request : S.Call} {read : S.Reply request → Except ε α}
    {trace : Trace S} {outcome : Except ε α} :
    Ends (ask request read) trace outcome ↔
      ∃ reply, trace = [⟨request, reply⟩] ∧ outcome = read reply := by
  simp [Ends, ask, ExceptT.run, ExceptT.mk]

/-- A sequence ends in its second part after a first result, or at the failure of its first. -/
theorem ends_bind {first : Fallible S ε α} {rest : α → Fallible S ε β}
    {trace : Trace S} {outcome : Except ε β} :
    Ends (first >>= rest) trace outcome ↔
      (∃ value earlier later, trace = earlier ++ later ∧ first.Ends earlier (.ok value) ∧
        (rest value).Ends later outcome) ∨
      ∃ failure, first.Ends trace (.error failure) ∧ outcome = .error failure := by
  -- A failure of the first part leaves nothing for the second part to call.
  simp only [Ends, ExceptT.run_bind, Program.bind_eq, Program.returns_bind]
  constructor
  · intro divided
    obtain ⟨result, earlier, later, rfl, ended, remains⟩ := divided
    cases result with
    | ok value => exact .inl ⟨value, earlier, later, rfl, ended, remains⟩
    | error failure =>
      obtain ⟨rfl, rfl⟩ := Program.returns_done.mp remains
      exact .inr ⟨failure, by simpa using ended, rfl⟩
  · -- Conversely, the two parts make a run one behind the other.
    intro either
    rcases either with ⟨value, earlier, later, rfl, ended, remains⟩ | ⟨failure, ended, rfl⟩
    · exact ⟨.ok value, earlier, later, rfl, ended, remains⟩
    · exact ⟨.error failure, trace, [], by simp, ended, Program.returns_done.mpr ⟨rfl, rfl⟩⟩

/-- A sequence that starts with a call continues as the reply to it is read. -/
@[simp] theorem ends_ask_bind {request : S.Call} {read : S.Reply request → Except ε α}
    {rest : α → Fallible S ε β} {trace : Trace S} {outcome : Except ε β} :
    Ends (ask request read >>= rest) trace outcome ↔
      ∃ reply later, trace = ⟨request, reply⟩ :: later ∧ match read reply with
        | .ok value => (rest value).Ends later outcome
        | .error failure => later = [] ∧ outcome = .error failure := by
  simp only [ends_bind, ends_ask]
  constructor
  · -- The reply was read either as a result or as a failure.
    intro either
    rcases either with ⟨value, _, later, rfl, ⟨reply, rfl, given⟩, remains⟩ |
      ⟨failure, ⟨reply, rfl, given⟩, rfl⟩
    · exact ⟨reply, later, rfl, by rw [← given]; exact remains⟩
    · exact ⟨reply, [], rfl, by rw [← given]; exact ⟨rfl, rfl⟩⟩
  · -- Conversely, the reply decides how it goes on.
    intro answered
    obtain ⟨reply, later, rfl, remains⟩ := answered
    cases given : read reply with
    | ok value =>
      rw [given] at remains
      exact .inl ⟨value, [_], later, rfl, ⟨reply, rfl, given.symm⟩, remains⟩
    -- What follows is not run.
    | error failure =>
      rw [given] at remains
      obtain ⟨rfl, rfl⟩ := remains
      exact .inr ⟨failure, ⟨reply, rfl, given.symm⟩, rfl⟩

/-- A sequence that starts with a computed result continues from it, or stops at its failure. -/
@[simp] theorem ends_ofExcept_bind {result : Except ε α} {rest : α → Fallible S ε β}
    {trace : Trace S} {outcome : Except ε β} :
    Ends (ofExcept result >>= rest) trace outcome ↔ match result with
      | .ok value => (rest value).Ends trace outcome
      | .error failure => trace = [] ∧ outcome = .error failure := by
  -- The result is known before anything is called.
  cases result <;> simp [ends_bind]

/-- A computation on the result of a program calls nothing further. -/
theorem ends_bind_ofExcept {first : Fallible S ε α} {compute : α → Except ε β}
    {trace : Trace S} {outcome : Except ε β} :
    Ends (first >>= fun value => ofExcept (compute value)) trace outcome ↔
      ∃ original, first.Ends trace original ∧ outcome = original >>= compute := by
  simp only [ends_bind, ends_ofExcept]
  constructor
  · -- Either the computation is reached with a result, or the failure is the outcome.
    intro either
    rcases either with ⟨value, earlier, _, rfl, ended, rfl, rfl⟩ | ⟨failure, ended, rfl⟩
    · exact ⟨.ok value, by simpa using ended, rfl⟩
    · exact ⟨.error failure, ended, rfl⟩
  · -- Conversely, a computation makes no calls of its own.
    intro computed
    obtain ⟨original, ended, rfl⟩ := computed
    cases original with
    | ok value => exact .inl ⟨value, trace, [], by simp, ended, rfl, rfl⟩
    | error failure => exact .inr ⟨failure, ended, rfl⟩

/-- Nothing follows a failure. -/
@[simp] theorem ends_throw_bind {failure : ε} {rest : α → Fallible S ε β} {trace : Trace S}
    {outcome : Except ε β} :
    Ends ((throw failure : Fallible S ε α) >>= rest) trace outcome ↔
      trace = [] ∧ outcome = .error failure :=
  ends_throw

/-- A cleanup runs after the failure it belongs to, and never after a result. -/
@[simp] theorem ends_cleaning {cleanup : ε → Program S Unit} {program : Fallible S ε α}
    {trace : Trace S} {outcome : Except ε α} :
    Ends (cleaning cleanup program) trace outcome ↔
      (∃ value, program.Ends trace (.ok value) ∧ outcome = .ok value) ∨
      ∃ failure earlier later, trace = earlier ++ later ∧ program.Ends earlier (.error failure) ∧
        (cleanup failure).Returns later () ∧ outcome = .error failure := by
  simp only [Ends, cleaning, ExceptT.run, ExceptT.mk, Program.returns_bind]
  constructor
  · -- What remains after the program is nothing, or the cleanup.
    intro divided
    obtain ⟨result, earlier, later, rfl, ended, remains⟩ := divided
    cases result with
    | ok value =>
      obtain ⟨rfl, rfl⟩ := Program.returns_done.mp remains
      exact .inl ⟨value, by simpa using ended, rfl⟩
    -- The cleanup runs behind the failure, and the failure stays.
    | error failure =>
      obtain ⟨_, cleaned, last, rfl, cleans, finished⟩ := Program.returns_bind.mp remains
      obtain ⟨rfl, rfl⟩ := Program.returns_done.mp finished
      exact .inr ⟨failure, earlier, cleaned, by simp, ended, cleans, rfl⟩
  · -- Conversely, the cleanup stands behind a failure, and behind nothing else.
    intro either
    rcases either with ⟨value, ended, rfl⟩ | ⟨failure, earlier, later, rfl, ended, cleans, rfl⟩
    · exact ⟨.ok value, trace, [], by simp, ended, Program.returns_done.mpr ⟨rfl, rfl⟩⟩
    · exact ⟨.error failure, earlier, later, rfl, ended,
        Program.returns_bind.mpr ⟨(), later, [], by simp, cleans, by simp⟩⟩

/-- A view of an outcome does not change what was called. -/
@[simp] theorem ends_viewing {view : Except ε α → Except ε β} {program : Fallible S ε α}
    {trace : Trace S} {outcome : Except ε β} :
    Ends (viewing view program) trace outcome ↔
      ∃ original, program.Ends trace original ∧ outcome = view original := by
  simp only [Ends, viewing, ExceptT.run, ExceptT.mk, Program.returns_bind, Program.returns_done]
  constructor
  · -- Nothing is called after the program.
    intro viewed
    obtain ⟨original, earlier, later, rfl, ended, rfl, rfl⟩ := viewed
    exact ⟨original, by simpa using ended, rfl⟩
  · intro viewed
    obtain ⟨original, ended, rfl⟩ := viewed
    exact ⟨original, trace, [], by simp, ended, rfl, rfl⟩

/-- Another kind of failure does not change what was called. -/
@[simp] theorem ends_reporting {view : ε → δ} {program : Fallible S ε α} {trace : Trace S}
    {outcome : Except δ α} :
    Ends (reporting view program) trace outcome ↔
      ∃ original, program.Ends trace original ∧ outcome = original.mapError view := by
  simp only [Ends, reporting, ExceptT.run, ExceptT.mk, Program.returns_bind, Program.returns_done]
  constructor
  · -- Nothing is called after the program.
    intro reported
    obtain ⟨original, earlier, later, rfl, ended, rfl, rfl⟩ := reported
    exact ⟨original, by simpa using ended, rfl⟩
  · intro reported
    obtain ⟨original, ended, rfl⟩ := reported
    exact ⟨original, trace, [], by simp, ended, rfl, rfl⟩

end Fallible

end Interaction
