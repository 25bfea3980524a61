import Acme.Interaction.Fallible
import Acme.Interaction.World

/-! Programs that keep to what a world allows, whatever they are answered. -/

namespace Interaction

variable {S : Signature} {σ α β ε : Type} {W : World S σ}

/-- An event inside an allowed trace is allowed in the state its predecessors lead to. -/
theorem World.admits_at {state : σ} {before after : Trace S} {event : Event S}
    (admits : W.Admits state (before ++ event :: after)) :
    W.Allows (W.after state before) event :=
  (World.admits_append.mp admits).2.1

namespace Program

/-- From a state, every call is allowed whatever its reply, and the end meets a postcondition. -/
def Safe (W : World S σ) : σ → Program S α → (α → σ → Prop) → Prop
  | state, .done value, post => post value state
  | state, .call request next, post =>
    ∀ reply, W.Allows state ⟨request, reply⟩ ∧
      (next reply).Safe W (W.next state ⟨request, reply⟩) post

variable {state : σ} {post : β → σ → Prop}

@[simp] theorem safe_done {value : β} :
    (Program.done value).Safe W state post ↔ post value state := Iff.rfl

@[simp] theorem safe_call {request : S.Call} {next : S.Reply request → Program S β} :
    (Program.call request next).Safe W state post ↔
      ∀ reply, W.Allows state ⟨request, reply⟩ ∧
        (next reply).Safe W (W.next state ⟨request, reply⟩) post := Iff.rfl

/-- A sequence is safe when its first part is, up to a state from which the second part is. -/
@[simp] theorem safe_bind {program : Program S α} {rest : α → Program S β} :
    (program.bind rest).Safe W state post ↔
      program.Safe W state fun value reached => (rest value).Safe W reached post := by
  -- The state is carried through the calls of the first part to the start of the second.
  induction program generalizing state with
  | done value => rfl
  | call request next ih => simp only [call_bind, safe_call, ih]

/-- A postcondition can be weakened. -/
theorem Safe.mono {program : Program S β} {weaker : β → σ → Prop}
    (safe : program.Safe W state post)
    (implies : ∀ value reached, post value reached → weaker value reached) :
    program.Safe W state weaker := by
  -- The calls stay as they are, and only what is asked of the value changes.
  induction program generalizing state with
  | done value => exact implies value state safe
  | call request next ih => exact fun reply => ⟨(safe reply).1, ih reply (safe reply).2⟩

/-- When every call has some reply, a program is safe as soon as all its finished runs are. -/
theorem safe_of_returns {program : Program S β}
    (answered : ∀ request, Nonempty (S.Reply request))
    (safe : ∀ trace value, program.Returns trace value →
      W.Admits state trace ∧ post value (W.after state trace)) : program.Safe W state post := by
  -- A reply that breaks safety would be the start of some finished run that breaks it.
  induction program generalizing state with
  | done value => exact (safe [] value (.refl _)).2
  | call request next ih =>
    intro reply
    have later : ∀ trace value, (next reply).Returns trace value →
        W.Admits state (⟨request, reply⟩ :: trace) ∧
          post value (W.after state (⟨request, reply⟩ :: trace)) :=
      fun trace value returns => safe _ value (.step returns)
    constructor
    · -- Some run continues after this reply, and it is allowed from its first event on.
      obtain ⟨trace, value, returns⟩ := exists_returns answered (next reply)
      exact (later trace value returns).1.1
    · apply ih reply
      intro trace value returns
      obtain ⟨admits, ends⟩ := later trace value returns
      exact ⟨admits.2, ends⟩

/-- An unfinished run of a safe program is allowed as well. -/
theorem Safe.leads {program reached : Program S β} {trace : Trace S}
    (safe : program.Safe W state post) (leads : program.Leads trace reached) :
    W.Admits state trace ∧ reached.Safe W (W.after state trace) post := by
  -- Each answered call was required to be allowed, and the rest starts from the state after it.
  induction leads generalizing state with
  | refl => exact ⟨trivial, safe⟩
  | @step request next reply trace rest later ih =>
    obtain ⟨admits, ends⟩ := ih (safe reply).2
    exact ⟨⟨(safe reply).1, admits⟩, ends⟩

end Program

namespace Fallible

/-- Safety of a program that may stop early. -/
def Safe (W : World S σ) (state : σ) (program : Fallible S ε α)
    (post : Except ε α → σ → Prop) : Prop :=
  Program.Safe W state program.run post

variable {state : σ} {post : Except ε β → σ → Prop}

@[simp] theorem safe_pure {value : β} :
    Safe W state (pure value : Fallible S ε β) post ↔ post (.ok value) state := Iff.rfl

@[simp] theorem safe_throw {failure : ε} :
    Safe W state (throw failure : Fallible S ε β) post ↔ post (.error failure) state := Iff.rfl

@[simp] theorem safe_ofExcept {result : Except ε β} :
    Safe W state (ofExcept result : Fallible S ε β) post ↔ post result state := Iff.rfl

@[simp] theorem safe_ask {request : S.Call} {read : S.Reply request → Except ε β} :
    Safe W state (ask request read) post ↔
      ∀ reply, W.Allows state ⟨request, reply⟩ ∧
        post (read reply) (W.next state ⟨request, reply⟩) := Iff.rfl

/-- The second part of a sequence starts from the results of the first, and failures pass by. -/
@[simp] theorem safe_bind {first : Fallible S ε α} {rest : α → Fallible S ε β} :
    Safe W state (first >>= rest) post ↔
      Safe W state first fun outcome reached => match outcome with
        | .ok value => Safe W reached (rest value) post
        | .error failure => post (.error failure) reached := by
  simp only [Safe, ExceptT.run_bind, Program.bind_eq, Program.safe_bind]
  -- Both sides ask the same of each outcome of the first part.
  constructor
  all_goals
    refine fun safe => safe.mono fun outcome reached ends => ?_
    cases outcome <;> exact ends

/-- A cleanup starts from the failure of the program it belongs to, and results pass by. -/
@[simp] theorem safe_cleaning {cleanup : ε → Program S Unit} {program : Fallible S ε β} :
    Safe W state (cleaning cleanup program) post ↔
      Safe W state program fun outcome reached => match outcome with
        | .ok value => post (.ok value) reached
        | .error failure =>
          (cleanup failure).Safe W reached fun _ last => post (.error failure) last := by
  simp only [Safe, cleaning, ExceptT.run, ExceptT.mk, Program.safe_bind]
  -- Both sides ask the same of each outcome of the program.
  constructor
  all_goals
    refine fun safe => safe.mono fun outcome reached ends => ?_
    cases outcome <;> simpa using ends

/-- When every call has some reply, a program is safe as soon as all its finished runs are. -/
theorem safe_of_ends {program : Fallible S ε β} (answered : ∀ request, Nonempty (S.Reply request))
    (safe : ∀ trace outcome, program.Ends trace outcome →
      W.Admits state trace ∧ post outcome (W.after state trace)) : Safe W state program post :=
  Program.safe_of_returns answered safe

/-- Whatever state it starts in, a program stops early only when the state then shows a reason. -/
def Blames (W : World S σ) (reason : ε → σ → Prop) (program : Fallible S ε β) : Prop :=
  ∀ state, Safe W state program fun outcome reached =>
    ∀ failure, outcome = .error failure → reason failure reached

section Blames

variable {reason : ε → σ → Prop}

/-- A value is no failure. -/
theorem blames_pure {value : β} : Blames W reason (pure value : Fallible S ε β) := by
  intro state failure impossible
  cases impossible

/-- A sequence has the reasons of its parts. -/
theorem Blames.bind {first : Fallible S ε α} {rest : α → Fallible S ε β}
    (blames : Blames W reason first) (others : ∀ value, Blames W reason (rest value)) :
    Blames W reason (first >>= rest) := by
  intro state
  refine safe_bind.mpr (Program.Safe.mono (blames state) ?_)
  -- What follows starts in whatever state the first part has led to.
  rintro (failure | value) reached shown
  · rintro _ ⟨⟩
    exact shown failure rfl
  · exact others value reached

/-- A call has a reason when its reply is read as a failure. -/
theorem blames_ask {request : S.Call} {read : S.Reply request → Except ε β}
    (allowed : ∀ state reply, W.Allows state ⟨request, reply⟩)
    (refused : ∀ state reply failure, read reply = .error failure →
      reason failure (W.next state ⟨request, reply⟩)) :
    Blames W reason (ask request read) :=
  fun state reply => ⟨allowed state reply, fun failure same => refused state reply failure same⟩

/-- A cleanup that leaves the reasons standing gives none away. -/
theorem Blames.cleaning {cleanup : ε → Program S Unit} {program : Fallible S ε β}
    (blames : Blames W reason program)
    (standing : ∀ failure state, reason failure state →
      (cleanup failure).Safe W state fun _ last => reason failure last) :
    Blames W reason (cleaning cleanup program) := by
  intro state
  refine safe_cleaning.mpr (Program.Safe.mono (blames state) ?_)
  rintro (failure | value) reached shown
  · -- After a failure the reason stands throughout the cleanup.
    refine Program.Safe.mono (standing failure reached (shown failure rfl)) ?_
    rintro ⟨⟩ last kept _ ⟨⟩
    exact kept
  · -- After a success there is nothing to blame.
    rintro _ ⟨⟩

end Blames

end Fallible

end Interaction
