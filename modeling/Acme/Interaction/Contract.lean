import Acme.Interaction.Fallible
import Acme.Interaction.World

/-! Contracts: what surroundings demand of calls, and what they promise to answer in return. -/

namespace Interaction

variable {S : Signature} {σ α β ε : Type}

/-- What surroundings with a state demand of every call, and promise of every reply. -/
structure Contract (S : Signature) (σ : Type) where
  Demands : σ → S.Call → Prop
  Promises : σ → Event S → Prop
  next : σ → Event S → σ

namespace Contract

variable (C : Contract S σ)

/-- Surroundings that keep their promises. -/
def promising : World S σ where
  Allows := C.Promises
  next := C.next

/-- Surroundings that insist on their demands. -/
def demanding : World S σ where
  Allows state event := C.Demands state event.call
  next := C.next

end Contract

variable {C : Contract S σ}

namespace Program

/-- From a state, every call meets the demands, and what is promised leads to a postcondition. -/
def Keeps (C : Contract S σ) : σ → Program S α → (α → σ → Prop) → Prop
  | state, .done value, post => post value state
  | state, .call request next, post => C.Demands state request ∧
      ∀ reply, C.Promises state ⟨request, reply⟩ →
        (next reply).Keeps C (C.next state ⟨request, reply⟩) post

variable {state : σ} {post : β → σ → Prop}

@[simp] theorem keeps_done {value : β} :
    (Program.done value).Keeps C state post ↔ post value state := Iff.rfl

@[simp] theorem keeps_call {request : S.Call} {next : S.Reply request → Program S β} :
    (Program.call request next).Keeps C state post ↔ C.Demands state request ∧
      ∀ reply, C.Promises state ⟨request, reply⟩ →
        (next reply).Keeps C (C.next state ⟨request, reply⟩) post := Iff.rfl

/-- A sequence keeps a contract when its first part does, up to where the second part does. -/
@[simp] theorem keeps_bind {program : Program S α} {rest : α → Program S β} :
    (program.bind rest).Keeps C state post ↔
      program.Keeps C state fun value reached => (rest value).Keeps C reached post := by
  -- The state is carried through the calls of the first part to the start of the second.
  induction program generalizing state with
  | done value => rfl
  | call request next ih => simp only [call_bind, keeps_call, ih]

/-- A postcondition can be weakened. -/
theorem Keeps.mono {program : Program S β} {weaker : β → σ → Prop}
    (keeps : program.Keeps C state post)
    (implies : ∀ value reached, post value reached → weaker value reached) :
    program.Keeps C state weaker := by
  -- The calls stay as they are, and only what is asked of the value changes.
  induction program generalizing state with
  | done value => exact implies value state keeps
  | call request next ih =>
    exact ⟨keeps.1, fun reply promised => ih reply (keeps.2 reply promised)⟩

/-- As long as the promises are kept, so are the demands. -/
theorem Keeps.leads {program reached : Program S β} {trace : Trace S}
    (keeps : program.Keeps C state post) (leads : program.Leads trace reached)
    (promised : C.promising.Admits state trace) :
    C.demanding.Admits state trace ∧ reached.Keeps C (C.promising.after state trace) post := by
  -- Each call was demanded, and its promised reply leads to a state from which the rest keeps on.
  induction leads generalizing state with
  | refl => exact ⟨trivial, keeps⟩
  | @step request next reply trace rest later ih =>
    obtain ⟨kept, further⟩ := promised
    obtain ⟨admits, ends⟩ := ih (keeps.2 reply kept) further
    exact ⟨⟨keeps.1, admits⟩, ends⟩

/--
Surroundings keep all promises when they keep each one for which the promises before it were
kept, and the call was one that they demand.
-/
theorem Keeps.promising {program reached : Program S β} {trace : Trace S}
    (keeps : program.Keeps C state post) (leads : program.Leads trace reached)
    (fair : ∀ before event after, trace = before ++ event :: after →
      C.promising.Admits state before → C.Demands (C.promising.after state before) event.call →
      C.Promises (C.promising.after state before) event) :
    C.promising.Admits state trace := by
  -- Each promise is kept for a call that was demanded, and so the next call is demanded too.
  induction leads generalizing state with
  | refl => trivial
  | @step request next reply trace rest later ih =>
    have kept : C.Promises state ⟨request, reply⟩ := fair [] _ trace rfl trivial keeps.1
    refine ⟨kept, ih (keeps.2 reply kept) fun before event after split earlier demanded => ?_⟩
    exact fair (⟨request, reply⟩ :: before) event after (by rw [split]; rfl) ⟨kept, earlier⟩ demanded

/-- Surroundings that answer as promised whatever is demanded of them keep their promises. -/
theorem Keeps.play_admits {answer : Trace S → (request : S.Call) → S.Reply request} {start : σ}
    (honest : ∀ history request, C.Demands (C.promising.after start history) request →
      C.Promises (C.promising.after start history) ⟨request, answer history request⟩)
    {program : Program S β} (history : Trace S)
    (keeps : program.Keeps C (C.promising.after start history) post) :
    C.promising.Admits (C.promising.after start history) (program.play answer history).1 := by
  -- The calls are demanded as long as the answers are promised, and the other way around.
  induction program generalizing history with
  | done value => trivial
  | call request next ih =>
    have promised := honest history request keeps.1
    refine ⟨promised, ?_⟩
    have later := ih (answer history request) (history ++ [⟨request, answer history request⟩])
    rw [World.after_append] at later
    exact later (keeps.2 _ promised)

end Program

namespace Fallible

/-- A program that may stop early keeps a contract. -/
def Keeps (C : Contract S σ) (state : σ) (program : Fallible S ε α)
    (post : Except ε α → σ → Prop) : Prop :=
  Program.Keeps C state program.run post

variable {state : σ} {post : Except ε β → σ → Prop}

@[simp] theorem keeps_pure {value : β} :
    Keeps C state (pure value : Fallible S ε β) post ↔ post (.ok value) state := Iff.rfl

@[simp] theorem keeps_throw {failure : ε} :
    Keeps C state (throw failure : Fallible S ε β) post ↔ post (.error failure) state := Iff.rfl

@[simp] theorem keeps_ofExcept {result : Except ε β} :
    Keeps C state (ofExcept result : Fallible S ε β) post ↔ post result state := Iff.rfl

@[simp] theorem keeps_ask {request : S.Call} {read : S.Reply request → Except ε β} :
    Keeps C state (ask request read) post ↔ C.Demands state request ∧
      ∀ reply, C.Promises state ⟨request, reply⟩ →
        post (read reply) (C.next state ⟨request, reply⟩) := Iff.rfl

/-- The second part of a sequence starts from the results of the first, and failures pass by. -/
@[simp] theorem keeps_bind {first : Fallible S ε α} {rest : α → Fallible S ε β} :
    Keeps C state (first >>= rest) post ↔
      Keeps C state first fun outcome reached => match outcome with
        | .ok value => Keeps C reached (rest value) post
        | .error failure => post (.error failure) reached := by
  simp only [Keeps, ExceptT.run_bind, Program.bind_eq, Program.keeps_bind]
  -- Both sides ask the same of each outcome of the first part.
  constructor
  all_goals
    refine fun keeps => keeps.mono fun outcome reached ends => ?_
    cases outcome <;> exact ends

/-- A cleanup starts from the failure of the program it belongs to, and results pass by. -/
@[simp] theorem keeps_cleaning {cleanup : ε → Program S Unit} {program : Fallible S ε β} :
    Keeps C state (cleaning cleanup program) post ↔
      Keeps C state program fun outcome reached => match outcome with
        | .ok value => post (.ok value) reached
        | .error failure =>
          (cleanup failure).Keeps C reached fun _ last => post (.error failure) last := by
  simp only [Keeps, cleaning, ExceptT.run, ExceptT.mk, Program.keeps_bind]
  -- Both sides ask the same of each outcome of the program.
  constructor
  all_goals
    refine fun keeps => keeps.mono fun outcome reached ends => ?_
    cases outcome <;> simpa using ends

end Fallible

end Interaction
