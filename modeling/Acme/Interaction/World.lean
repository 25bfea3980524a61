import Acme.Interaction.Program

/-! Surroundings with a state, which decides what each call may be answered. -/

namespace Interaction

/-- Surroundings with a state: the events it allows, and the state each event leads to. -/
structure World (S : Signature) (σ : Type) where
  Allows : σ → Event S → Prop
  next : σ → Event S → σ

namespace World

variable {S : Signature} {σ : Type} (W : World S σ)

/-- The state after a whole trace. -/
def after (state : σ) (trace : Trace S) : σ :=
  trace.foldl W.next state

/-- Every event of the trace is allowed in the state it happens in. -/
def Admits : σ → Trace S → Prop
  | _, [] => True
  | state, event :: later => W.Allows state event ∧ Admits (W.next state event) later

instance decidableAdmits [∀ state event, Decidable (W.Allows state event)] :
    (state : σ) → (trace : Trace S) → Decidable (W.Admits state trace)
  | _, [] => .isTrue trivial
  | state, event :: later =>
    have := decidableAdmits (W.next state event) later
    inferInstanceAs (Decidable (W.Allows state event ∧ W.Admits (W.next state event) later))

/-- The same surroundings, for events that are seen as events of theirs. -/
def through {T : Signature} (W : World T σ) (view : Event S → Event T) : World S σ where
  Allows state event := W.Allows state (view event)
  next state event := W.next state (view event)

instance {T : Signature} {W : World T σ} {view : Event S → Event T} {state : σ} {event : Event S}
    [Decidable (W.Allows state (view event))] : Decidable ((W.through view).Allows state event) :=
  inferInstanceAs (Decidable (W.Allows state (view event)))

variable {W}

@[simp] theorem after_nil {state : σ} : W.after state [] = state := rfl

@[simp] theorem after_cons {state : σ} {event : Event S} {later : Trace S} :
    W.after state (event :: later) = W.after (W.next state event) later := rfl

@[simp] theorem after_append {state : σ} {earlier later : Trace S} :
    W.after state (earlier ++ later) = W.after (W.after state earlier) later :=
  List.foldl_append

@[simp] theorem admits_nil {state : σ} : W.Admits state [] := trivial

@[simp] theorem admits_cons {state : σ} {event : Event S} {later : Trace S} :
    W.Admits state (event :: later) ↔
      W.Allows state event ∧ W.Admits (W.next state event) later := Iff.rfl

/-- A joined trace is allowed when its parts are, the second from where the first leads. -/
@[simp] theorem admits_append {state : σ} {earlier later : Trace S} :
    W.Admits state (earlier ++ later) ↔
      W.Admits state earlier ∧ W.Admits (W.after state earlier) later := by
  -- The state moves along the first part, event by event.
  induction earlier generalizing state with
  | nil => simp
  | cons event earlier ih => simp [ih, and_assoc]

/-- States that are related stay so when each event that both worlds allow keeps them related. -/
theorem related {τ : Type} {V : World S τ} {relation : σ → τ → Prop}
    (step : ∀ {state other event}, relation state other → W.Allows state event →
      V.Allows other event → relation (W.next state event) (V.next other event))
    {state : σ} {other : τ} {trace : Trace S} (start : relation state other)
    (admits : W.Admits state trace) (admitted : V.Admits other trace) :
    relation (W.after state trace) (V.after other trace) := by
  -- By induction on the trace, from any related states.
  induction trace generalizing state other with
  | nil => exact start
  | cons event later ih =>
    exact ih (step start admits.1 admitted.1) admits.2 admitted.2

/-- Surroundings that always answer as the world allows make allowed traces. -/
theorem play_admits {α : Type} {state : σ}
    {answer : Trace S → (request : S.Call) → S.Reply request}
    (fair : ∀ history request,
      W.Allows (W.after state history) ⟨request, answer history request⟩)
    (program : Program S α) (history : Trace S) :
    W.Admits (W.after state history) (program.play answer history).1 := by
  -- The state is the one the whole history so far has led to.
  induction program generalizing history with
  | done value => trivial
  | call request next ih =>
    refine ⟨fair history request, ?_⟩
    have later := ih (answer history request) (history ++ [⟨request, answer history request⟩])
    rwa [after_append, after_cons, after_nil] at later

/-- A world that remembers everything, and judges each event by what happened before it. -/
def chronicle (allowed : Trace S → Event S → Prop) : World S (Trace S) where
  Allows := allowed
  next history event := history ++ [event]

@[simp] theorem chronicle_allows {allowed : Trace S → Event S → Prop} {history : Trace S}
    {event : Event S} : (chronicle allowed).Allows history event ↔ allowed history event := Iff.rfl

@[simp] theorem chronicle_next {allowed : Trace S → Event S → Prop} {history : Trace S}
    {event : Event S} : (chronicle allowed).next history event = history ++ [event] := rfl

/-- What such a world has come to know is the history and the trace together. -/
@[simp] theorem after_chronicle {allowed : Trace S → Event S → Prop} {history trace : Trace S} :
    (chronicle allowed).after history trace = history ++ trace := by
  -- Each event is added at the end of what is known.
  induction trace generalizing history with
  | nil => simp [after]
  | cons event later ih =>
    rw [after_cons, ih]
    simp

/-- Such a world allows a trace when it allows each event after what came before. -/
theorem chronicle_admits_iff {allowed : Trace S → Event S → Prop} {history trace : Trace S} :
    (chronicle allowed).Admits history trace ↔
      ∀ before event after, trace = before ++ event :: after → allowed (history ++ before) event := by
  -- Each event is judged once, after the history and the events before it.
  induction trace generalizing history with
  | nil => simp
  | cons first rest ih =>
    simp only [admits_cons, chronicle_allows, chronicle_next, ih]
    constructor
    · -- The event in question is the first one, or one of the others.
      intro judged before event after split
      obtain ⟨head, tail⟩ := judged
      cases before with
      | nil =>
        obtain ⟨rfl, rfl⟩ := List.cons.inj split
        simpa using head
      | cons same before =>
        obtain ⟨rfl, others⟩ := List.cons.inj split
        simpa using tail before event after others
    · intro each
      constructor
      · simpa using each [] first rest rfl
      · intro before event after others
        -- What comes before it starts with the first event.
        simpa using each (first :: before) event after (by rw [others]; rfl)

end World

end Interaction
