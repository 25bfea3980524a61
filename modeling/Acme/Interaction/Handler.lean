import Acme.Interaction.Safety

/-! Programs over one kind of calls, carried out by programs over another kind. -/

namespace Interaction

variable {S T : Signature} {α β ε σ τ : Type}

/-- How each call is carried out; instead of an answer there may be a reason to stop. -/
abbrev Handler (S T : Signature) (ε : Type) := (call : S.Call) → Fallible T ε (S.Reply call)

/-- Carry out every call of a program. -/
def Program.handled (handler : Handler S T ε) : Program S α → Fallible T ε α
  | .done value => pure value
  | .call request next => handler request >>= fun reply => (next reply).handled handler

/-- Carry out every call of a program that may stop early. -/
def Fallible.handled (handler : Handler S T ε) (program : Fallible S ε α) : Fallible T ε α :=
  program.run.handled handler >>= ofExcept

variable {handler : Handler S T ε}

@[simp] theorem Program.handled_done {value : α} :
    (Program.done value : Program S α).handled handler = pure value := rfl

@[simp] theorem Program.handled_call {request : S.Call} {next : S.Reply request → Program S α} :
    (Program.call request next).handled handler
      = handler request >>= fun reply => (next reply).handled handler := rfl

/-- The calls of one trace are carried out by those of another, one after the other. -/
inductive Carried (handler : Handler S T ε) : Trace S → Trace T → Prop where
  /-- There are none. -/
  | none : Carried handler [] []
  /-- The first call was answered, and the others follow. -/
  | answered {call : S.Call} {reply : S.Reply call} {outer : Trace S} {inner later : Trace T}
      (ended : (handler call).Ends inner (.ok reply)) (rest : Carried handler outer later) :
      Carried handler (⟨call, reply⟩ :: outer) (inner ++ later)

/-- The calls of one trace are carried out up to one that is not answered. -/
def Broken (handler : Handler S T ε) (failure : ε) (outer : Trace S) (trace : Trace T) : Prop :=
  ∃ made event others earlier inner, outer = made ++ event :: others ∧
    trace = earlier ++ inner ∧ Carried handler made earlier ∧
    (handler event.call).Ends inner (.error failure)

/-- Before a call that is not answered, another one may have been answered. -/
theorem Broken.answered {failure : ε} {call : S.Call} {reply : S.Reply call} {outer : Trace S}
    {inner later : Trace T} (ended : (handler call).Ends inner (.ok reply))
    (broken : Broken handler failure outer later) :
    Broken handler failure (⟨call, reply⟩ :: outer) (inner ++ later) := by
  obtain ⟨made, event, others, earlier, last, rfl, rfl, carried, failed⟩ := broken
  -- One more call was carried out before the one that was not.
  exact ⟨_, event, others, _, last, rfl, (List.append_assoc _ _ _).symm,
    .answered ended carried, failed⟩

/-- What is carried out is a run of the program, to its end or up to a call without an answer. -/
theorem Program.handled_ends {program : Program S α} {trace : Trace T} {outcome : Except ε α}
    (answerable : ∀ call, Nonempty (S.Reply call))
    (ended : (program.handled handler).Ends trace outcome) :
    (∃ outer value, program.Returns outer value ∧ Carried handler outer trace ∧
        outcome = .ok value) ∨
      ∃ outer value failure, program.Returns outer value ∧ Broken handler failure outer trace ∧
        outcome = .error failure := by
  -- By induction on the program: its first call is answered, or nothing else happens.
  induction program generalizing trace with
  | done value =>
    obtain ⟨rfl, rfl⟩ := Fallible.ends_pure.mp ended
    exact .inl ⟨[], value, .refl _, .none, rfl⟩
  | call request next ih =>
    rcases Fallible.ends_bind.mp ended with ⟨reply, inner, later, rfl, answered, rest⟩ |
      ⟨failure, failed, rfl⟩
    · -- The call was answered, and the rest is carried out or breaks off.
      rcases ih reply rest with ⟨outer, value, returns, carried, same⟩ |
        ⟨outer, value, failure, returns, broken, same⟩
      · exact .inl ⟨_, value, .step returns, .answered answered carried, same⟩
      · exact .inr ⟨_, value, failure, .step returns, broken.answered answered, same⟩
    · -- The call could have been answered somehow, and the program would have gone on.
      obtain ⟨outer, value, returns⟩ := exists_returns answerable (.call request next)
      cases returns with
      | @step _ _ reply others _ rest =>
        exact .inr ⟨_, value, failure, .step rest,
          ⟨[], ⟨request, reply⟩, others, [], trace, rfl, rfl, .none, failed⟩, rfl⟩

namespace Fallible

/-- The same for a program that may stop early itself. -/
theorem handled_ends {program : Fallible S ε α} {trace : Trace T} {outcome : Except ε α}
    (answerable : ∀ call, Nonempty (S.Reply call))
    (ended : (program.handled handler).Ends trace outcome) :
    (∃ outer, program.Ends outer outcome ∧ Carried handler outer trace) ∨
      ∃ outer result failure, program.Ends outer result ∧ Broken handler failure outer trace ∧
        outcome = .error failure := by
  rcases ends_bind.mp ended with ⟨original, earlier, later, rfl, carrying, rest⟩ |
    ⟨failure, carrying, rfl⟩
  · -- Every call was answered, so what the program made of the answers is the outcome.
    obtain ⟨rfl, rfl⟩ := ends_ofExcept.mp rest
    rcases Program.handled_ends answerable carrying with ⟨outer, value, returns, carried, same⟩ |
      ⟨_, _, _, _, _, impossible⟩
    · obtain rfl := Except.ok.inj same
      exact .inl ⟨outer, returns, by simpa using carried⟩
    · cases impossible
  · -- One of the calls was not answered, and its failure is the outcome.
    rcases Program.handled_ends answerable carrying with ⟨_, _, _, _, impossible⟩ |
      ⟨outer, result, other, returns, broken, same⟩
    · cases impossible
    · obtain rfl := Except.error.inj same
      exact .inr ⟨outer, result, failure, returns, broken, rfl⟩

/-- A program is safe when each of its calls is carried out safely, state for state. -/
theorem Safe.handled {W : World T τ} {program : Fallible S ε α} {state : τ}
    {V : World S τ} {post : Except ε α → τ → Prop} (safe : Safe V state program post)
    (each : ∀ state call, (∀ reply, V.Allows state ⟨call, reply⟩) →
      Safe W state (handler call) fun outcome reached => match outcome with
        | .ok reply => reached = V.next state ⟨call, reply⟩
        | .error failure => post (.error failure) reached) :
    Safe W state (program.handled handler) post := by
  -- By induction on the calls, which the first world allows whatever they are answered.
  have general : ∀ (inner : Program S (Except ε α)) state,
      Program.Safe V state inner post →
      Safe W state (inner.handled handler >>= ofExcept) post := by
    intro inner
    induction inner with
    -- Nothing is left to be carried out.
    | done value => exact fun state safe => by simpa using safe
    | call request next ih =>
      intro state safe
      have allowed := safe
      rw [Program.safe_call] at allowed
      rw [Program.handled_call, bind_assoc, safe_bind]
      refine Program.Safe.mono (each state request fun reply => (allowed reply).1) ?_
      rintro (failure | reply) reached ends
      · -- A call that fails ends the program, as it may by then.
        exact ends
      · obtain rfl := ends
        exact ih reply _ (allowed reply).2
  exact general program.run state safe

end Fallible

/-- Calls of two kinds. -/
abbrev Signature.plus (S T : Signature) : Signature where
  Call := S.Call ⊕ T.Call
  Reply
    | .inl call => S.Reply call
    | .inr call => T.Reply call

/-- The calls of the first kind in a trace. -/
def Trace.lefts (trace : Trace (S.plus T)) : Trace S :=
  trace.filterMap fun event => match event with
    | ⟨.inl call, reply⟩ => some ⟨call, reply⟩
    | ⟨.inr _, _⟩ => none

@[simp] theorem Trace.lefts_append {earlier later : Trace (S.plus T)} :
    Trace.lefts (earlier ++ later) = earlier.lefts ++ later.lefts :=
  List.filterMap_append

/-- A program with calls of the first kind is one with calls of both kinds. -/
def Fallible.left (program : Fallible S ε α) : Fallible (S.plus T) ε α :=
  program.handled fun call => ask (S := S.plus T) (.inl call) .ok

/-- It makes the same calls, and none of the second kind. -/
theorem Fallible.ends_left {program : Fallible S ε α} {trace : Trace (S.plus T)}
    {outcome : Except ε α} (ended : (program.left (T := T)).Ends trace outcome) :
    program.Ends trace.lefts outcome := by
  -- Each call on the left is carried out by itself.
  have general : ∀ (inner : Program S (Except ε α)) (trace : Trace (S.plus T)),
      (inner.handled (fun call => ask (S := S.plus T) (.inl call) .ok) >>= ofExcept).Ends trace
        outcome → inner.Returns trace.lefts outcome := by
    intro inner
    induction inner with
    -- The outcome is passed on.
    | done value =>
      intro trace ended
      obtain ⟨rfl, rfl⟩ := ends_ofExcept.mp (by simpa using ended)
      exact .refl _
    -- One call is asked on the left, and what follows runs from its reply.
    | call request next ih =>
      intro trace ended
      rw [Program.handled_call, bind_assoc] at ended
      obtain ⟨reply, later, rfl, rest⟩ := ends_ask_bind.mp ended
      exact .step (ih reply later rest)
  exact general program.run trace ended

/-- The same surroundings, beside calls of another kind that do not concern them. -/
def World.onLefts (W : World S σ) : World (S.plus T) σ where
  Allows state event := match event with
    | ⟨.inl call, reply⟩ => W.Allows state ⟨call, reply⟩
    | ⟨.inr _, _⟩ => True
  next state event := match event with
    | ⟨.inl call, reply⟩ => W.next state ⟨call, reply⟩
    | ⟨.inr _, _⟩ => state

/-- They are led where the calls of the first kind lead them, and allow what these may be. -/
theorem World.onLefts_admits {W : World S σ} {state : σ} {trace : Trace (S.plus T)} :
    (W.onLefts.Admits state trace ↔ W.Admits state trace.lefts) ∧
      W.onLefts.after state trace = W.after state trace.lefts := by
  -- By induction on the trace; a call of the second kind is passed over.
  induction trace generalizing state with
  | nil => exact ⟨Iff.rfl, rfl⟩
  | cons event later ih =>
    obtain ⟨call | call, reply⟩ := event
    · exact ⟨and_congr_right fun _ => ih.1, ih.2⟩
    · exact ⟨(true_and _).to_iff.trans ih.1, ih.2⟩

/-- A program with calls of the first kind stays safe beside calls of another kind. -/
theorem Fallible.Safe.left {W : World S σ} {program : Fallible S ε α} {state : σ}
    {post : Except ε α → σ → Prop} (safe : Safe W state program post) :
    Safe W.onLefts state (program.left (T := T)) post :=
  safe.handled fun _ _ allowed reply => ⟨allowed reply, rfl⟩

end Interaction
