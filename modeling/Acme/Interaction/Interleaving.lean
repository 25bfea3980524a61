import Acme.Interaction.Budget
import Acme.Interaction.Safety
import Mathlib.Algebra.BigOperators.Group.Finset.Basic
import Mathlib.Algebra.Order.BigOperators.Group.Finset
import Mathlib.Data.Fintype.BigOperators

/-! Concurrent programs: their events are merged into one trace in any order. -/

namespace Interaction

variable {S : Signature} {β ι : Type}

/-- A merged trace, in which every event carries the program that made the call. -/
abbrev Log (ι : Type) (S : Signature) := List (ι × Event S)

namespace Log

/-- The events of all programs together. -/
def events (log : Log ι S) : Trace S :=
  log.map Prod.snd

@[simp] theorem events_append {earlier later : Log ι S} :
    events (earlier ++ later) = events earlier ++ events later := by
  simp [events]

/-- The trace of one program, as a log. -/
def solo (caller : ι) (trace : Trace S) : Log ι S :=
  trace.map fun event => (caller, event)

@[simp] theorem events_solo {caller : ι} {trace : Trace S} : events (solo caller trace) = trace := by
  simp [events, solo, Function.comp_def]

variable [DecidableEq ι]

/-- The events of one program. -/
def own (log : Log ι S) (caller : ι) : Trace S :=
  (log.filter fun entry => entry.1 = caller).map Prod.snd

@[simp] theorem own_append {earlier later : Log ι S} {caller : ι} :
    own (earlier ++ later) caller = own earlier caller ++ own later caller := by
  simp [own]

/-- A program's own event extends its own trace. -/
@[simp] theorem own_singleton_self {caller : ι} {event : Event S} :
    own [(caller, event)] caller = [event] := by
  simp [own]

/-- The event of another program leaves a program's own trace as it was. -/
theorem own_singleton_other {caller other : ι} {event : Event S} (differs : other ≠ caller) :
    own [(other, event)] caller = [] := by
  simp [own, differs]

/-- What is a program's own at the beginning comes first in its own trace. -/
@[simp] theorem own_cons_self {caller : ι} {event : Event S} {log : Log ι S} :
    own ((caller, event) :: log) caller = event :: own log caller := by
  simp [own]

/-- What is another program's is passed over. -/
theorem own_cons_other {caller other : ι} {event : Event S} {log : Log ι S}
    (differs : other ≠ caller) : own ((other, event) :: log) caller = own log caller := by
  simp [own, differs]

@[simp] theorem own_solo_self {caller : ι} {trace : Trace S} :
    own (solo caller trace) caller = trace := by
  simp [own, solo, List.filter_map, Function.comp_def]

/-- Nothing in it is another program's. -/
theorem own_solo_other {caller other : ι} {trace : Trace S} (differs : other ≠ caller) :
    own (solo other trace) caller = [] := by
  simp [own, solo, List.filter_map, Function.comp_def, differs]

/-- A program's own events are among the events of the log. -/
theorem mem_events_of_mem_own {log : Log ι S} {caller : ι} {event : Event S}
    (member : event ∈ own log caller) : event ∈ events log := by
  -- The own trace only leaves entries out.
  obtain ⟨entry, listed, rfl⟩ := List.mem_map.mp member
  exact List.mem_map_of_mem (List.mem_of_mem_filter listed)

/-- Where an event stands in a program's own trace, it stands in the log. -/
theorem own_split {log : Log ι S} {caller : ι} {before after : Trace S} {event : Event S}
    (split : own log caller = before ++ event :: after) :
    ∃ earlier later, log = earlier ++ (caller, event) :: later ∧ own earlier caller = before := by
  -- Entries of other programs are passed over until the own trace has come this far.
  induction log generalizing before with
  -- It is the event that is looked for.
  | nil => simp [own] at split
  | cons entry log ih =>
    obtain ⟨other, first⟩ := entry
    by_cases same : other = caller
    · -- The entry is the program's own, so it is the first of its own trace.
      subst same
      have joined : first :: own log other = before ++ event :: after := by
        simpa [own] using split
      cases before with
      | nil =>
        obtain ⟨rfl, _⟩ := List.cons.inj joined
        exact ⟨[], log, rfl, by simp [own]⟩
      | cons head before =>
        obtain ⟨rfl, rest⟩ := List.cons.inj joined
        obtain ⟨earlier, later, rfl, known⟩ := ih rest
        refine ⟨(other, first) :: earlier, later, rfl, ?_⟩
        rw [← known]
        simp [own]
    · -- The entry is another program's, and the own trace is that of the rest.
      have passed : own log caller = before ++ event :: after := by
        simpa [own, same] using split
      obtain ⟨earlier, later, rfl, known⟩ := ih passed
      refine ⟨(other, first) :: earlier, later, rfl, ?_⟩
      rw [← known]
      simp [own, same]

variable {σ τ : Type} {W : World S σ} {V : World S τ}

/-- After an event, a program's own trace goes on from the state that the event leads to. -/
theorem own_cons {states : ι → σ} {caller : ι} {event : Event S} {log : Log ι S}
    (allowed : ∀ other, W.Admits (states other) (own ((caller, event) :: log) other)) :
    W.Allows (states caller) event ∧
      ∀ other, W.Admits (Function.update states caller (W.next (states caller) event) other)
          (own log other) ∧
        W.after (Function.update states caller (W.next (states caller) event) other)
          (own log other) = W.after (states other) (own ((caller, event) :: log) other) := by
  -- The call is the first one of the caller's own trace.
  have first := allowed caller
  rw [own_cons_self] at first
  refine ⟨first.1, fun other => ?_⟩
  by_cases same : other = caller
  · subst same
    rw [Function.update_self, own_cons_self]
    exact ⟨first.2, rfl⟩
  · -- Only the program that made the call has moved on.
    have passed := allowed other
    rw [own_cons_other (Ne.symm same)] at passed ⊢
    rw [Function.update_of_ne same]
    exact ⟨passed, rfl⟩

/--
What is noted about a log stays related to the states of all programs and of what they share, when
each event does that its program allows from its own state and the shared world from its.
-/
theorem recorded {γ : Type} (note : γ → ι × Event S → γ) (relation : γ → (ι → σ) → τ → Prop)
    (step : ∀ {noted states shared caller event}, relation noted states shared →
      W.Allows (states caller) event → V.Allows shared event →
      relation (note noted (caller, event))
        (Function.update states caller (W.next (states caller) event)) (V.next shared event))
    (noted : γ) {states : ι → σ} {shared : τ} {log : Log ι S} (start : relation noted states shared)
    (allowed : ∀ caller, W.Admits (states caller) (own log caller))
    (admitted : V.Admits shared (events log)) :
    relation (log.foldl note noted) (fun caller => W.after (states caller) (own log caller))
      (V.after shared (events log)) := by
  -- By induction on the log, from anything related.
  induction log generalizing noted states shared with
  | nil => exact start
  | cons entry later ih =>
    obtain ⟨caller, event⟩ := entry
    obtain ⟨first, rest⟩ := own_cons allowed
    have ended := ih _ (step start first admitted.1) (fun other => (rest other).1) admitted.2
    simp only [fun other => (rest other).2] at ended
    exact ended

/-- When nothing is noted, the states of all programs stay related to that of what they share. -/
theorem related (relation : (ι → σ) → τ → Prop)
    (step : ∀ {states shared caller event}, relation states shared →
      W.Allows (states caller) event → V.Allows shared event →
      relation (Function.update states caller (W.next (states caller) event)) (V.next shared event))
    {states : ι → σ} {shared : τ} {log : Log ι S} (start : relation states shared)
    (allowed : ∀ caller, W.Admits (states caller) (own log caller))
    (admitted : V.Admits shared (events log)) :
    relation (fun caller => W.after (states caller) (own log caller))
      (V.after shared (events log)) :=
  recorded (fun (_ : Unit) _ => ()) (fun _ => relation) step () start allowed admitted

/-- What all programs' events amount to is the sum of what each one's amount to. -/
theorem total_events [Fintype ι] {amount : Event S → Multiset β} (log : Log ι S) :
    total amount log.events = ∑ caller, total amount (log.own caller) := by
  -- One more event counts for the program that made it, and for no other.
  induction log with
  | nil => simp [events, own]
  | cons entry later ih =>
    obtain ⟨caller, event⟩ := entry
    -- The new entry counts in the own trace of its program alone.
    have split : ∀ other, total amount (own ((caller, event) :: later) other)
        = (if caller = other then amount event else 0) + total amount (own later other) := by
      intro other
      by_cases same : caller = other <;> simp [own, same]
    calc total amount (events ((caller, event) :: later))
        = amount event + total amount (events later) := total_cons
      _ = ∑ other, total amount (own ((caller, event) :: later) other) := by
          simp only [split, Finset.sum_add_distrib, Finset.sum_ite_eq, Finset.mem_univ, if_true, ih]

end Log

/-- Each program has run some way along its own events. -/
def Interleaved [DecidableEq ι] {α : ι → Type} (body : (caller : ι) → Program S (α caller))
    (log : Log ι S) : Prop :=
  ∀ caller, ∃ rest, (body caller).Leads (log.own caller) rest

namespace Interleaved

variable [DecidableEq ι] {α : ι → Type} {body : (caller : ι) → Program S (α caller)}

/-- Stopping a merged run earlier leaves a merged run. -/
theorem earlier {before after : Log ι S} (run : Interleaved body (before ++ after)) :
    Interleaved body before := by
  -- Each program has come as far as its own part of what is left says.
  intro caller
  obtain ⟨rest, leads⟩ := run caller
  rw [Log.own_append] at leads
  obtain ⟨middle, first, _⟩ := leads.split
  exact ⟨middle, first⟩

/-- When every program keeps to its own budget, all of them together keep to the sum. -/
theorem covered [Fintype ι] [DecidableEq β] {earn spend : Event S → Multiset β}
    {credit : ι → Multiset β} {log : Log ι S} (run : Interleaved body log)
    (safe : ∀ caller, (body caller).Safe (Budget earn spend) (credit caller) fun _ _ => True) :
    total spend log.events ≤ (∑ caller, credit caller) + total earn log.events := by
  -- Amounts are summed by program, and each program covers its own.
  have each : ∀ caller, total spend (log.own caller)
      ≤ credit caller + total earn (log.own caller) := by
    intro caller
    obtain ⟨rest, leads⟩ := run caller
    exact Budget.covered ((safe caller).leads leads).1
  rw [Log.total_events, Log.total_events, ← Finset.sum_add_distrib]
  exact Finset.sum_le_sum fun caller _ => each caller

end Interleaved

end Interaction
