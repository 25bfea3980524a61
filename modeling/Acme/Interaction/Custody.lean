import Acme.Interaction.Safety

/-! Resources in the custody of a program: what a call needs, gives away and brings. -/

namespace Interaction

/-- What calls do with resources, some of which are children of others. -/
structure Custody (S : Signature) (ρ : Type) where
  /-- What a call needs. -/
  uses : S.Call → List ρ
  /-- What a call gives away. -/
  takes : S.Call → Option ρ
  /-- What an answered call brings. -/
  gives : Event S → Option ρ
  /-- What has to outlive a resource. -/
  parent : ρ → Option ρ

namespace Custody

variable {S : Signature} {ρ : Type} [DecidableEq ρ] (custody : Custody S ρ)

/-- Only what is held is used; what has children is kept, and nothing is held twice. -/
def world : World S (List ρ) where
  Allows held event :=
    (∀ resource ∈ custody.uses event.call, resource ∈ held) ∧
      (∀ resource ∈ custody.takes event.call, resource ∈ held ∧
        ∀ other ∈ held, custody.parent other ≠ some resource) ∧
      ∀ resource ∈ custody.gives event, resource ∉ held
  next held event :=
    (match custody.takes event.call with
      | some resource => held.erase resource
      | none => held) ++ (custody.gives event).toList

instance (held : List ρ) (event : Event S) : Decidable (custody.world.Allows held event) :=
  inferInstanceAs (Decidable (_ ∧ _ ∧ _))

/-- How often a resource was brought. -/
def given (resource : ρ) (trace : Trace S) : Nat :=
  trace.countP fun event => custody.gives event = some resource

/-- How often a resource was given away. -/
def taken (resource : ρ) (trace : Trace S) : Nat :=
  trace.countP fun event => custody.takes event.call = some resource

variable {custody}

/-- One event brings a resource or not, and gives one away or not. -/
theorem count_next {held : List ρ} {event : Event S} (allowed : custody.world.Allows held event)
    (resource : ρ) :
    held.count resource + (if custody.gives event = some resource then 1 else 0) =
      (if custody.takes event.call = some resource then 1 else 0) +
        (custody.world.next held event).count resource := by
  obtain ⟨_, away, _⟩ := allowed
  -- What is brought is counted at the end.
  have brought : (custody.gives event).toList.count resource =
      if custody.gives event = some resource then 1 else 0 := by
    cases custody.gives event with
    -- Nothing is given away.
    | none => simp
    | some other => simp [List.count_singleton]
  simp only [world, List.count_append, brought]
  cases takes : custody.takes event.call with
  | none => simp
  | some other =>
    by_cases same : other = resource
    · -- What is given away was held.
      subst same
      have positive := List.count_pos_iff.mpr (away other (by simp [takes])).1
      simp only [List.count_erase_self, if_true]
      omega
    · -- Something else is given away, and this one stays.
      simp only [List.count_erase_of_ne (Ne.symm same), Option.some.injEq, if_neg same]
      omega

/-- What was held or brought was given away, or is held still. -/
theorem count_after {held : List ρ} {trace : Trace S} (admits : custody.world.Admits held trace)
    (resource : ρ) :
    held.count resource + custody.given resource trace =
      custody.taken resource trace + (custody.world.after held trace).count resource := by
  -- By induction on the trace, event by event.
  induction trace generalizing held with
  | nil => simp [given, taken]
  | cons event later ih =>
    obtain ⟨allowed, rest⟩ := admits
    have first := count_next allowed resource
    have others := ih rest
    simp only [given, taken] at others
    simp only [given, taken, List.countP_cons, decide_eq_true_eq, World.after_cons]
    omega

/-- When nothing is held before and after, everything that was brought was given away. -/
theorem balanced {trace : Trace S} (admits : custody.world.Admits [] trace)
    (released : custody.world.after [] trace = []) (resource : ρ) :
    custody.given resource trace = custody.taken resource trace := by
  have counted := count_after admits resource
  simpa [released] using counted

end Custody

end Interaction
