import Acme.Interaction.World
import Mathlib.Algebra.BigOperators.Group.List.Basic
import Mathlib.Algebra.Order.Group.Multiset
import Mathlib.Algebra.Order.Sub.Basic

/-! Budgets: what a program spends never exceeds what it was given and has earned so far. -/

namespace Interaction

variable {S : Signature} {β : Type}

/-- What all events of a trace amount to together. -/
def total (amount : Event S → Multiset β) (trace : Trace S) : Multiset β :=
  (trace.map amount).sum

@[simp] theorem total_nil {amount : Event S → Multiset β} : total amount [] = 0 := rfl

@[simp] theorem total_cons {amount : Event S → Multiset β} {event : Event S}
    {later : Trace S} : total amount (event :: later) = amount event + total amount later :=
  List.sum_cons

@[simp] theorem total_append {amount : Event S → Multiset β} {earlier later : Trace S} :
    total amount (earlier ++ later) = total amount earlier + total amount later := by
  rw [total, List.map_append, List.sum_append]
  rfl

variable [DecidableEq β]

/-- A world whose state is a credit: each event may spend it, together with its own earnings. -/
def Budget (earn spend : Event S → Multiset β) : World S (Multiset β) where
  Allows credit event := spend event ≤ credit + earn event
  next credit event := credit + earn event - spend event

@[simp] theorem Budget.allows_iff {earn spend : Event S → Multiset β} {credit : Multiset β}
    {event : Event S} :
    (Budget earn spend).Allows credit event ↔ spend event ≤ credit + earn event := Iff.rfl

@[simp] theorem Budget.next_eq {earn spend : Event S → Multiset β} {credit : Multiset β}
    {event : Event S} :
    (Budget earn spend).next credit event = credit + earn event - spend event := rfl

/-- The expenses of an allowed trace are covered by the credit and the earnings. -/
theorem Budget.covered {earn spend : Event S → Multiset β} {credit : Multiset β}
    {trace : Trace S} (admits : (Budget earn spend).Admits credit trace) :
    total spend trace ≤ credit + total earn trace := by
  -- Every event moves its amount from the credit to the expenses.
  induction trace generalizing credit with
  | nil => exact Multiset.zero_le _
  | cons event later ih =>
    obtain ⟨affordable, admits⟩ := admits
    -- What is spent and what is left make up the credit and the earnings.
    have paid : spend event + (credit + earn event - spend event) = credit + earn event :=
      add_tsub_cancel_of_le affordable
    calc total spend (event :: later)
        ≤ spend event + ((credit + earn event - spend event) + total earn later) := by
          rw [total_cons]
          exact add_le_add_right (ih admits) _
      _ = credit + total earn (event :: later) := by
          rw [← add_assoc, paid, total_cons, add_assoc]

end Interaction
