import Mathlib.Data.List.DropRight
import Mathlib.Data.List.TakeWhile

/-! Cutting a list down: what is left when a predicate's elements are taken off its ends. -/

namespace Trimming

variable {α : Type*} {p : α → Bool}

/-- An end of a list is bare when the element there, if any, fails the predicate. -/
def Bare (p : α → Bool) (edge : Option α) : Prop :=
  ∀ element, edge = some element → p element = false

/-- Dropping from the front leaves the rest behind a stretch of the predicate's elements. -/
theorem dropWhile_eq_iff {list rest : List α} :
    list.dropWhile p = rest ↔
      Bare p rest.head? ∧ ∃ front, list = front ++ rest ∧ ∀ element ∈ front, p element = true := by
  constructor
  · intro left
    subst left
    refine ⟨?_, list.takeWhile p, List.takeWhile_append_dropWhile.symm, ?_⟩
    · -- What is left begins with an element that was not dropped.
      intro element head
      have stop := List.head?_dropWhile_not p list
      rw [head] at stop
      exact stop
    · intro element member
      exact List.mem_takeWhile_imp member
  · intro ⟨bare, front, same, all⟩
    -- The stretch in front goes, and the rest starts with an element that stays.
    rw [same, List.dropWhile_append_of_pos all]
    cases rest with
    | nil => rfl
    | cons head more =>
      rw [List.dropWhile_cons_of_neg]
      rw [bare head rfl]
      exact Bool.false_ne_true

/-- Dropping from the back, likewise. -/
theorem rdropWhile_eq_iff {list rest : List α} :
    list.rdropWhile p = rest ↔
      Bare p rest.getLast? ∧ ∃ back, list = rest ++ back ∧ ∀ element ∈ back, p element = true := by
  -- It is dropping from the front of the reversed list.
  rw [List.rdropWhile, List.reverse_eq_iff, dropWhile_eq_iff, List.head?_reverse]
  refine and_congr Iff.rfl ?_
  constructor
  · intro ⟨front, same, all⟩
    refine ⟨front.reverse, ?_, fun element member => all element (List.mem_reverse.mp member)⟩
    rw [← List.reverse_inj, same, List.reverse_append, List.reverse_reverse]
  · intro ⟨back, same, all⟩
    refine ⟨back.reverse, ?_, fun element member => all element (List.mem_reverse.mp member)⟩
    rw [same, List.reverse_append]

/-- Trimming both ends leaves a list with bare ends between two stretches. -/
theorem trim_eq_iff {list rest : List α} :
    (list.dropWhile p).rdropWhile p = rest ↔
      Bare p rest.head? ∧ Bare p rest.getLast? ∧ ∃ left right, list = left ++ rest ++ right ∧
        (∀ element ∈ left, p element = true) ∧ ∀ element ∈ right, p element = true := by
  rw [rdropWhile_eq_iff]
  constructor
  · intro ⟨last, right, same, behind⟩
    obtain ⟨first, left, whole, before⟩ := dropWhile_eq_iff.mp same
    refine ⟨?_, last, left, right, ?_, before, behind⟩
    · -- The first element of what is left comes first in it with the stretch behind it, too.
      intro element head
      apply first element
      rw [List.head?_append, head]
      rfl
    · rw [whole, List.append_assoc]
  · intro ⟨first, last, left, right, whole, before, behind⟩
    cases rest with
    | nil =>
      -- Nothing is left, so both stretches are one.
      refine ⟨last, [], ?_, by simp⟩
      rw [whole, List.append_nil, List.append_nil, List.dropWhile_eq_nil_iff]
      intro element member
      rcases List.mem_append.mp member with member | member
      · exact before element member
      · exact behind element member
    | cons head more =>
      refine ⟨last, right, dropWhile_eq_iff.mpr ⟨?_, left, ?_, before⟩, behind⟩
      · -- The first element of what is left is the first one behind the left stretch.
        intro element same
        exact first element same
      · rw [whole, List.append_assoc]

/-- Taking from the front stops at the end or at the first element that fails the predicate. -/
theorem takeWhile_eq_iff {list front : List α} :
    list.takeWhile p = front ↔
      (∀ element ∈ front, p element = true) ∧ ∃ rest, list = front ++ rest ∧ Bare p rest.head? := by
  constructor
  · -- What is taken, and what is left, make up the list.
    intro taken
    subst taken
    refine ⟨fun element member => List.mem_takeWhile_imp member, list.dropWhile p,
      List.takeWhile_append_dropWhile.symm, ?_⟩
    exact (dropWhile_eq_iff.mp rfl).1
  · intro ⟨all, rest, same, bare⟩
    -- The front is taken whole, and the rest gives nothing more.
    rw [same, List.takeWhile_append_of_pos all]
    cases rest with
    | nil => simp
    | cons head more =>
      rw [List.takeWhile_cons_of_neg, List.append_nil]
      rw [bare head rfl]
      exact Bool.false_ne_true

/-- When no element fails both predicates, they take the same front only if none fails either. -/
theorem takeWhile_eq_takeWhile_iff {q : α → Bool} (either : ∀ element, p element = true ∨ q element)
    {list : List α} :
    list.takeWhile p = list.takeWhile q ↔
      ∀ element ∈ list, p element = true ∧ q element = true := by
  induction list with
  | nil => simp
  | cons first rest ih =>
    rw [List.forall_mem_cons, ← ih]
    -- Where only one of them goes on, the fronts differ in length.
    cases kept : p first <;> cases held : q first
    · have impossible := either first
      simp [kept, held] at impossible
    all_goals simp [kept, held]

end Trimming
