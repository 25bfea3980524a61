import Mathlib.Data.List.Basic
import Mathlib.Data.List.Infix

/-! Searching a list for a run of elements: windows, first places, and the gaps before them. -/

namespace Search

variable {α : Type*}

/-- The runs of a fixed width inside a list, from left to right. -/
def windows (width : Nat) : List α → List (List α)
  | [] => []
  | first :: rest =>
    if width ≤ rest.length + 1 then (first :: rest).take width :: windows width rest else []

/-- The elements from one offset up to another. -/
def slice (list : List α) (start stop : Nat) : List α :=
  (list.take stop).drop start

/-- A needle stands at an offset, and at no offset from the start up to it. -/
structure FirstAt (needle haystack : List α) (start offset : Nat) : Prop where
  /-- The search does not go back. -/
  after : start ≤ offset
  /-- The needle is there. -/
  stands : needle <+: haystack.drop offset
  /-- The needle is nowhere in between. -/
  first : ∀ between, start ≤ between → between < offset → ¬ needle <+: haystack.drop between

/-- A nonempty needle ends inside the haystack. -/
theorem within_of_starts {needle haystack : List α} {offset : Nat}
    (stands : needle <+: haystack.drop offset) (shown : needle ≠ []) :
    offset + needle.length ≤ haystack.length := by
  -- A prefix is no longer than its list, and nothing is left beyond the end.
  have long := stands.length_le
  have something : 0 < needle.length := List.length_pos_iff.mpr shown
  rw [List.length_drop] at long
  omega

/-- A run is the whole first window exactly when it stands at the front. -/
theorem take_eq_iff {needle haystack : List α} :
    haystack.take needle.length = needle ↔ needle <+: haystack := by
  rw [List.prefix_iff_eq_take, eq_comm]

/-- There is at most one first place. -/
theorem FirstAt.unique {needle haystack : List α} {start offset other : Nat}
    (here : FirstAt needle haystack start offset) (there : FirstAt needle haystack start other) :
    offset = other := by
  -- The smaller of two different first places refutes the other one.
  rcases Nat.lt_trichotomy offset other with less | same | more
  · exact absurd here.stands (there.first offset here.after less)
  · exact same
  · exact absurd there.stands (here.first other there.after more)

/-- One element further, one place further. -/
theorem FirstAt.cons {needle haystack : List α} {first : α} {offset : Nat}
    (missing : ¬ needle <+: first :: haystack) :
    FirstAt needle (first :: haystack) 0 (offset + 1) ↔ FirstAt needle haystack 0 offset := by
  constructor
  · -- From the front of the rest, each place is one later in the whole.
    intro found
    refine ⟨Nat.zero_le _, found.stands, ?_⟩
    intro between low high
    exact found.first (between + 1) (Nat.zero_le _) (Nat.succ_lt_succ high)
  · intro found
    refine ⟨Nat.zero_le _, found.stands, ?_⟩
    intro between low high
    -- The needle is not at the front, and each later place is one place earlier in the rest.
    cases between with
    | zero => exact missing
    | succ earlier => exact found.first earlier (Nat.zero_le _) (Nat.lt_of_succ_lt_succ high)

/-- A search in what is left is a search from that offset on. -/
theorem FirstAt.of_drop {needle haystack : List α} {start offset : Nat} :
    FirstAt needle (haystack.drop start) 0 offset ↔
      FirstAt needle haystack start (start + offset) := by
  constructor
  · intro found
    refine ⟨Nat.le_add_right _ _, by simpa [List.drop_drop] using found.stands, ?_⟩
    intro between low high
    -- A place between the two is a place of the rest, counted from the start.
    obtain ⟨gap, rfl⟩ := Nat.exists_eq_add_of_le low
    have clear := found.first gap (Nat.zero_le _) (by omega)
    simpa [List.drop_drop] using clear
  · intro found
    refine ⟨Nat.zero_le _, by simpa [List.drop_drop] using found.stands, ?_⟩
    intro between low high
    -- A place of the rest is one of the whole, counted from the start.
    have clear := found.first (start + between) (Nat.le_add_right _ _) (by omega)
    simpa [List.drop_drop] using clear

/-- A needle behind a stretch where it does not stand is found at the end of that stretch. -/
theorem FirstAt.of_clear {needle haystack before rest : List α} {start : Nat}
    (split : haystack.drop start = before ++ needle ++ rest)
    (clear : ∀ offset, offset < before.length →
      ¬ needle <+: (before ++ needle ++ rest).drop offset) :
    FirstAt needle haystack start (start + before.length) := by
  apply FirstAt.of_drop.mp
  rw [split]
  refine ⟨Nat.zero_le _, ?_, fun between _ high => clear between high⟩
  -- Dropping the stretch leaves the needle and what follows it.
  rw [List.append_assoc, List.drop_left]
  exact List.prefix_append needle rest

/-- A needle does not start inside a gap that lacks its first element. -/
theorem clear_of_gap {first : α} {needle gap rest : List α} (heads : needle.head? = some first)
    (absent : first ∉ gap) {offset : Nat} (inside : offset < gap.length) :
    ¬ needle <+: (gap ++ rest).drop offset := by
  intro stands
  obtain ⟨more, rfl⟩ := List.head?_eq_some_iff.mp heads
  -- The element at the offset belongs to the gap and would have to be the needle's first.
  rw [List.drop_append_of_le_length (Nat.le_of_lt inside),
    List.drop_eq_getElem_cons inside, List.cons_append] at stands
  have same := (List.cons_prefix_cons.mp stands).1
  exact absent (same ▸ List.getElem_mem inside)

/-- A slice is the front of what is left at its start. -/
theorem slice_eq_take (list : List α) (start stop : Nat) :
    slice list start stop = (list.drop start).take (stop - start) :=
  List.drop_take

/-- A slice inside the list has the length of its range. -/
theorem length_slice {list : List α} {start stop : Nat} (fits : stop ≤ list.length) :
    (slice list start stop).length = stop - start := by
  rw [slice, List.length_drop, List.length_take, Nat.min_eq_left fits]

/-- Neighbouring slices make up the slice of the whole range. -/
theorem slice_append (list : List α) {start middle stop : Nat} (low : start ≤ middle)
    (high : middle ≤ stop) :
    slice list start middle ++ slice list middle stop = slice list start stop := by
  -- Both parts are taken one after the other from what is left at the start.
  have back : list.drop middle = (list.drop start).drop (middle - start) := by
    rw [List.drop_drop]
    congr 1
    omega
  have sum : stop - start = (middle - start) + (stop - middle) := by omega
  rw [slice_eq_take, slice_eq_take, slice_eq_take, back, sum, List.take_add]

/-- The slice where a needle stands is the needle. -/
theorem slice_of_starts {needle list : List α} {start : Nat}
    (stands : needle <+: list.drop start) : slice list start (start + needle.length) = needle := by
  -- The slice is as long as what stands there.
  rw [slice_eq_take, Nat.add_sub_cancel_left]
  exact take_eq_iff.mpr stands

/-- A nonempty needle is part of a slice exactly when it stands inside the range. -/
theorem infix_slice_iff {needle list : List α} {start stop : Nat} (shown : needle ≠ []) :
    needle <:+: slice list start stop ↔
      ∃ offset, start ≤ offset ∧ offset + needle.length ≤ stop ∧ needle <+: list.drop offset := by
  constructor
  · intro ⟨before, behind, whole⟩
    have something : 0 < needle.length := List.length_pos_iff.mpr shown
    -- The slice is a front of what is left, so the needle stands behind the part before it.
    have front : slice list start stop <+: list.drop start := by
      rw [slice_eq_take]
      exact List.take_prefix _ _
    -- It ends where the slice ends.
    have short : (slice list start stop).length ≤ stop - start := by
      rw [slice_eq_take]
      exact List.length_take_le _ _
    rw [← whole] at front short
    simp only [List.length_append] at short
    refine ⟨start + before.length, Nat.le_add_right _ _, by omega, ?_⟩
    obtain ⟨rest, same⟩ := front
    rw [← List.drop_drop, ← same, List.append_assoc, List.append_assoc, List.drop_left]
    exact List.prefix_append _ _
  · intro ⟨offset, low, high, stands⟩
    -- Cut the slice at both ends of the needle.
    have left := slice_append list low (show offset ≤ stop by omega)
    have right := slice_append list (Nat.le_add_right offset needle.length) high
    rw [slice_of_starts stands] at right
    rw [← left, ← right]
    exact ⟨_, _, by rw [List.append_assoc]⟩

/-- Two runs that stand at one place agree as far as both reach. -/
theorem take_eq_of_starts {needle front rest : List α} (stands : needle <+: front ++ rest) :
    needle.take front.length = front.take needle.length := by
  -- The needle is a beginning of the text, so its beginnings are those of the text.
  have whole := List.prefix_iff_eq_take.mp stands
  calc needle.take front.length
      = ((front ++ rest).take needle.length).take front.length := by rw [← whole]
    _ = ((front ++ rest).take front.length).take needle.length := by
      rw [List.take_take, List.take_take, Nat.min_comm]
    _ = front.take needle.length := by rw [List.take_left]

section Position

variable [DecidableEq α]

/-- The index of the first window equal to a needle. -/
def position (needle haystack : List α) : Option Nat :=
  (windows needle.length haystack).findIdx? (· = needle)

/-- The first equal window is the first place of the needle. -/
theorem position_eq_some {needle haystack : List α} {offset : Nat} (shown : needle ≠ []) :
    position needle haystack = some offset ↔ FirstAt needle haystack 0 offset := by
  -- By induction on the haystack: each step drops the window at its front.
  induction haystack generalizing offset with
  -- In an empty haystack there is no window, and no room.
  | nil =>
    constructor
    · intro found
      simp [position, windows] at found
    · intro found
      have fits := within_of_starts found.stands shown
      have something : 0 < needle.length := List.length_pos_iff.mpr shown
      simp only [List.length_nil] at fits
      omega
  | cons first rest ih =>
    unfold position windows
    split
    case isTrue fits =>
      rw [List.findIdx?_cons]
      by_cases front : needle <+: first :: rest
      · -- The needle is the first window.
        have hit : (first :: rest).take needle.length = needle := take_eq_iff.mpr front
        simp only [hit, decide_true, if_true]
        constructor
        · intro same
          cases same
          exact ⟨Nat.le_refl 0, front, fun between low high => absurd high (Nat.not_lt_zero _)⟩
        · intro found
          rw [found.unique ⟨Nat.le_refl 0, front, fun _ _ high => absurd high (Nat.not_lt_zero _)⟩]
      · -- It is not, so it is looked for in the rest.
        have miss : ¬ (first :: rest).take needle.length = needle := by
          intro hit
          exact front (take_eq_iff.mp hit)
        simp only [miss, decide_false, Bool.false_eq_true, if_false, Option.map_eq_some_iff]
        constructor
        · intro ⟨earlier, found, same⟩
          subst same
          exact (FirstAt.cons front).mpr (ih.mp found)
        · intro found
          -- The needle does not stand at the front.
          cases offset with
          | zero => exact absurd found.stands front
          | succ earlier => exact ⟨earlier, ih.mpr ((FirstAt.cons front).mp found), rfl⟩
    case isFalse small =>
      -- No window is left, and no place can hold the needle.
      constructor
      · intro found
        simp at found
      · intro found
        have fits := within_of_starts found.stands shown
        simp only [List.length_cons] at fits
        omega

end Position

end Search
