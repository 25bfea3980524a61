import Mathlib.Data.List.Basic

/-! Splitting a list at separators. -/

namespace Split

variable {α : Type*}

/-- A list is a tail of another one that starts at the front or right behind a separator. -/
def IsTail (separator : α) (tail whole : List α) : Prop :=
  tail = whole ∨ ∃ front, whole = front ++ separator :: tail

/-- A tail ends its list. -/
theorem IsTail.suffix {separator : α} {tail whole : List α} (ends : IsTail separator tail whole) :
    tail <:+ whole := by
  -- A tail is the whole, or stands behind a separator.
  rcases ends with same | ⟨front, same⟩
  · exact same ▸ List.suffix_refl _
  · rw [same]
    exact (List.suffix_cons _ _).trans (List.suffix_append _ _)

/-- Joining what was split at a separator, part by part. -/
theorem intercalate_append {separator : α} {first second : List (List α)} (before : first ≠ [])
    (after : second ≠ []) :
    [separator].intercalate (first ++ second) =
      [separator].intercalate first ++ separator :: [separator].intercalate second := by
  -- By induction on the parts in front; the last of them is followed by the separator.
  induction first with
  | nil => exact absurd rfl before
  | cons part rest ih =>
    by_cases last : rest = []
    · rw [last, List.singleton_append, List.intercalate_cons_of_ne_nil after,
        List.intercalate_singleton, List.append_assoc, List.singleton_append]
    · have more : rest ++ second ≠ [] := List.append_ne_nil_of_left_ne_nil last second
      rw [List.cons_append, List.intercalate_cons_of_ne_nil more,
        List.intercalate_cons_of_ne_nil last, ih last]
      simp only [List.append_assoc]

variable [DecidableEq α]

/-- What stands before and after the first separator. -/
def splitOnce (separator : α) : List α → Option (List α × List α)
  | [] => none
  | first :: rest =>
    if first = separator then some ([], rest)
    else (splitOnce separator rest).map fun parts => (first :: parts.1, parts.2)

/-- A front without the separator ends at the first one. -/
theorem splitOnce_append {separator : α} {front : List α} (absent : separator ∉ front)
    (back : List α) : splitOnce separator (front ++ separator :: back) = some (front, back) := by
  induction front with
  | nil => simp [splitOnce]
  | cons first rest ih =>
    -- The separator is not in front, so the first element is passed over.
    have other : first ≠ separator := fun same => absent (same ▸ List.mem_cons_self)
    have later : separator ∉ rest := fun member => absent (List.mem_cons_of_mem first member)
    rw [List.cons_append, splitOnce, if_neg other, ih later, Option.map_some]

/-- Two fronts without the separator, and what follows it, are determined by the whole. -/
theorem append_cons_inj {separator : α} {front other back behind : List α}
    (absent : separator ∉ front) (missing : separator ∉ other)
    (same : front ++ separator :: back = other ++ separator :: behind) :
    front = other ∧ back = behind := by
  -- Splitting at the first separator takes either side apart.
  have left := splitOnce_append absent back
  rw [same, splitOnce_append missing behind] at left
  cases left
  exact ⟨rfl, rfl⟩

/-- A split names the whole and a front without the separator. -/
theorem splitOnce_eq_some {separator : α} {whole front back : List α} :
    splitOnce separator whole = some (front, back) ↔
      whole = front ++ separator :: back ∧ separator ∉ front := by
  constructor
  · intro split
    induction whole generalizing front with
    | nil => cases split
    | cons first rest ih =>
      rw [splitOnce] at split
      by_cases same : first = separator
      · -- The first element is the separator.
        rw [if_pos same] at split
        cases split
        exact ⟨by rw [same, List.nil_append], List.not_mem_nil⟩
      · rw [if_neg same] at split
        -- It stands in front, and the rest is split.
        obtain ⟨⟨before, after⟩, found, parts⟩ := Option.map_eq_some_iff.mp split
        cases parts
        obtain ⟨shape, absent⟩ := ih found
        refine ⟨by rw [shape, List.cons_append], ?_⟩
        -- The separator is neither the first element nor in the rest of the front.
        intro member
        rcases List.mem_cons.mp member with here | there
        · exact same here.symm
        · exact absent there
  · -- A list with the separator in one place is split there.
    intro ⟨shape, absent⟩
    rw [shape]
    exact splitOnce_append absent back

/-- A front without the separator is passed over on the way to the first one. -/
theorem takeWhile_append {separator : α} {front : List α} (absent : separator ∉ front)
    (back : List α) : (front ++ back).takeWhile (· ≠ separator) =
      front ++ back.takeWhile (· ≠ separator) := by
  -- All of the front is taken.
  apply List.takeWhile_append_of_pos
  intro element member
  rw [decide_eq_true_eq]
  exact fun same => absent (same ▸ member)

/-- What is left there does not depend on that front. -/
theorem dropWhile_append {separator : α} {front : List α} (absent : separator ∉ front)
    (back : List α) : (front ++ back).dropWhile (· ≠ separator) =
      back.dropWhile (· ≠ separator) := by
  -- All of the front is dropped.
  apply List.dropWhile_append_of_pos
  intro element member
  rw [decide_eq_true_eq]
  exact fun same => absent (same ▸ member)

/-- There is no split exactly when the separator is missing. -/
theorem splitOnce_eq_none {separator : α} {whole : List α} :
    splitOnce separator whole = none ↔ separator ∉ whole := by
  induction whole with
  | nil => simp [splitOnce]
  | cons first rest ih =>
    -- Either the first element is the separator, or the rest decides.
    by_cases same : first = separator
    · simp [splitOnce, same]
    · rw [splitOnce, if_neg same, Option.map_eq_none_iff, ih, List.mem_cons, not_or]
      exact (and_iff_right (Ne.symm same)).symm

/-- A part that may be missing, behind the element that announces it. -/
def marked (mark : α) : Option (List α) → List α
  | none => []
  | some part => mark :: part

/-- Cut off what an element announces, if it is there. -/
def cut (mark : α) (whole : List α) : List α × Option (List α) :=
  match splitOnce mark whole with
  | some (front, back) => (front, some back)
  | none => (whole, none)

/-- What is announced by the first such element is cut off again. -/
theorem cut_marked {mark : α} {front : List α} (absent : mark ∉ front) (part : Option (List α)) :
    cut mark (front ++ marked mark part) = (front, part) := by
  cases part with
  -- There is no part, and the mark is not found.
  | none => rw [marked, List.append_nil, cut, splitOnce_eq_none.mpr absent]
  | some back => rw [marked, cut, splitOnce_append absent]

/-- The tails of a list are the lists whose parts end its parts. -/
theorem isTail_iff {separator : α} {tail whole : List α} :
    IsTail separator tail whole ↔ tail.splitOn separator <:+ whole.splitOn separator := by
  constructor
  · -- A tail begins behind a separator, so its parts are the last ones.
    intro ends
    rcases ends with same | ⟨front, same⟩
    · exact same ▸ List.suffix_refl _
    · rw [same, List.splitOn_append_cons_self]
      exact List.suffix_append _ _
  · intro ⟨parts, same⟩
    have whole' : [separator].intercalate (whole.splitOn separator) = whole :=
      List.intercalate_splitOn separator
    rw [← same] at whole'
    -- Joining the parts again gives the list back.
    by_cases none : parts = []
    · rw [none, List.nil_append, List.intercalate_splitOn] at whole'
      exact Or.inl whole'
    · rw [intercalate_append none (List.splitOn_ne_nil _ _), List.intercalate_splitOn] at whole'
      exact Or.inr ⟨_, whole'.symm⟩

/-- Two tails with the same number of parts are one. -/
theorem IsTail.unique {separator : α} {tail other whole : List α}
    (ends : IsTail separator tail whole) (closes : IsTail separator other whole)
    (same : (tail.splitOn separator).length = (other.splitOn separator).length) :
    tail = other := by
  have short := List.suffix_of_suffix_length_le (isTail_iff.mp ends) (isTail_iff.mp closes)
    (Nat.le_of_eq same)
  have parts := short.eq_of_length same
  -- Joining the same parts gives the same list.
  have joined : [separator].intercalate (tail.splitOn separator) = tail :=
    List.intercalate_splitOn separator
  rw [← joined, parts, List.intercalate_splitOn]

/-- The last parts of a list, joined, are a tail of it. -/
theorem isTail_drop {separator : α} {whole : List α} {count : Nat}
    (fewer : count < (whole.splitOn separator).length) :
    IsTail separator ([separator].intercalate ((whole.splitOn separator).drop count)) whole := by
  -- Not all parts are dropped.
  have more : (whole.splitOn separator).drop count ≠ [] := by
    intro none
    have short := List.drop_eq_nil_iff.mp none
    omega
  -- Without anything dropped the whole list is left.
  by_cases all : count = 0
  · rw [all, List.drop_zero, List.intercalate_splitOn]
    exact Or.inl rfl
  · -- Otherwise something stands before.
    have before : (whole.splitOn separator).take count ≠ [] := by
      intro none
      have length := congrArg List.length none
      rw [List.length_take, List.length_nil] at length
      omega
    -- What stands before the last parts ends with a separator.
    have joined := congrArg [separator].intercalate
      (List.take_append_drop count (whole.splitOn separator))
    rw [intercalate_append before more, List.intercalate_splitOn] at joined
    exact Or.inr ⟨_, joined.symm⟩

/-- No part of a split holds the separator. -/
theorem not_mem_of_mem_splitOn {separator : α} {whole part : List α}
    (member : part ∈ whole.splitOn separator) : separator ∉ part := by
  -- By induction on the list; each element ends a part or joins the first one.
  induction whole generalizing part with
  | nil =>
    rw [List.splitOn_nil, List.mem_singleton] at member
    rw [member]
    exact List.not_mem_nil
  | cons first rest ih =>
    rw [List.splitOn_cons_eq_if_modifyHead] at member
    split at member
    · -- The first element is the separator, and an empty part stands before it.
      rcases List.mem_cons.mp member with same | later
      · rw [same]
        exact List.not_mem_nil
      · exact ih later
    · rename_i other
      -- The first element is put in front of the first part.
      obtain ⟨head, parts, shape⟩ := List.exists_cons_of_ne_nil (List.splitOn_ne_nil separator rest)
      rw [shape, List.modifyHead_cons] at member
      rcases List.mem_cons.mp member with same | later
      · rw [same]
        intro inside
        rcases List.mem_cons.mp inside with here | there
        · exact other (beq_iff_eq.mpr here.symm)
        · exact ih (shape ▸ List.mem_cons_self) there
      · exact ih (shape ▸ List.mem_cons_of_mem head later)

/-- The first part goes up to the first separator. -/
theorem splitOn_head (separator : α) (whole : List α) :
    ∃ more, whole.splitOn separator = whole.takeWhile (· ≠ separator) :: more := by
  induction whole with
  | nil => exact ⟨[], List.splitOn_nil _⟩
  | cons first rest ih =>
    obtain ⟨more, shape⟩ := ih
    rw [List.splitOn_cons_eq_if_modifyHead, shape]
    -- A separator in front ends the first part at once.
    by_cases same : first = separator
    · exact ⟨rest.takeWhile (· ≠ separator) :: more, by simp [same]⟩
    · exact ⟨more, by simp [same]⟩

/-- Joined again, the last parts of a split are those parts. -/
theorem splitOn_drop {separator : α} {whole : List α} {count : Nat}
    (fewer : count < (whole.splitOn separator).length) :
    ([separator].intercalate ((whole.splitOn separator).drop count)).splitOn separator =
      (whole.splitOn separator).drop count := by
  apply List.splitOn_intercalate
  -- No part contains the separator.
  · intro part member
    exact not_mem_of_mem_splitOn (List.mem_of_mem_drop member)
  -- Fewer parts are dropped than there are, so one remains.
  · intro none
    have short := List.drop_eq_nil_iff.mp none
    omega

end Split
