import Acme.Encoding.JsonLaws

/-! Objects of strings that need no escapes: their text, character by character. -/

namespace Json

/-- A character that a JSON string holds as it is. -/
def Plain (char : Char) : Prop :=
  char ≠ '"' ∧ char ≠ '\\' ∧ 32 ≤ char.toNat

/-- Whether a character is plain can be decided. -/
instance (char : Char) : Decidable (Plain char) :=
  inferInstanceAs (Decidable (char ≠ '"' ∧ char ≠ '\\' ∧ 32 ≤ char.toNat))

/-- A plain character is written as itself. -/
theorem escape_plain {char : Char} (plain : Plain char) : escape char = [char] := by
  -- It has no short escape.
  have unlisted : shortEscapes.find? (fun pair => pair.2 = char) = none := by
    rw [List.find?_eq_none]
    intro pair member
    rw [decide_eq_true_eq]
    intro same
    subst same
    -- Each character with a short escape is a quote, a backslash or a control character.
    have table : ∀ pair ∈ shortEscapes, ¬ Plain pair.2 := by decide
    exact table pair member plain
  unfold escape
  rw [unlisted]
  -- It is no control character either.
  exact if_neg (Nat.not_lt.mpr plain.2.2)

/-- A text of plain characters stands between its quotes as it is. -/
theorem quote_plain {text : String} (plain : ∀ char ∈ text.toList, Plain char) :
    quote text = '"' :: text.toList ++ ['"'] := by
  -- No character has to be escaped.
  have same : text.toList.flatMap escape = text.toList.flatMap fun char => [char] :=
    List.flatMap_congr fun char member => escape_plain (plain char member)
  rw [quote, same, List.flatMap_singleton']

/-- The text of a member whose name and value are plain. -/
def plainMember (member : String × String) : List Char :=
  '"' :: member.1.toList ++ ['"', ':', '"'] ++ member.2.toList ++ ['"']

/-- The text of an object of such members, without any white space. -/
def plainObject (members : List (String × String)) : List Char :=
  '{' :: [','].intercalate (members.map plainMember) ++ ['}']

/-- An object of strings. -/
def ofStrings (members : List (String × String)) : List (String × Json) :=
  members.map fun member => (member.1, .str member.2)

/-- Members that need no escapes are written between commas. -/
theorem renderMembers_plain {members : List (String × String)}
    (plain : ∀ member ∈ members,
      (∀ char ∈ member.1.toList, Plain char) ∧ ∀ char ∈ member.2.toList, Plain char) :
    renderMembers (ofStrings members) = [','].intercalate (members.map plainMember) := by
  -- Each member is written without an escape.
  have one : ∀ member ∈ members, quote member.1 ++ ':' :: (Json.str member.2).render =
      plainMember member := by
    intro member listed
    obtain ⟨name, value⟩ := plain member listed
    simp [render, quote_plain name, quote_plain value, plainMember]
  -- By induction on the members, with a comma in front of every further one.
  induction members with
  -- A single member has no comma.
  | nil => rfl
  | cons first rest ih =>
    cases rest with
    | nil =>
      rw [List.map_singleton, List.intercalate_singleton, ← one first List.mem_cons_self]
      rfl
    | cons second rest =>
      have later := ih (fun member listed => plain member (List.mem_cons_of_mem _ listed))
        fun member listed => one member (List.mem_cons_of_mem _ listed)
      rw [List.map_cons, List.map_cons, List.intercalate_cons_cons, ← List.map_cons, ← later,
        ← one first List.mem_cons_self]
      simp [ofStrings, renderMembers]

/-- The text of an object of plain strings. -/
theorem render_plain {members : List (String × String)}
    (plain : ∀ member ∈ members,
      (∀ char ∈ member.1.toList, Plain char) ∧ ∀ char ∈ member.2.toList, Plain char) :
    (Json.obj (ofStrings members)).render = plainObject members := by
  rw [render, renderMembers_plain plain, plainObject]

/-- An element of joined lists belongs to one of them, or to what stands between them. -/
theorem mem_of_intercalate {α : Type} {separator : List α} {parts : List (List α)} {element : α}
    (member : element ∈ separator.intercalate parts) :
    element ∈ separator ∨ ∃ part ∈ parts, element ∈ part := by
  -- By induction on the lists, with the separator between two of them.
  induction parts with
  -- One list has no separator.
  | nil => cases member
  | cons first rest ih =>
    cases rest with
    | nil =>
      rw [List.intercalate_singleton] at member
      exact .inr ⟨first, List.mem_cons_self, member⟩
    | cons second rest =>
      rw [List.intercalate_cons_cons] at member
      -- It is in the first list, in the separator behind it, or in the others.
      rcases List.mem_append.mp member with front | later
      · rcases List.mem_append.mp front with own | between
        · exact .inr ⟨first, List.mem_cons_self, own⟩
        · exact .inl between
      · rcases ih later with between | ⟨part, listed, own⟩
        · exact .inl between
        · exact .inr ⟨part, List.mem_cons_of_mem _ listed, own⟩

/-- The characters such a text takes besides those of its strings. -/
def punctuation : List Char := ['{', '}', ',', '"', ':']

/-- A character of a member belongs to its name or its value, or is punctuation. -/
theorem mem_plainMember {entry : String × String} {char : Char}
    (member : char ∈ plainMember entry) :
    char ∈ punctuation ∨ char ∈ entry.1.toList ∨ char ∈ entry.2.toList := by
  -- Around the name and the value there are quotes and a colon.
  simp only [plainMember, List.mem_append, List.mem_cons, List.not_mem_nil, or_false] at member
  simp only [punctuation, List.mem_cons, List.not_mem_nil, or_false]
  tauto

/-- A character of the text belongs to a name or a value, or is punctuation. -/
theorem mem_plainObject {members : List (String × String)} {char : Char}
    (member : char ∈ plainObject members) :
    char ∈ punctuation ∨
      ∃ entry ∈ members, char ∈ entry.1.toList ∨ char ∈ entry.2.toList := by
  -- It is a brace, a comma, or stands in a member.
  rcases List.mem_append.mp member with front | brace
  · rcases List.mem_cons.mp front with brace | inside
    · exact .inl (by simp [punctuation, brace])
    · rcases mem_of_intercalate inside with comma | ⟨part, written, own⟩
      · exact .inl (by simp [punctuation, List.mem_singleton.mp comma])
      · obtain ⟨entry, listed, rfl⟩ := List.mem_map.mp written
        exact (mem_plainMember own).imp_right fun found => ⟨entry, listed, found⟩
  · exact .inl (by simp [punctuation, List.mem_singleton.mp brace])

end Json
