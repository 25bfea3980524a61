import Acme.Encoding.Json

/-! Compact JSON text reads back as the value it was written from. -/

namespace Json

/-- Each of the sixteen digits reads back as its own value. -/
theorem hexValue_hexDigit {value : Nat} (small : value < 16) :
    hexValue (hexDigit value) = some value := by
  have table : ∀ index : Fin 16, hexValue (hexDigit index) = some index.val := by decide
  exact table ⟨value, small⟩

/-- A character is written by a letter, by its code, or as itself. -/
theorem escape_cases (char : Char) :
    (∃ letter, letter ≠ 'u' ∧ escape char = ['\\', letter] ∧
      shortEscapes.find? (fun pair => pair.1 = letter) = some (letter, char)) ∨
    (char.toNat < 32 ∧ escape char =
      ['\\', 'u', '0', '0', hexDigit (char.toNat / 16), hexDigit (char.toNat % 16)]) ∨
    (¬ char.toNat < 32 ∧ char ≠ '"' ∧ char ≠ '\\' ∧ escape char = [char]) := by
  cases found : shortEscapes.find? (fun pair => pair.2 = char) with
  | some pair =>
    -- Seven characters have a letter, and each letter stands for that character alone.
    refine .inl ⟨pair.1, ?_⟩
    have named := List.find?_some found
    have listed := List.mem_of_find?_eq_some found
    simp only [decide_eq_true_eq] at named
    subst named
    have every : ∀ pair ∈ shortEscapes, pair.1 ≠ 'u' ∧
        shortEscapes.find? (fun other => other.1 = pair.1) = some pair := by decide
    exact ⟨(every pair listed).1, by simp [escape, found], (every pair listed).2⟩
  | none =>
    right
    have absent := List.find?_eq_none.mp found
    -- Without a letter, a control character is written by its number.
    by_cases control : char.toNat < 32
    · exact .inl ⟨control, by simp [escape, found, control]⟩
    · refine .inr ⟨control, ?_, ?_, by simp [escape, found, control]⟩
      · -- The quote and the backslash have letters.
        rintro rfl
        exact absent ('"', '"') (by decide) (by decide)
      · rintro rfl
        exact absent ('\\', '\\') (by decide) (by decide)

/-- A six-character escape of a control character reads back as that character. -/
private theorem hexValues_control {char : Char} (control : char.toNat < 32) :
    (hexValues '0' '0' (hexDigit (char.toNat / 16)) (hexDigit (char.toNat % 16))).bind scalar
      = some char := by
  have zero : hexValue '0' = some 0 := by decide
  -- Two digits are enough for a control character, and the others are zero.
  have value : ((0 * 16 + 0) * 16 + char.toNat / 16) * 16 + char.toNat % 16 = char.toNat := by
    omega
  -- It is far below the surrogates.
  have plain : ¬ (0xD800 ≤ char.toNat ∧ char.toNat ≤ 0xDFFF) := by omega
  simp only [hexValues, zero, hexValue_hexDigit (by omega : char.toNat / 16 < 16),
    hexValue_hexDigit (by omega : char.toNat % 16 < 16), Option.bind_eq_bind, Option.bind_some,
    value, scalar, if_neg plain, Char.ofNat_toNat]

/-- Reading past one written character adds that character to the text. -/
theorem readString_escape {char : Char} {rest text after : List Char}
    (later : readString rest = some (text, after)) :
    readString (escape char ++ rest) = some (char :: text, after) := by
  -- A character is written with a letter, with its code, or as it is.
  rcases escape_cases char with ⟨letter, plain, written, found⟩ | ⟨control, written⟩ |
    ⟨printable, unquoted, unescaped, written⟩
  · rw [written, readString.eq_def]
    simp [plain, found, later]
  · -- The four digits are read back to the code of the character.
    have read := hexValues_control control
    obtain ⟨code, coded, scaled⟩ := Option.bind_eq_some_iff.mp read
    rw [written, readString.eq_def]
    simp [coded, scaled, later]
  · rw [written, readString.eq_def]
    simp [printable, unquoted, unescaped, later]

/-- A written string reads back up to its closing quote. -/
theorem readString_quote (text rest : List Char) :
    readString (text.flatMap escape ++ '"' :: rest) = some (text, rest) := by
  induction text with
  | nil =>
    -- The quote behind the text ends it.
    rw [List.flatMap_nil, List.nil_append, readString.eq_def]
    simp
  | cons char text ih =>
    -- The first character is read from what it is written as, and the rest by induction.
    rw [List.flatMap_cons, List.append_assoc]
    exact readString_escape ih

mutual

/-- Every number literal inside a value is one of the number grammar. -/
def WellFormed : Json → Prop
  | .null | .bool _ | .str _ => True
  | .num literal => isNumber literal.toList = true
  | .arr items => WellFormedItems items
  | .obj members => WellFormedMembers members

/-- Every array element is well formed. -/
def WellFormedItems : List Json → Prop
  | [] => True
  | item :: rest => item.WellFormed ∧ WellFormedItems rest

/-- Every member's value is well formed. -/
def WellFormedMembers : List (String × Json) → Prop
  | [] => True
  | (_, value) :: rest => value.WellFormed ∧ WellFormedMembers rest

end

/-- A number literal is nonempty and made of number characters. -/
theorem isNumber_chars {literal : List Char} (number : isNumber literal = true) :
    literal ≠ [] ∧ ∀ char ∈ literal, isNumberChar char = true := by
  constructor
  · -- The empty text is no number, which can be computed.
    rintro rfl
    revert number
    decide
  -- That all characters are admissible is one of the things checked.
  · simp only [isNumber, Bool.and_eq_true, List.all_eq_true] at number
    exact number.1

/-- A number character is none of those that open another kind of value, and no whitespace. -/
private theorem numberChar_plain {char : Char} (number : isNumberChar char = true) :
    isSpace char = false ∧ char ≠ '"' ∧ char ≠ '[' ∧ char ≠ '{' ∧ char ≠ 'n' ∧ char ≠ 't' ∧
      char ≠ 'f' ∧ char ≠ ']' ∧ char ≠ '}' := by
  refine ⟨?_, ?_, ?_, ?_, ?_, ?_, ?_, ?_, ?_⟩
  · -- Whitespace is one of four characters, and none of them occurs in a number.
    by_contra space
    simp only [isSpace, Bool.or_eq_true, Bool.not_eq_false, decide_eq_true_eq] at space
    rcases space with ((rfl | rfl) | rfl) | rfl <;> revert number <;> decide
  all_goals
    rintro rfl
    revert number
    decide

/-- The text of a value starts with a character that is neither whitespace nor a closing bracket. -/
theorem render_head {value : Json} (formed : value.WellFormed) :
    ∃ char rest, value.render = char :: rest ∧ isSpace char = false ∧ char ≠ ']' := by
  -- All but numbers start with a fixed character.
  cases value with
  | null => exact ⟨_, _, rfl, by decide, by decide⟩
  | bool flag => cases flag <;> exact ⟨_, _, rfl, by decide, by decide⟩
  | str text => exact ⟨_, _, rfl, by decide, by decide⟩
  | arr items => exact ⟨_, _, rfl, by decide, by decide⟩
  | obj members => exact ⟨_, _, rfl, by decide, by decide⟩
  | num literal =>
    -- A number starts with one of the characters of a number, none of which is a bracket.
    obtain ⟨nonempty, chars⟩ := isNumber_chars formed
    obtain ⟨char, rest, spelled⟩ := List.exists_cons_of_ne_nil nonempty
    have plain := numberChar_plain (chars char (by simp [spelled]))
    exact ⟨char, rest, spelled, plain.1, plain.2.2.2.2.2.2.2.1⟩

/-- Nothing is skipped in front of a character that is no whitespace. -/
theorem skipSpace_cons {char : Char} {rest : List Char} (plain : isSpace char = false) :
    skipSpace (char :: rest) = char :: rest := by
  simp [skipSpace, List.dropWhile, plain]

/-- The text does not go on with a character that would prolong a number. -/
def Ended (rest : List Char) : Prop :=
  ∀ char ∈ rest.head?, isNumberChar char = false

/-- A number literal is taken exactly up to the first other character. -/
private theorem takeWhile_number {literal rest : List Char}
    (chars : ∀ char ∈ literal, isNumberChar char = true) (ended : Ended rest) :
    (literal ++ rest).takeWhile isNumberChar = literal := by
  induction literal with
  | nil =>
    -- Behind the literal stands nothing that belongs to a number.
    cases rest with
    | nil => rfl
    | cons char rest => simp [ended char (by simp)]
  | cons char literal ih =>
    have first := chars char (by simp)
    have later := ih fun other member => chars other (by simp [member])
    simp [first, later]

/-- A number is read up to the first character that does not prolong it. -/
theorem readValue_num {literal : String} (number : isNumber literal.toList = true)
    {rest : List Char} (ended : Ended rest) (fuel : Nat) :
    readValue (fuel + 1) (literal.toList ++ rest) = some (.num literal, rest) := by
  obtain ⟨nonempty, chars⟩ := isNumber_chars number
  obtain ⟨char, others, text⟩ := List.exists_cons_of_ne_nil nonempty
  have plain := numberChar_plain (chars char (by simp [text]))
  have taken := takeWhile_number chars ended
  -- No other value starts with a character of a number, so the last branch is taken.
  rw [readValue, text, List.cons_append, skipSpace_cons plain.1]
  simp only [if_neg plain.2.1, if_neg plain.2.2.1, if_neg plain.2.2.2.1,
    if_neg plain.2.2.2.2.1, if_neg plain.2.2.2.2.2.1, if_neg plain.2.2.2.2.2.2.1]
  rw [← List.cons_append, ← text, taken, if_pos number, List.drop_left, String.ofList_toList]

/-- Behind an opening bracket the items are read, when the bracket is not closed at once. -/
theorem readValue_arr {items : List Json} {char : Char} {text rest : List Char} {fuel : Nat}
    (visible : isSpace char = false) (nonclosing : char ≠ ']')
    (body : readItems fuel (char :: text) = some (items, rest)) :
    readValue (fuel + 1) ('[' :: char :: text) = some (.arr items, rest) := by
  rw [readValue, skipSpace_cons (by decide)]
  simp only [show ('[' : Char) ≠ '"' by decide, if_false, if_true]
  rw [skipSpace_cons visible]
  -- The first character is not that of an empty array.
  split
  · rename_i closing
    exact absurd (List.cons.inj closing).1 nonclosing
  · simp [body]

/-- Behind an opening brace the members are read, the first of which begins with a quote. -/
theorem readValue_obj {members : List (String × Json)} {text rest : List Char} {fuel : Nat}
    (body : readMembers fuel ('"' :: text) = some (members, rest)) :
    readValue (fuel + 1) ('{' :: '"' :: text) = some (.obj members, rest) := by
  rw [readValue, skipSpace_cons (by decide)]
  -- A brace is no other opening character, and a quote does not close the object.
  simp only [show ('{' : Char) ≠ '"' by decide, show ('{' : Char) ≠ '[' by decide, if_false,
    if_true]
  rw [skipSpace_cons (by decide)]
  simp [body]

mutual

/-- A value's text reads back as the value, whatever follows it. -/
theorem readValue_render (value : Json) (formed : value.WellFormed) (rest : List Char)
    (ended : Ended rest) (fuel : Nat) (enough : value.render.length ≤ fuel) :
    readValue fuel (value.render ++ rest) = some (value, rest) := by
  obtain ⟨char, spelled, text, _⟩ := render_head formed
  -- Every text has a first character, so at least one unit of fuel is there to take it.
  obtain ⟨fuel, rfl⟩ : ∃ less, fuel = less + 1 := ⟨fuel - 1, by
    rw [text] at enough
    simp only [List.length_cons] at enough
    omega⟩
  cases value with
  -- A literal is recognised by its first letter.
  | null => simp [render, readValue, skipSpace_cons (by decide : isSpace 'n' = false)]
  | bool flag =>
    cases flag
    · simp [render, readValue, skipSpace_cons (by decide : isSpace 'f' = false)]
    · simp [render, readValue, skipSpace_cons (by decide : isSpace 't' = false)]
  -- A string is read up to its closing quote.
  | str written =>
    have read := readString_quote written.toList rest
    simp [render, quote, readValue, skipSpace_cons (by decide : isSpace '"' = false), read,
      String.ofList_toList]
  -- A number is read as far as its characters go.
  | num literal =>
    simp only [render]
    exact readValue_num formed ended fuel
  -- An array is its items between brackets.
  | arr items =>
    simp only [render, List.cons_append, List.append_assoc, List.nil_append, List.length_cons,
      List.length_append, List.length_nil] at enough ⊢
    cases items with
    | nil =>
      simp [readValue, renderItems, skipSpace_cons (by decide : isSpace '[' = false),
        skipSpace_cons (by decide : isSpace ']' = false)]
    | cons item items =>
      have body := readItems_render item items formed rest fuel (by omega)
      obtain ⟨first, others, opening, visible, nonclosing⟩ := render_head formed.1
      -- The first item does not look like the end of the array.
      have shown : ∃ tail, renderItems (item :: items) ++ (']' :: rest) = first :: tail := by
        cases items <;> simp [renderItems, opening]
      obtain ⟨tail, shown⟩ := shown
      rw [shown] at body ⊢
      exact readValue_arr visible nonclosing body
  -- An object is its members between braces.
  | obj members =>
    simp only [render, List.cons_append, List.append_assoc, List.nil_append, List.length_cons,
      List.length_append, List.length_nil] at enough ⊢
    cases members with
    | nil =>
      simp [readValue, renderMembers, skipSpace_cons (by decide : isSpace '{' = false),
        skipSpace_cons (by decide : isSpace '}' = false)]
    | cons member members =>
      obtain ⟨key, value⟩ := member
      have body := readMembers_render key value members formed rest fuel (by omega)
      -- A member starts with a quote, which is not the end of the object.
      have shown : ∃ tail,
          renderMembers ((key, value) :: members) ++ ('}' :: rest) = '"' :: tail := by
        cases members <;> simp [renderMembers, quote]
      obtain ⟨tail, shown⟩ := shown
      rw [shown] at body ⊢
      exact readValue_obj body
termination_by fuel

/-- Array elements read back up to the closing bracket. -/
theorem readItems_render (item : Json) (items : List Json)
    (formed : WellFormedItems (item :: items)) (rest : List Char) (fuel : Nat)
    (enough : (renderItems (item :: items)).length + 1 ≤ fuel) :
    readItems fuel (renderItems (item :: items) ++ (']' :: rest))
      = some (item :: items, rest) := by
  -- The reader spends fuel at each element.
  obtain ⟨fuel, rfl⟩ : ∃ less, fuel = less + 1 := ⟨fuel - 1, by omega⟩
  cases items with
  | nil =>
    -- The last element is followed by the closing bracket.
    simp only [renderItems] at enough ⊢
    have first := readValue_render item formed.1 (']' :: rest) (by simp [Ended]; decide)
      fuel (by omega)
    simp [readItems, first, skipSpace_cons (by decide : isSpace ']' = false)]
  | cons next items =>
    -- Any other element is followed by a comma and at least one more element.
    simp only [renderItems, List.length_append, List.length_cons, List.append_assoc,
      List.cons_append] at enough ⊢
    have first := readValue_render item formed.1
      (',' :: (renderItems (next :: items) ++ (']' :: rest))) (by simp [Ended]; decide)
      fuel (by omega)
    have later := readItems_render next items formed.2 rest fuel (by omega)
    simp [readItems, first, skipSpace_cons (by decide : isSpace ',' = false), later]
termination_by fuel

/-- Object members read back up to the closing brace. -/
theorem readMembers_render (key : String) (value : Json) (members : List (String × Json))
    (formed : WellFormedMembers ((key, value) :: members)) (rest : List Char) (fuel : Nat)
    (enough : (renderMembers ((key, value) :: members)).length + 1 ≤ fuel) :
    readMembers fuel (renderMembers ((key, value) :: members) ++ ('}' :: rest))
      = some ((key, value) :: members, rest) := by
  -- The reader spends fuel at each member, so there is some to spend.
  obtain ⟨fuel, rfl⟩ : ∃ less, fuel = less + 1 := ⟨fuel - 1, by omega⟩
  cases members with
  | nil =>
    -- The last member is followed by the closing brace.
    simp only [renderMembers, quote, List.length_append, List.length_cons, List.append_assoc,
      List.cons_append, List.nil_append] at enough ⊢
    have first := readValue_render value formed.1 ('}' :: rest) (by simp [Ended]; decide)
      fuel (by omega)
    simp [readMembers, skipSpace_cons (by decide : isSpace '"' = false), readString_quote,
      skipSpace_cons (by decide : isSpace ':' = false), first,
      skipSpace_cons (by decide : isSpace '}' = false), String.ofList_toList]
  | cons next members =>
    obtain ⟨nextKey, nextValue⟩ := next
    -- After a comma the members that remain are read with the fuel that remains.
    simp only [renderMembers, quote, List.length_append, List.length_cons, List.append_assoc,
      List.cons_append, List.nil_append] at enough ⊢
    have first := readValue_render value formed.1
      (',' :: (renderMembers ((nextKey, nextValue) :: members) ++ '}' :: rest))
      (by simp [Ended]; decide) fuel (by omega)
    have later := readMembers_render nextKey nextValue members formed.2 rest fuel (by omega)
    simp [readMembers, skipSpace_cons (by decide : isSpace '"' = false), readString_quote,
      skipSpace_cons (by decide : isSpace ':' = false), first,
      skipSpace_cons (by decide : isSpace ',' = false), later, String.ofList_toList]
termination_by fuel

end

/-- A well-formed value's text reads back as that value. -/
theorem read_render {value : Json} (formed : value.WellFormed) :
    read value.render = some value := by
  -- The text is its own bound on the fuel, and nothing is left behind it.
  have whole := readValue_render value formed [] (by simp [Ended]) value.render.length
    (Nat.le_refl _)
  rw [List.append_nil] at whole
  unfold read
  rw [whole]
  rfl

end Json
