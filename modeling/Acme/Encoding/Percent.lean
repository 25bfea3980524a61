import Acme.Encoding.Json
import Acme.Encoding.Split

/-! Percent-encoded texts: their form, the bytes they stand for, and the parameters of a query. -/

namespace Percent

open Json (hexValue)

/-- A hexadecimal digit without a small letter. -/
def IsUpperHex (char : Char) : Prop :=
  '0' ≤ char ∧ char ≤ '9' ∨ 'A' ≤ char ∧ char ≤ 'F'

instance (char : Char) : Decidable (IsUpperHex char) :=
  inferInstanceAs (Decidable (_ ∨ _))

/-- A text of characters that are kept, and of escapes with two digits in upper case. -/
inductive Escaped (kept : Char → Prop) : List Char → Prop where
  | nil : Escaped kept []
  | plain {char : Char} {rest : List Char} (same : kept char) (more : Escaped kept rest) :
      Escaped kept (char :: rest)
  | escape {high low : Char} {rest : List Char} (upper : IsUpperHex high) (lower : IsUpperHex low)
      (more : Escaped kept rest) : Escaped kept ('%' :: high :: low :: rest)

/-- The bytes that a text stands for: two digits behind a percent sign are one byte. -/
def decode : List Char → Option (List UInt8)
  | [] => some []
  | '%' :: high :: low :: rest => do
    let upper ← hexValue high
    let lower ← hexValue low
    let later ← decode rest
    some (UInt8.ofNat (upper * 16 + lower) :: later)
  | char :: rest =>
    -- A percent sign without two digits behind it is no escape.
    if char = '%' then none
    else (decode rest).map (String.utf8EncodeChar char ++ ·)

/-- A form writes a plus sign for a space. -/
def plusToSpace (text : List Char) : List Char :=
  text.map fun char => if char = '+' then ' ' else char

/-- A parameter of a query: its name and its value, which may be missing. -/
def parameter (piece : List Char) : Option (List UInt8 × List UInt8) := do
  let (name, value) := Split.cut '=' piece
  let first ← decode (plusToSpace name)
  let second ← decode (plusToSpace (value.getD []))
  some (first, second)

/-- The parameters of a query. -/
def parameters (query : List Char) : Option (List (List UInt8 × List UInt8)) :=
  ((query.splitOn '&').filter (· ≠ [])).mapM parameter

variable {kept : Char → Prop}

/-- Escaped texts are put one behind the other. -/
theorem Escaped.append {first second : List Char} (front : Escaped kept first)
    (back : Escaped kept second) : Escaped kept (first ++ second) := by
  -- By induction on the first text.
  induction front with
  | nil => exact back
  | plain same _ ih => exact .plain same ih
  | escape upper lower _ ih => exact .escape upper lower ih

/-- What is spelled byte by byte is escaped when every spelling is. -/
theorem Escaped.flatMap {spell : UInt8 → List Char} (each : ∀ byte, Escaped kept (spell byte))
    (bytes : List UInt8) : Escaped kept (bytes.flatMap spell) := by
  -- Byte by byte.
  induction bytes with
  | nil => exact .nil
  | cons byte rest ih => exact (each byte).append ih

/-- A character that is neither kept nor a percent sign nor a digit does not occur. -/
theorem Escaped.not_mem {text : List Char} (escaped : Escaped kept text) {char : Char}
    (absent : ¬ kept char) (other : char ≠ '%') (digit : ¬ IsUpperHex char) : char ∉ text := by
  induction escaped with
  | nil => exact List.not_mem_nil
  -- A character that is kept is not the absent one.
  | plain same _ ih =>
    rw [List.mem_cons, not_or]
    exact ⟨fun here => absent (here ▸ same), ih⟩
  -- An escape has a percent sign and two digits.
  | escape upper lower _ ih =>
    simp only [List.mem_cons, not_or]
    exact ⟨other, fun here => digit (here ▸ upper), fun here => digit (here ▸ lower), ih⟩

/-- A character other than a percent sign stands for its own bytes. -/
theorem decode_plain {char : Char} (other : char ≠ '%') (rest : List Char) :
    decode (char :: rest) = (decode rest).map (String.utf8EncodeChar char ++ ·) := by
  rw [decode, if_neg other]
  -- An escape would begin with a percent sign.
  intro _ _ _ same
  exact absurd same other

/-- What stands behind a text that can be decoded is decoded on its own. -/
theorem decode_append {front : List Char} {bytes : List UInt8} (read : decode front = some bytes)
    (back : List Char) : decode (front ++ back) = (decode back).map (bytes ++ ·) := by
  -- The cases are those of the decoder: nothing, an escape, a lone percent sign, a character.
  induction front using decode.induct generalizing bytes with
  | case1 =>
    obtain rfl := Option.some.inj read
    simp
  -- An escape stays an escape, whatever follows behind.
  | case2 high low rest ih =>
    simp only [decode, Option.bind_eq_bind, Option.bind_eq_some_iff] at read
    obtain ⟨upper, first, lower, second, later, follows, same⟩ := read
    obtain rfl := Option.some.inj same
    simp only [List.cons_append, decode, first, second, ih follows, Option.bind_eq_bind,
      Option.bind_some]
    cases decode back <;> rfl
  -- A lone percent sign is not read at all.
  | case3 rest incomplete =>
    simp [decode] at read
  | case4 char rest _ other ih =>
    rw [decode_plain other, Option.map_eq_some_iff] at read
    obtain ⟨later, follows, rfl⟩ := read
    rw [List.cons_append, decode_plain other, ih follows, Option.map_map]
    simp [Function.comp_def]

/-- What is spelled byte by byte is decoded when every spelling is. -/
theorem decode_flatMap {spell : UInt8 → List Char}
    (each : ∀ byte, decode (spell byte) = some [byte]) (bytes : List UInt8) :
    decode (bytes.flatMap spell) = some bytes := by
  induction bytes with
  | nil => rfl
  | cons byte rest ih => rw [List.flatMap_cons, decode_append (each byte), ih]; rfl

/-- An escape of two digits in upper case stands for one byte. -/
theorem decode_escape {high low : Char} {upper lower : Nat} (first : hexValue high = some upper)
    (second : hexValue low = some lower) :
    decode ['%', high, low] = some [UInt8.ofNat (upper * 16 + lower)] := by
  simp [decode, first, second]

/-- Without plus signs there is nothing to turn into spaces. -/
theorem plusToSpace_eq {text : List Char} (absent : '+' ∉ text) : plusToSpace text = text := by
  -- There is no character that would be replaced.
  have same : text.map (fun char => if char = '+' then ' ' else char) = text.map id := by
    apply List.map_congr_left
    intro char member
    rw [if_neg, id]
    exact fun plus => absent (plus ▸ member)
  rw [plusToSpace, same, List.map_id]

/-- A query of a name and a value without separators has that one parameter. -/
theorem parameters_single {name value : List Char} {first second : List UInt8}
    (nameFormed : '=' ∉ name ∧ '&' ∉ name ∧ '+' ∉ name) (valueFormed : '&' ∉ value ∧ '+' ∉ value)
    (nameRead : decode name = some first) (valueRead : decode value = some second) :
    parameters (name ++ '=' :: value) = some [(first, second)] := by
  have whole : '&' ∉ name ++ '=' :: value := by
    simp [nameFormed.2.1, valueFormed.1]
  -- There is no separator, so there is one parameter.
  have one : (name ++ '=' :: value).splitOn '&' = [name ++ '=' :: value] :=
    List.splitOn_eq_singleton whole
  -- Its first equals sign stands behind the name.
  have halves : Split.cut '=' (name ++ '=' :: value) = (name, some value) :=
    Split.cut_marked nameFormed.1 (some value)
  have read : parameter (name ++ '=' :: value) = some (first, second) := by
    simp only [parameter, halves, Option.getD_some, plusToSpace_eq nameFormed.2.2,
      plusToSpace_eq valueFormed.2, nameRead, valueRead, Option.bind_eq_bind, Option.bind_some]
  simp [parameters, one, read]

end Percent
