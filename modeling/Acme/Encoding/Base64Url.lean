import Mathlib.Data.List.Basic

/-! Unpadded base64url: three bytes become four digits, and every encoding reads back. -/

namespace Base64Url

/-- The digit of a six-bit value in the URL-safe alphabet of RFC 4648, section 5. -/
def digit (value : Nat) : Char :=
  if value < 26 then Char.ofNat ('A'.toNat + value)
  else if value < 52 then Char.ofNat ('a'.toNat + (value - 26))
  else if value < 62 then Char.ofNat ('0'.toNat + (value - 52))
  else if value = 62 then '-' else '_'

/-- The six-bit value of a digit, when the character is in the alphabet. -/
def digitValue (char : Char) : Option Nat :=
  if 'A' ≤ char ∧ char ≤ 'Z' then some (char.toNat - 'A'.toNat)
  else if 'a' ≤ char ∧ char ≤ 'z' then some (char.toNat - 'a'.toNat + 26)
  else if '0' ≤ char ∧ char ≤ '9' then some (char.toNat - '0'.toNat + 52)
  else if char = '-' then some 62
  else if char = '_' then some 63
  else none

/-- The sixty-four digits in the order of their values. -/
def alphabet : List Char :=
  (List.range 64).map digit

/-- The digits of a byte string, without padding. -/
def encode : List UInt8 → List Char
  | [] => []
  | [a] => [digit (a.toNat / 4), digit (a.toNat % 4 * 16)]
  | [a, b] =>
    [digit (a.toNat / 4), digit (a.toNat % 4 * 16 + b.toNat / 16), digit (b.toNat % 16 * 4)]
  | a :: b :: c :: rest =>
    digit (a.toNat / 4) :: digit (a.toNat % 4 * 16 + b.toNat / 16) ::
      digit (b.toNat % 16 * 4 + c.toNat / 64) :: digit (c.toNat % 64) :: encode rest

/-- The bytes a digit string stands for; leftover bits of the last group must be zero. -/
def decode : List Char → Option (List UInt8)
  | [] => some []
  | [_] => none
  | [w, x] => do
    let first ← digitValue w
    let second ← digitValue x
    if second % 16 = 0 then some [UInt8.ofNat (first * 4 + second / 16)] else none
  | [w, x, y] => do
    let first ← digitValue w
    let second ← digitValue x
    let third ← digitValue y
    if third % 4 = 0 then
      some [UInt8.ofNat (first * 4 + second / 16), UInt8.ofNat (second % 16 * 16 + third / 4)]
    else none
  | w :: x :: y :: z :: rest => do
    let first ← digitValue w
    let second ← digitValue x
    let third ← digitValue y
    let fourth ← digitValue z
    let later ← decode rest
    some (UInt8.ofNat (first * 4 + second / 16) :: UInt8.ofNat (second % 16 * 16 + third / 4) ::
      UInt8.ofNat (third % 4 * 64 + fourth) :: later)

/-- Each of the sixty-four digits reads back as its own value. -/
theorem digitValue_digit {value : Nat} (small : value < 64) :
    digitValue (digit value) = some value := by
  -- There are sixty-four digits, and each falls into exactly one of the five ranges.
  have table : ∀ index : Fin 64, digitValue (digit index) = some index.val := by decide
  exact table ⟨value, small⟩

/-- A digit is a letter, a number, a hyphen or an underscore. -/
theorem digit_mem {value : Nat} (small : value < 64) : digit value ∈ alphabet :=
  List.mem_map.mpr ⟨value, List.mem_range.mpr small, rfl⟩

/-- Only the empty byte string has an empty encoding. -/
@[simp] theorem encode_eq_nil {bytes : List UInt8} : encode bytes = [] ↔ bytes = [] := by
  -- Every nonempty group of bytes writes at least two digits.
  match bytes with
  | [] | [_] | [_, _] | _ :: _ :: _ :: _ => simp [encode]

/-- A byte is recovered from any computation of its value. -/
private theorem ofNat_eq {value : Nat} {byte : UInt8} (same : value = byte.toNat) :
    UInt8.ofNat value = byte := by
  rw [same, UInt8.ofNat_toNat]

/-- Decoding an encoded byte string gives it back. -/
theorem decode_encode (bytes : List UInt8) : decode (encode bytes) = some bytes := by
  -- The recursion takes three bytes at a time, and the last group may be short.
  induction bytes using encode.induct with
  | case1 => rfl
  -- One byte fills two digits.
  | case2 a =>
    have byte := a.toNat_lt
    have whole : UInt8.ofNat (a.toNat / 4 * 4 + a.toNat % 4 * 16 / 16) = a := ofNat_eq (by omega)
    -- The bits that are not used are zero, as the decoder demands.
    have spare : a.toNat % 4 * 16 % 16 = 0 := by omega
    simp only [encode, decode, digitValue_digit (by omega : a.toNat / 4 < 64),
      digitValue_digit (by omega : a.toNat % 4 * 16 < 64), Option.bind_eq_bind, Option.bind_some,
      whole, spare, if_true]
  | case3 a b =>
    have byteA := a.toNat_lt
    have byteB := b.toNat_lt
    have first : UInt8.ofNat (a.toNat / 4 * 4 + (a.toNat % 4 * 16 + b.toNat / 16) / 16) = a :=
      ofNat_eq (by omega)
    have second : UInt8.ofNat ((a.toNat % 4 * 16 + b.toNat / 16) % 16 * 16
        + b.toNat % 16 * 4 / 4) = b := ofNat_eq (by omega)
    -- The same for two bytes, of which two bits are spare.
    have spare : b.toNat % 16 * 4 % 4 = 0 := by omega
    simp only [encode, decode, digitValue_digit (by omega : a.toNat / 4 < 64),
      digitValue_digit (by omega : a.toNat % 4 * 16 + b.toNat / 16 < 64),
      digitValue_digit (by omega : b.toNat % 16 * 4 < 64), Option.bind_eq_bind, Option.bind_some,
      first, second, spare, if_true]
  | case4 a b c rest ih =>
    have byteA := a.toNat_lt
    have byteB := b.toNat_lt
    have byteC := c.toNat_lt
    -- Three bytes fill four digits without a rest.
    have first : UInt8.ofNat (a.toNat / 4 * 4 + (a.toNat % 4 * 16 + b.toNat / 16) / 16) = a :=
      ofNat_eq (by omega)
    have second : UInt8.ofNat ((a.toNat % 4 * 16 + b.toNat / 16) % 16 * 16
        + (b.toNat % 16 * 4 + c.toNat / 64) / 4) = b := ofNat_eq (by omega)
    have third : UInt8.ofNat ((b.toNat % 16 * 4 + c.toNat / 64) % 4 * 64 + c.toNat % 64) = c :=
      ofNat_eq (by omega)
    simp only [encode, decode, digitValue_digit (by omega : a.toNat / 4 < 64),
      digitValue_digit (by omega : a.toNat % 4 * 16 + b.toNat / 16 < 64),
      digitValue_digit (by omega : b.toNat % 16 * 4 + c.toNat / 64 < 64),
      digitValue_digit (by omega : c.toNat % 64 < 64), ih, Option.bind_eq_bind, Option.bind_some,
      first, second, third]

/-- An encoding is written in the URL-safe alphabet alone. -/
theorem encode_mem {bytes : List UInt8} {char : Char} (member : char ∈ encode bytes) :
    char ∈ alphabet := by
  -- The cases are those of the encoder: nothing, one byte, two bytes, and three with more behind.
  induction bytes using encode.induct with
  | case1 => simp [encode] at member
  | case2 a =>
    -- One byte has six bits in the first digit and two in the second.
    have byte := a.toNat_lt
    simp only [encode, List.mem_cons, List.not_mem_nil, or_false] at member
    rcases member with rfl | rfl <;> exact digit_mem (by omega)
  | case3 a b =>
    -- Two bytes fill two digits and four bits of a third.
    have byteA := a.toNat_lt
    have byteB := b.toNat_lt
    simp only [encode, List.mem_cons, List.not_mem_nil, or_false] at member
    rcases member with rfl | rfl | rfl <;> exact digit_mem (by omega)
  | case4 a b c rest ih =>
    have byteA := a.toNat_lt
    have byteB := b.toNat_lt
    have byteC := c.toNat_lt
    simp only [encode, List.mem_cons] at member
    rcases member with rfl | rfl | rfl | rfl | member
    -- The four digits of a full group, then what the rest contributes.
    iterate 4 exact digit_mem (by omega)
    exact ih member

/-- No separator character occurs inside an encoding. -/
theorem dot_not_mem_encode (bytes : List UInt8) : '.' ∉ encode bytes := by
  intro member
  -- The alphabet can be searched through.
  have listed := encode_mem member
  revert listed
  decide

end Base64Url
