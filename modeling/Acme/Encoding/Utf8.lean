import Mathlib.Data.List.Basic

/-! UTF-8: the bytes of a text, the text of valid bytes, and the lossy reading of any bytes. -/

namespace Utf8

/-- The UTF-8 bytes of a text. -/
def bytes (text : String) : List UInt8 :=
  text.toUTF8.data.toList

/-- The text that a byte string encodes, when it is valid UTF-8. -/
def text (bytes : List UInt8) : Option String :=
  String.fromUTF8? ⟨bytes.toArray⟩

/-- The bytes of a text are valid and encode that text. -/
@[simp] theorem text_bytes (written : String) : text (bytes written) = some written := by
  -- The bytes of a string are valid by construction.
  have valid : String.toUTF8 written |>.IsValidUTF8 := written.isValidUTF8
  simp only [text, bytes, Array.toArray_toList]
  exact dif_pos valid

/-- The bytes of a text are the bytes of its characters, one after the other. -/
theorem bytes_eq_flatMap (written : String) :
    bytes written = written.toList.flatMap String.utf8EncodeChar := by
  have same : written.toUTF8 = written.toList.utf8Encode := String.utf8Encode_toList.symm
  rw [bytes, same, List.utf8Encode]
  exact List.data_toByteArray ▸ rfl

/-- Texts are encoded one after the other. -/
@[simp] theorem bytes_append (first second : String) :
    bytes (first ++ second) = bytes first ++ bytes second := by
  rw [bytes_eq_flatMap, bytes_eq_flatMap, bytes_eq_flatMap, String.toList_append,
    List.flatMap_append]

/-- Valid bytes are the bytes of the text they encode. -/
theorem bytes_of_text {encoded : List UInt8} {written : String}
    (valid : text encoded = some written) : bytes written = encoded := by
  unfold text at valid
  rw [String.fromUTF8?] at valid
  split at valid
  -- Bytes that are not valid have no text.
  · -- The string was made of these bytes.
    cases valid
    simp [bytes, String.fromUTF8]
  · cases valid

/-- An ASCII byte in the encoding of a character is that character. -/
theorem ascii_of_mem {byte : UInt8} {char : Char} (low : byte.toNat < 128)
    (used : byte ∈ String.utf8EncodeChar char) : char.toNat = byte.toNat := by
  dsimp only [String.utf8EncodeChar] at used
  have number : char.toNat = char.val.toNat := rfl
  -- Only the one-byte form holds a byte below 128: lead and continuation bytes have a high bit.
  split at used
  · rw [List.mem_singleton] at used
    subst used
    rw [UInt8.toNat_ofNat'] at low ⊢
    omega
  · -- In the longer ones every byte is 128 or more.
    exfalso
    split at used
    · simp only [List.mem_cons, List.not_mem_nil, or_false] at used
      rcases used with rfl | rfl <;> rw [UInt8.toNat_ofNat'] at low <;> omega
    · split at used
      · simp only [List.mem_cons, List.not_mem_nil, or_false] at used
        rcases used with rfl | rfl | rfl <;> rw [UInt8.toNat_ofNat'] at low <;> omega
      · simp only [List.mem_cons, List.not_mem_nil, or_false] at used
        rcases used with rfl | rfl | rfl | rfl <;> rw [UInt8.toNat_ofNat'] at low <;> omega

/-- A text without an ASCII character has no such byte. -/
theorem not_mem_bytes {char : Char} {written : String} (ascii : char.toNat < 128)
    (absent : char ∉ written.toList) : UInt8.ofNat char.toNat ∉ bytes written := by
  intro used
  rw [bytes_eq_flatMap, List.mem_flatMap] at used
  obtain ⟨other, member, used⟩ := used
  have small : (UInt8.ofNat char.toNat).toNat = char.toNat := by
    rw [UInt8.toNat_ofNat']
    omega
  -- The byte is low, so the character it comes from is the absent one.
  have same := ascii_of_mem (by omega) used
  rw [small] at same
  exact absent (Char.toNat_inj.mp same ▸ member)

/-- A continuation byte carries six further bits. -/
def isContinuation (byte : UInt8) : Bool :=
  0x80 ≤ byte && byte ≤ 0xBF

/-- The six bits of a continuation byte. -/
def low (byte : UInt8) : Nat :=
  byte.toNat % 64

/-- The second bytes a three-byte sequence may have: neither overlong nor a surrogate. -/
def isSecondOfThree (first second : UInt8) : Bool :=
  if first = 0xE0 then 0xA0 ≤ second && second ≤ 0xBF
  else if first = 0xED then 0x80 ≤ second && second ≤ 0x9F
  else isContinuation second

/-- The second bytes a four-byte sequence may have: neither overlong nor above the last scalar. -/
def isSecondOfFour (first second : UInt8) : Bool :=
  if first = 0xF0 then 0x90 ≤ second && second ≤ 0xBF
  else if first = 0xF4 then 0x80 ≤ second && second ≤ 0x8F
  else isContinuation second

/-- The replacement character. -/
def replacement : Char := '\uFFFD'

/-- Read any bytes as text: each maximal invalid part becomes one replacement character. -/
def lossy : List UInt8 → List Char
  | [] => []
  | a :: rest =>
    if a < 0x80 then Char.ofNat a.toNat :: lossy rest
    else if 0xC2 ≤ a && a ≤ 0xDF then
      match rest with
      | b :: after =>
        if isContinuation b then Char.ofNat (a.toNat % 32 * 64 + low b) :: lossy after
        else replacement :: lossy (b :: after)
      | [] => [replacement]
    else if 0xE0 ≤ a && a ≤ 0xEF then
      match rest with
      | b :: c :: after =>
        if isSecondOfThree a b then
          if isContinuation c then
            Char.ofNat ((a.toNat % 16 * 64 + low b) * 64 + low c) :: lossy after
          else replacement :: lossy (c :: after)
        else replacement :: lossy (b :: c :: after)
      | [b] => if isSecondOfThree a b then [replacement] else replacement :: lossy [b]
      | [] => [replacement]
    else if 0xF0 ≤ a && a ≤ 0xF4 then
      match rest with
      | b :: c :: d :: after =>
        if isSecondOfFour a b then
          if isContinuation c then
            if isContinuation d then
              Char.ofNat (((a.toNat % 8 * 64 + low b) * 64 + low c) * 64 + low d) :: lossy after
            else replacement :: lossy (d :: after)
          else replacement :: lossy (c :: d :: after)
        else replacement :: lossy (b :: c :: d :: after)
      | [b, c] =>
        if isSecondOfFour a b then
          if isContinuation c then [replacement] else replacement :: lossy [c]
        else replacement :: lossy [b, c]
      | [b] => if isSecondOfFour a b then [replacement] else replacement :: lossy [b]
      | [] => [replacement]
    else replacement :: lossy rest

end Utf8
