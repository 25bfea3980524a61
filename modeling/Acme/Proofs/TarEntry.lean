import Acme.Encoding.Trimming
import Acme.Encoding.Utf8
import Acme.Testing.Tar

/-! Which archives the test harness gets a file out of, also when they are cut off. -/

namespace Acme.Testing

open Search

/-- The size field of a header: eleven octal digits, and what ends them. -/
def sizeText (size : Nat) (terminator : Char) : String :=
  String.ofList (Radix.write 8 11 size ++ [terminator])

/-- An archive that begins with a file. -/
structure TarEntry where
  /-- The header before the size of the file. -/
  front : Bytes
  /-- What ends the size. -/
  terminator : Char
  /-- The header after it. -/
  back : Bytes
  content : Bytes
  /-- The padding, and all other files. -/
  rest : Bytes
  before : front.length = 124
  behind : back.length = 376
  ends : terminator = '\x00' ∨ terminator = ' '
  small : content.length < 8 ^ 11

/-- The bytes of such an archive. -/
def TarEntry.bytes (entry : TarEntry) : Bytes :=
  entry.front ++ Utf8.bytes (sizeText entry.content.length entry.terminator) ++ entry.back ++
    entry.content ++ entry.rest

/-- Each ASCII character is one byte. -/
theorem length_ascii {chars : List Char} (ascii : ∀ char ∈ chars, char.toNat < 128) :
    (Utf8.bytes (String.ofList chars)).length = chars.length := by
  rw [Utf8.bytes_eq_flatMap, String.toList_ofList]
  -- By induction on the characters, of which the first adds a byte.
  induction chars with
  | nil => rfl
  | cons char rest ih =>
    have single : (String.utf8EncodeChar char).length = 1 := by
      -- Up to 127 the encoding has one byte.
      have low : char.val.toNat ≤ 127 := Nat.le_of_lt_succ (ascii char (.head _))
      dsimp only [String.utf8EncodeChar]
      rw [if_pos low]
      rfl
    rw [List.flatMap_cons, List.length_append, single,
      ih fun other member => ascii other (.tail _ member), List.length_cons, Nat.add_comm]

/-- An octal digit is neither white space nor a sign, nor does it end a number. -/
theorem octal_plain {digit : Nat} (bound : digit < 8) :
    isWhitespace (Char.ofNat ('0'.toNat + digit)) = false ∧
      Char.ofNat ('0'.toNat + digit) ≠ '\x00' ∧ Char.ofNat ('0'.toNat + digit) ≠ '+' ∧
      (Char.ofNat ('0'.toNat + digit)).toNat < 128 := by
  -- There are eight of them.
  rcases digit with _ | _ | _ | _ | _ | _ | _ | _ | digit
  all_goals first | omega | decide

/-- The field is twelve bytes long. -/
theorem sizeText_length (size : Nat) {terminator : Char}
    (ends : terminator = '\x00' ∨ terminator = ' ') :
    (Utf8.bytes (sizeText size terminator)).length = 12 := by
  rw [sizeText, length_ascii]
  · -- There are eleven digits and one character behind them.
    simp
  · intro char member
    rcases List.mem_append.mp member with digit | last
    · obtain ⟨value, bound, rfl⟩ := Radix.mem_write (by decide) digit
      exact (octal_plain bound).2.2.2
    · obtain rfl := List.mem_singleton.mp last
      rcases ends with rfl | rfl <;> decide

/-- The size is read from its field. -/
theorem read_sizeText {size : Nat} {terminator : Char} (small : size < 8 ^ 11)
    (ends : terminator = '\x00' ∨ terminator = ' ') :
    fromStrRadix8 (trim ((sizeText size terminator).toList.rdropWhile fun char =>
      char = '\x00' || isWhitespace char)) = some size := by
  -- The digits are neither white space nor a sign.
  have plain : ∀ char ∈ Radix.write 8 11 size,
      isWhitespace char = false ∧ char ≠ '\x00' ∧ char ≠ '+' := by
    intro char member
    obtain ⟨digit, bound, rfl⟩ := Radix.mem_write (by decide) member
    obtain ⟨visible, some, unsigned, _⟩ := octal_plain bound
    exact ⟨visible, some, unsigned⟩
  -- What ends the size goes, and the digits stay.
  have digits : (sizeText size terminator).toList.rdropWhile (fun char =>
      char = '\x00' || isWhitespace char) = Radix.write 8 11 size := by
    rw [Trimming.rdropWhile_eq_iff]
    refine ⟨fun char last => ?_, [terminator], by rw [sizeText, String.toList_ofList],
      fun char member => ?_⟩
    · obtain ⟨visible, some, _⟩ := plain char (List.mem_of_getLast? last)
      simp [visible, some]
    · obtain rfl := List.mem_singleton.mp member
      rcases ends with rfl | rfl <;> decide
  -- There is nothing to trim.
  have trimmed : trim (Radix.write 8 11 size) = Radix.write 8 11 size := by
    refine Trimming.trim_eq_iff.mpr ⟨fun char first => ?_, fun char last => ?_, [], [], by simp,
      by simp, by simp⟩
    · exact (plain char (List.mem_of_mem_head? first)).1
    · exact (plain char (List.mem_of_getLast? last)).1
  -- There is a digit, and no sign before it.
  have unsigned : (Radix.write 8 11 size).head? ≠ some '+' := fun first =>
    (plain '+' (List.mem_of_mem_head? first)).2.2 rfl
  have some : Radix.write 8 11 size ≠ [] := by
    intro none
    have length : (Radix.write 8 11 size).length = 11 := Radix.length_write 11 size
    rw [none] at length
    cases length
  -- Eleven digits fit, so that the number is read back.
  have value : Radix.read 8 usizeLimit 0 (Radix.write 8 11 size ++ [])
      = Radix.read 8 usizeLimit (0 * 8 ^ 11 + size) [] :=
    Radix.read_write (by decide) (by decide) small (by rw [usizeLimit]; omega) []
  rw [digits, trimmed, fromStrRadix8, if_neg unsigned, if_neg some]
  simpa [Radix.read] using value

/--
Wherever an archive that begins with a file is cut off, the file is got out of it exactly when
all of its content is there, and then as it is, whatever else is in the header or behind it.
-/
theorem extract_first_tar_file_whole (entry : TarEntry) (count : Nat) :
    extractFirstTarFile (entry.bytes.take count) =
      if 512 + entry.content.length ≤ count then some entry.content else none := by
  obtain ⟨front, terminator, back, content, rest, before, behind, ends, small⟩ := entry
  let field := Utf8.bytes (sizeText content.length terminator)
  have twelve : field.length = 12 := sizeText_length content.length ends
  let whole := front ++ field ++ back ++ content ++ rest
  show extractFirstTarFile (whole.take count) = _
  have long : 512 + content.length ≤ whole.length := by
    simp only [whole, List.length_append, before, behind, twelve]
    omega
  have length : (whole.take count).length = min count whole.length := List.length_take
  -- What is inside what was left is where it was.
  have kept : ∀ ahead part behind, whole = ahead ++ (part ++ behind) →
      ahead.length + part.length ≤ count →
      slice (whole.take count) ahead.length (ahead.length + part.length) = part := by
    intro ahead part behind split fits
    rw [slice, List.take_take, Nat.min_eq_left fits]
    apply slice_of_starts
    rw [split, List.drop_left]
    exact List.prefix_append part behind
  unfold extractFirstTarFile
  by_cases header : count < 512
  · -- There is not even a header.
    rw [if_pos (by omega), if_neg (by omega)]
  · -- The header is there, and gives the size.
    have sized : slice (whole.take count) 124 136 = field := by
      have found := kept front field (back ++ content ++ rest) (by simp [whole]) (by omega)
      rwa [before, twelve] at found
    rw [if_neg (by omega), sized]
    simp only [field, Utf8.text_bytes, Option.bind_eq_bind, Option.bind_some,
      read_sizeText small ends]
    by_cases there : 512 + content.length ≤ count
    · -- What follows the header is the content.
      have header : (front ++ field ++ back).length = 512 := by
        simp only [List.length_append, before, behind, twelve]
      have found := kept (front ++ field ++ back) content rest (by simp [whole])
        (by rw [header]; exact there)
      rw [header] at found
      rw [if_neg (by omega), if_pos there, found]
    · -- Some of the content is missing.
      rw [if_pos (by omega), if_neg there]

/-- An archive with a file of six bytes, and a block of padding. -/
def sampleArchive : TarEntry where
  front := List.replicate 124 0
  terminator := '\x00'
  back := List.replicate 376 0
  content := Utf8.bytes "hello\n"
  rest := List.replicate 506 0
  before := List.length_replicate
  behind := List.length_replicate
  ends := .inl rfl
  small := by decide

/-- The file is got out of it with its last byte, and not without. -/
theorem sampleArchive_whole :
    extractFirstTarFile (sampleArchive.bytes.take 518) = some (Utf8.bytes "hello\n") ∧
      extractFirstTarFile (sampleArchive.bytes.take 517) = none :=
  -- The header has 512 bytes, and the content six.
  ⟨(extract_first_tar_file_whole sampleArchive 518).trans (if_pos (by decide)),
    (extract_first_tar_file_whole sampleArchive 517).trans (if_neg (by decide))⟩

end Acme.Testing
