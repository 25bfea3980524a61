import Acme.Encoding.Split
import Acme.Encoding.Utf8
import Mathlib.Data.List.Basic

/-! HTTP/1.1 responses with a length that is announced: their bytes, and reading them back. -/

/-- A response: its status line, its fields and its body. -/
structure HttpReply where
  status : Nat
  reason : String
  fields : List (String × String)
  body : List UInt8
deriving DecidableEq

namespace HttpReply

open Split

/-- A line of the head. -/
def line (text : String) : List UInt8 :=
  Utf8.bytes text ++ [13, 10]

/-- The text of a status line. -/
def statusLine (reply : HttpReply) : String :=
  "HTTP/1.1 " ++ toString reply.status ++ " " ++ reply.reason

/-- The text of a field. -/
def fieldLine (field : String × String) : String :=
  field.1 ++ ": " ++ field.2

/-- The bytes of a response. -/
def render (reply : HttpReply) : List UInt8 :=
  line reply.statusLine ++ reply.fields.flatMap (fun field => line (fieldLine field)) ++ line "" ++
    reply.body

/-- Read a number in decimal digits. -/
def readNumber (digits : List Char) : Option Nat :=
  if digits ≠ [] ∧ digits.all Char.isDigit = true then some (Nat.ofDigitChars 10 digits 0) else none

/-- Read a line, up to and including its line feed. -/
def readLine (bytes : List UInt8) : Option (String × List UInt8) := do
  let (front, rest) ← splitOnce 10 bytes
  -- A carriage return stands in front of the line feed.
  if front.getLast? = some 13 then
    let text ← Utf8.text front.dropLast
    some (text, rest)
  else none

/-- Read fields, up to and including the empty line behind them. -/
def readFields : Nat → List UInt8 → Option (List (String × String) × List UInt8)
  | 0, _ => none
  | fuel + 1, bytes => do
    let (text, rest) ← readLine bytes
    if text = "" then some ([], rest)
    else
      let (name, value) ← splitOnce ':' text.toList
      let (fields, body) ← readFields fuel rest
      some ((String.ofList name, String.ofList (value.dropWhile (· = ' '))) :: fields, body)

/-- Read a status line. -/
def readStatus (text : String) : Option (Nat × String) := do
  let behind ← "HTTP/1.1 ".toList.isPrefixOf? text.toList
  let (digits, reason) ← splitOnce ' ' behind
  let status ← readNumber digits
  some (status, String.ofList reason)

/-- Read a response, whose body is as long as it is said to be. -/
def read (bytes : List UInt8) : Option HttpReply := do
  let (text, rest) ← readLine bytes
  let (status, reason) ← readStatus text
  let (fields, body) ← readFields bytes.length rest
  let size ← (fields.lookup "Content-Length").bind fun size => readNumber size.toList
  if body.length = size then some { status, reason, fields, body } else none

/-- A response that can be read back: no part of it is taken for another. -/
structure Formed (reply : HttpReply) : Prop where
  reason : '\n' ∉ reply.reason.toList
  names : ∀ field ∈ reply.fields, '\n' ∉ field.1.toList ∧ ':' ∉ field.1.toList
  values : ∀ field ∈ reply.fields, '\n' ∉ field.2.toList ∧ field.2.toList.head? ≠ some ' '
  size : reply.fields.lookup "Content-Length" = some (toString reply.body.length)

/-- A line is longer than its text. -/
theorem length_line (text : String) : (line text).length = (Utf8.bytes text).length + 2 := by
  simp [line]

/-- A number reads back from its digits. -/
@[simp] theorem readNumber_toString (number : Nat) :
    readNumber (toString number).toList = some number := by
  -- A number has a digit, and digits only.
  have some : Nat.toDigits 10 number ≠ [] := Nat.toDigits_ne_nil
  have digits : (Nat.toDigits 10 number).all Char.isDigit = true :=
    List.all_eq_true.mpr fun _ member => Nat.isDigit_of_mem_toDigits (by decide) (by decide) member
  rw [Nat.toString_eq_ofList_toDigits, String.toList_ofList, readNumber, if_pos ⟨some, digits⟩,
    Nat.ofDigitChars_ten_toDigits]

/-- A line reads back, whatever follows it. -/
theorem readLine_line {text : String} (single : '\n' ∉ text.toList) (rest : List UInt8) :
    readLine (line text ++ rest) = some (text, rest) := by
  -- The first line feed is the one that ends the line.
  have absent : (10 : UInt8) ∉ Utf8.bytes text ++ [13] := by
    have inside : UInt8.ofNat '\n'.toNat ∉ Utf8.bytes text := Utf8.not_mem_bytes (by decide) single
    simpa using inside
  have shape : line text ++ rest = (Utf8.bytes text ++ [13]) ++ 10 :: rest := by simp [line]
  rw [readLine, shape, splitOnce_append absent]
  simp

/-- A field is never an empty line. -/
theorem fieldLine_ne_empty (field : String × String) : fieldLine field ≠ "" := by
  intro none
  -- There is a colon in it.
  have long := congrArg String.length none
  simp [fieldLine] at long

/-- Fields read back, whatever follows the empty line. -/
theorem readFields_render {fields : List (String × String)} {fuel : Nat} {body : List UInt8}
    (names : ∀ field ∈ fields, '\n' ∉ field.1.toList ∧ ':' ∉ field.1.toList)
    (values : ∀ field ∈ fields, '\n' ∉ field.2.toList ∧ field.2.toList.head? ≠ some ' ')
    (enough : fields.length < fuel) :
    readFields fuel (fields.flatMap (fun field => line (fieldLine field)) ++ line "" ++ body)
      = some (fields, body) := by
  -- By induction on the fields; each of them takes one line.
  induction fields generalizing fuel with
  -- Only the empty line is left, and it ends the fields.
  | nil =>
    obtain ⟨less, rfl⟩ := Nat.exists_eq_succ_of_ne_zero (Nat.pos_iff_ne_zero.mp enough)
    have empty : readLine (line "" ++ body) = some ("", body) := readLine_line (by simp) body
    simp [readFields, empty]
  | cons field rest ih =>
    obtain ⟨less, rfl⟩ : ∃ less, fuel = less + 1 :=
      Nat.exists_eq_succ_of_ne_zero (Nat.ne_of_gt (Nat.lt_of_le_of_lt (Nat.zero_le _) enough))
    obtain ⟨⟨nameLine, nameColon⟩, names⟩ := List.forall_mem_cons.mp names
    obtain ⟨⟨valueLine, valueSpace⟩, values⟩ := List.forall_mem_cons.mp values
    have single : '\n' ∉ (fieldLine field).toList := by simp [fieldLine, nameLine, valueLine]
    -- The other fields are read with the fuel that is left.
    have later := ih names values (Nat.lt_of_succ_lt_succ enough)
    -- The first colon is the one that ends the name.
    have parts : splitOnce ':' (fieldLine field).toList
        = some (field.1.toList, ' ' :: field.2.toList) := by
      have shape : (fieldLine field).toList = field.1.toList ++ ':' :: ' ' :: field.2.toList := by
        simp [fieldLine]
      rw [shape, splitOnce_append nameColon]
    -- The blank behind the colon does not belong to the value.
    have value : (' ' :: field.2.toList).dropWhile (· = ' ') = field.2.toList := by
      rw [List.dropWhile_cons_of_pos (by simp)]
      cases shape : field.2.toList with
      | nil => rfl
      | cons first more =>
        -- The value starts with something else.
        rw [shape, List.head?_cons] at valueSpace
        exact List.dropWhile_cons_of_neg (by simpa using valueSpace)
    simp only [List.flatMap_cons, List.append_assoc] at later ⊢
    rw [readFields, readLine_line single]
    simp [fieldLine_ne_empty, parts, value, later]

/-- A status line reads back. -/
theorem readStatus_statusLine (reply : HttpReply) :
    readStatus reply.statusLine = some (reply.status, reply.reason) := by
  have shape : reply.statusLine.toList
      = "HTTP/1.1 ".toList ++ ((toString reply.status).toList ++ ' ' :: reply.reason.toList) := by
    simp [statusLine]
  -- No digit is a space.
  have digits : ' ' ∉ (toString reply.status).toList := by
    intro member
    rw [Nat.toString_eq_ofList_toDigits, String.toList_ofList] at member
    exact absurd (Nat.isDigit_of_mem_toDigits (by decide) (by decide) member) (by decide)
  rw [readStatus, shape, List.isPrefixOf?_eq_some_iff_append_eq.mpr rfl]
  simp only [Option.bind_eq_bind, Option.bind_some, splitOnce_append digits, readNumber_toString,
    String.ofList_toList]

/-- There are fewer fields than bytes, as each field takes at least its line feed. -/
theorem fields_fewer (reply : HttpReply) : reply.fields.length < reply.render.length := by
  -- By induction on the fields, each of which takes a line.
  have each : ∀ fields : List (String × String),
      fields.length ≤ (fields.flatMap fun field => line (fieldLine field)).length := by
    intro fields
    induction fields with
    | nil => exact Nat.le_refl _
    | cons field rest ih =>
      rw [List.flatMap_cons, List.length_append, List.length_cons, length_line]
      omega
  have fields := each reply.fields
  rw [render, List.length_append, List.length_append, List.length_append, length_line]
  omega

/-- A response reads back from its bytes. -/
theorem read_render {reply : HttpReply} (formed : reply.Formed) :
    read reply.render = some reply := by
  -- The status line is one line.
  have single : '\n' ∉ reply.statusLine.toList := by
    rw [statusLine]
    simp only [String.toList_append, List.mem_append, not_or]
    refine ⟨⟨⟨by decide, ?_⟩, by decide⟩, formed.reason⟩
    intro member
    rw [Nat.toString_eq_ofList_toDigits, String.toList_ofList] at member
    exact absurd (Nat.isDigit_of_mem_toDigits (by decide) (by decide) member) (by decide)
  -- The lines and the body stand one behind the other.
  have shape : reply.render = line reply.statusLine ++
      (reply.fields.flatMap (fun field => line (fieldLine field)) ++ line "" ++ reply.body) := by
    simp [render]
  -- The fields end at the empty line.
  have fields : readFields reply.render.length
      (reply.fields.flatMap (fun field => line (fieldLine field)) ++ line "" ++ reply.body)
      = some (reply.fields, reply.body) :=
    readFields_render formed.names formed.values reply.fields_fewer
  rw [read, shape, readLine_line single]
  simp only [Option.bind_eq_bind, Option.bind_some, readStatus_statusLine]
  rw [← shape, fields]
  simp only [Option.bind_some, formed.size, readNumber_toString, if_true]

end HttpReply
