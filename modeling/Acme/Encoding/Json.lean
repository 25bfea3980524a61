import Mathlib.Data.List.Basic

/-! JSON values, the compact text they are written as, and a reader for that text. -/

/-- A JSON value; a number is kept as its literal and an object as its members in order. -/
inductive Json where
  | null
  | bool (value : Bool)
  | num (literal : String)
  | str (text : String)
  | arr (items : List Json)
  | obj (members : List (String × Json))

namespace Json

/-- The lower-case digit of a four-bit value. -/
def hexDigit (value : Nat) : Char :=
  if value < 10 then Char.ofNat ('0'.toNat + value) else Char.ofNat ('a'.toNat + (value - 10))

/-- The four-bit value of a digit in either case. -/
def hexValue (char : Char) : Option Nat :=
  if '0' ≤ char ∧ char ≤ '9' then some (char.toNat - '0'.toNat)
  else if 'a' ≤ char ∧ char ≤ 'f' then some (char.toNat - 'a'.toNat + 10)
  else if 'A' ≤ char ∧ char ≤ 'F' then some (char.toNat - 'A'.toNat + 10)
  else none

/-- The short escapes: the letter after the backslash and the character it stands for. -/
def shortEscapes : List (Char × Char) :=
  [('"', '"'), ('\\', '\\'), ('b', '\x08'), ('f', '\x0c'), ('n', '\n'), ('r', '\r'), ('t', '\t')]

/-- How one character of a string is written. -/
def escape (char : Char) : List Char :=
  match shortEscapes.find? (fun pair => pair.2 = char) with
  | some pair => ['\\', pair.1]
  | none =>
    -- The remaining control characters take the six-character form.
    if char.toNat < 32 then
      ['\\', 'u', '0', '0', hexDigit (char.toNat / 16), hexDigit (char.toNat % 16)]
    else [char]

/-- A string between its quotes. -/
def quote (text : String) : List Char :=
  '"' :: text.toList.flatMap escape ++ ['"']

mutual

/-- The compact text of a value, without whitespace. -/
def render : Json → List Char
  | .null => ['n', 'u', 'l', 'l']
  | .bool true => ['t', 'r', 'u', 'e']
  | .bool false => ['f', 'a', 'l', 's', 'e']
  | .num literal => literal.toList
  | .str text => quote text
  | .arr items => '[' :: renderItems items ++ [']']
  | .obj members => '{' :: renderMembers members ++ ['}']

/-- Array elements, separated by commas. -/
def renderItems : List Json → List Char
  | [] => []
  | [item] => item.render
  | item :: next :: rest => item.render ++ ',' :: renderItems (next :: rest)

/-- Object members, separated by commas. -/
def renderMembers : List (String × Json) → List Char
  | [] => []
  | [(key, value)] => quote key ++ ':' :: value.render
  | (key, value) :: next :: rest =>
    quote key ++ ':' :: value.render ++ ',' :: renderMembers (next :: rest)

end

/-- The four whitespace characters of the grammar. -/
def isSpace (char : Char) : Bool :=
  char = ' ' || char = '\n' || char = '\r' || char = '\t'

/-- Drop leading whitespace. -/
def skipSpace (chars : List Char) : List Char :=
  chars.dropWhile isSpace

/-- The character of a sixteen-bit escape, unless it is half of a surrogate pair. -/
def scalar (code : Nat) : Option Char :=
  if 0xD800 ≤ code ∧ code ≤ 0xDFFF then none else some (Char.ofNat code)

/-- The value of a four-digit escape. -/
def hexValues (a b c d : Char) : Option Nat := do
  let first ← hexValue a
  let second ← hexValue b
  let third ← hexValue c
  let fourth ← hexValue d
  some (((first * 16 + second) * 16 + third) * 16 + fourth)

/-- Read the rest of a string whose opening quote was taken, up to its closing quote. -/
def readString : List Char → Option (List Char × List Char)
  | [] => none
  | char :: rest =>
    if char = '"' then some ([], rest)
    else if char = '\\' then
      match rest with
      | [] => none
      | letter :: rest =>
        if letter = 'u' then
          match rest with
          | a :: b :: c :: d :: rest => do
            let code ← hexValues a b c d
            let read ← scalar code
            let (text, after) ← readString rest
            some (read :: text, after)
          | _ => none
        else do
          let pair ← shortEscapes.find? fun pair => pair.1 = letter
          let (text, after) ← readString rest
          some (pair.2 :: text, after)
    else if char.toNat < 32 then none
    else do
      let (text, after) ← readString rest
      some (char :: text, after)

/-- The characters a number literal is made of. -/
def isNumberChar (char : Char) : Bool :=
  ('0' ≤ char && char ≤ '9') || char = '-' || char = '+' || char = '.' || char = 'e' || char = 'E'

/-- Digits, at least one of them, and what follows. -/
def takeDigits (chars : List Char) : Option (List Char) :=
  match chars.span fun char => '0' ≤ char && char ≤ '9' with
  | ([], _) => none
  | (_, rest) => some rest

/-- The number grammar: sign, integer part without leading zeros, fraction, exponent. -/
def isNumber (chars : List Char) : Bool :=
  let unsigned := match chars with
    | '-' :: rest => rest
    | rest => rest
  let integer := match unsigned with
    | '0' :: rest => some rest
    | rest => takeDigits rest
  let fraction := integer.bind fun rest => match rest with
    | '.' :: rest => takeDigits rest
    | rest => some rest
  let exponent := fraction.bind fun rest => match rest with
    | 'e' :: '+' :: rest | 'e' :: '-' :: rest | 'E' :: '+' :: rest | 'E' :: '-' :: rest
    | 'e' :: rest | 'E' :: rest => takeDigits rest
    | rest => some rest
  chars.all isNumberChar && exponent == some []

mutual

/-- Read one value; the fuel bounds the characters that may be taken. -/
def readValue : Nat → List Char → Option (Json × List Char)
  | 0, _ => none
  | fuel + 1, chars =>
    match skipSpace chars with
    | [] => none
    | char :: rest =>
      if char = '"' then do
        let (text, after) ← readString rest
        some (.str (String.ofList text), after)
      else if char = '[' then
        match skipSpace rest with
        | ']' :: after => some (.arr [], after)
        | _ => do
          let (items, after) ← readItems fuel rest
          some (.arr items, after)
      else if char = '{' then
        match skipSpace rest with
        | '}' :: after => some (.obj [], after)
        | _ => do
          let (members, after) ← readMembers fuel rest
          some (.obj members, after)
      else if char = 'n' then
        if ['u', 'l', 'l'].isPrefixOf rest then some (.null, rest.drop 3) else none
      else if char = 't' then
        if ['r', 'u', 'e'].isPrefixOf rest then some (.bool true, rest.drop 3) else none
      else if char = 'f' then
        if ['a', 'l', 's', 'e'].isPrefixOf rest then some (.bool false, rest.drop 4) else none
      else
        let literal := (char :: rest).takeWhile isNumberChar
        if isNumber literal then
          some (.num (String.ofList literal), (char :: rest).drop literal.length)
        else none

/-- Read array elements up to the closing bracket. -/
def readItems : Nat → List Char → Option (List Json × List Char)
  | 0, _ => none
  | fuel + 1, chars => do
    let (item, rest) ← readValue fuel chars
    match skipSpace rest with
    | ',' :: rest =>
      let (items, after) ← readItems fuel rest
      some (item :: items, after)
    | ']' :: after => some ([item], after)
    | _ => none

/-- Read object members up to the closing brace. -/
def readMembers : Nat → List Char → Option (List (String × Json) × List Char)
  | 0, _ => none
  | fuel + 1, chars =>
    match skipSpace chars with
    | '"' :: rest => do
      let (key, rest) ← readString rest
      match skipSpace rest with
      | ':' :: rest =>
        let (value, rest) ← readValue fuel rest
        match skipSpace rest with
        | ',' :: rest =>
          let (members, after) ← readMembers fuel rest
          some ((String.ofList key, value) :: members, after)
        | '}' :: after => some ([(String.ofList key, value)], after)
        | _ => none
      | _ => none
    | _ => none

end

/-- Read a whole text as one value. -/
def read (chars : List Char) : Option Json := do
  let (value, rest) ← readValue chars.length chars
  if skipSpace rest = [] then some value else none

/-- The member of an object with a given name. -/
def member (name : String) : Json → Option Json
  | .obj members => (members.find? fun pair => pair.1 = name).map Prod.snd
  | _ => none

/-- The text of a string value. -/
def text : Json → Option String
  | .str text => some text
  | _ => none

end Json
