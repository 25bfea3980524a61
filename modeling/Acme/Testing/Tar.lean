import Acme.Core.Error
import Acme.Encoding.Radix
import Acme.Encoding.Search
import Mathlib.Data.List.DropRight

/-! The reader for the archive in which the test harness gets a file out of a container. -/

namespace Acme.Testing

open Search

/-- The numbers of a 64-bit machine are below this. -/
def usizeLimit : Nat := 2 ^ 64

/-- The number in an octal numeral, if a machine word can hold it. -/
def fromStrRadix8 (text : List Char) : Option Nat :=
  -- A sign may come first, but not alone.
  let digits := if text.head? = some '+' then text.tail else text
  if digits = [] then none else Radix.read 8 usizeLimit 0 digits

/-- The content of the first file in an archive. -/
def extractFirstTarFile (tar : Bytes) : Option Bytes :=
  -- The header is 512 bytes long.
  if tar.length < 512 then none
  else do
    let sizeField ← Utf8.text (slice tar 124 136)
    let sizeStr := sizeField.toList.rdropWhile fun char => char = '\x00' || isWhitespace char
    let size ← fromStrRadix8 (trim sizeStr)
    -- An archive that was cut off is refused.
    if tar.length < 512 + size then none else some (slice tar 512 (512 + size))

end Acme.Testing
