import Acme.Core.Records
import Acme.Core.Time
import Mathlib.Data.List.Sort

/-! What the client takes from the libraries and the platform it is built on. -/

namespace Acme

/-- How a JSON map orders its keys: as inserted, or sorted. -/
inductive MapOrder where
  | insertion
  | sorted
deriving DecidableEq, Repr

/-- The third-party code and the platform constants the client depends on. -/
structure Libraries where
  /-- The order in which `serde_json` keeps the members of an object value. -/
  mapOrder : MapOrder
  /-- Deserialize a directory, or explain why not. -/
  parseDirectory : Bytes → Except String Directory
  /-- Deserialize an account record, or explain why not. -/
  parseAccountRecord : Bytes → Except String AccountRecord
  /-- Deserialize an order without its URL, or explain why not. -/
  parseOrder : Bytes → Except String Order
  /-- Deserialize an authorization, or explain why not. -/
  parseAuthorization : Bytes → Except String Authorization
  /-- Deserialize a challenge, or explain why not. -/
  parseChallenge : Bytes → Except String Challenge
  /-- Deserialize a problem document. -/
  parseProblem : Bytes → Option ProblemDocument
  /-- The debug text of a string: quoted, with unprintable characters escaped. -/
  debugStr : String → String
  /-- The SHA-256 digest. -/
  sha256 : Bytes → { digest : Bytes // digest.length = 32 }
  /-- Sign a message; a key that is too small for its algorithm makes the library panic. -/
  sign : AccountKey → Bytes → Option Bytes
  /-- The debug text of the error in that panic. -/
  signError : AccountKey → Bytes → String
  /-- Certificate parameters for a list of names, with the library's defaults. -/
  certificateParamsNew : List String → Except String CertificateParams
  /-- The DER bytes of a signed certificate request. -/
  serializeRequest : CertificateParams → KeyPair → Except String Bytes
  /-- The last instant the platform can represent. -/
  instantMax : Instant

/-- An object value, with its members in the order the map keeps them. -/
def Libraries.object (lib : Libraries) (members : List (String × Json)) : Json :=
  match lib.mapOrder with
  | .insertion => .obj members
  | .sorted => .obj (members.insertionSort fun a b => a.1 ≤ b.1)

end Acme
