import Acme.Core.Libraries

/-! From an unsuccessful response to the error it reports. -/

namespace Acme

/-- Unicode white space. -/
def isWhitespace (char : Char) : Bool :=
  let code := char.toNat
  (0x9 ≤ code && code ≤ 0xD) || code = 0x20 || code = 0x85 || code = 0xA0 || code = 0x1680 ||
    (0x2000 ≤ code && code ≤ 0x200A) || code = 0x2028 || code = 0x2029 || code = 0x202F ||
    code = 0x205F || code = 0x3000

/-- Remove white space at both ends. -/
def trim (chars : List Char) : List Char :=
  ((chars.dropWhile isWhitespace).reverse.dropWhile isWhitespace).reverse

/-- What all ACME problem types begin with. -/
def problemPrefix : String := "urn:ietf:params:acme:error:"

/-- The error a problem type stands for, carrying a detail text. -/
def parseProblemType (typeUri detail : String) : AcmeError :=
  match problemPrefix.toList.isPrefixOf? typeUri.toList with
  -- A type from elsewhere is reported as it is.
  | none => .other (typeUri ++ ": " ++ detail)
  | some code =>
    match String.ofList code with
    | "badCSR" => .badCsr detail
    | "badNonce" => .badNonce detail
    | "badPublicKey" => .badPublicKey detail
    | "badRevocationReason" => .badRevocationReason detail
    | "badSignatureAlgorithm" => .badSignatureAlgorithm detail
    | "caa" => .caa detail
    | "compound" => .compound detail
    | "connection" => .connection detail
    | "dns" => .dns detail
    | "externalAccountRequired" => .externalAccountRequired detail
    | "incorrectResponse" => .incorrectResponse detail
    | "invalidContact" => .invalidContact detail
    | "malformed" => .malformed detail
    | "orderNotReady" => .orderNotReady detail
    | "rateLimited" => .rateLimited detail
    | "rejectedIdentifier" => .rejectedIdentifier detail
    | "serverInternal" => .serverInternal detail
    | "tls" => .tls detail
    | "unauthorized" => .unauthorized detail
    | "unsupportedContact" => .unsupportedContact detail
    | "unsupportedIdentifier" => .unsupportedIdentifier detail
    | "userActionRequired" => .userActionRequired detail
    | "accountDoesNotExist" => .accountDoesNotExist detail
    | "alreadyRevoked" => .alreadyRevoked detail
    | "badRevoked" => .badRevoked detail
    | unlisted => .other (problemPrefix ++ unlisted ++ ": " ++ detail)

/-- The error a problem document reports, with its detail, else its title, else its type. -/
def ProblemDocument.intoAcmeError (doc : ProblemDocument) : AcmeError :=
  parseProblemType doc.type (doc.detail.getD (doc.title.getD doc.type))

/-- Whether a media type, without its parameters, is that of a problem document. -/
def isProblem (contentType : Option String) : Bool :=
  match contentType with
  -- Parameters follow the first semicolon.
  | some ct => trim (ct.toList.takeWhile (· ≠ ';')) = "application/problem+json".toList
  | none => false

/-- The error of an unsuccessful response: its problem document, or its status and body. -/
def problemFromResponse (lib : Libraries) (status : UInt16) (contentType : Option String)
    (body : Bytes) : AcmeError :=
  match if isProblem contentType then lib.parseProblem body else none with
  | some doc => doc.intoAcmeError
  -- No such document, or one that cannot be read.
  | none => .http status (String.ofList ((Utf8.lossy body).take 512))

/-- Whether a failure is one that the client raises itself when something does not come. -/
def AcmeError.isOwn : AcmeError → Bool
  | .missingField _ | .timeout _ => true
  | _ => false

/-- A problem type never stands for one of the failures the client raises itself. -/
theorem parseProblemType_not_own (typeUri detail : String) :
    (parseProblemType typeUri detail).isOwn = false := by
  unfold parseProblemType
  -- A type the client knows becomes its own error, and any other one the general one.
  split
  · rfl
  · split <;> rfl

/-- An unsuccessful response is never reported as a failure that the client raises itself. -/
theorem problemFromResponse_ne {lib : Libraries} {status : UInt16} {contentType : Option String}
    {body : Bytes} {failure : AcmeError} (own : failure.isOwn = true) :
    problemFromResponse lib status contentType body ≠ failure := by
  intro same
  -- A document that parses is classified by its type, and one that does not is a problem too.
  have reported : (problemFromResponse lib status contentType body).isOwn = false := by
    unfold problemFromResponse
    split
    · exact parseProblemType_not_own _ _
    · rfl
  rw [same, own] at reported
  cases reported

end Acme
