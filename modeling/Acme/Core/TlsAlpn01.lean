import Acme.Core.Challenge

/-! The certificate that answers a TLS-ALPN-01 challenge. -/

namespace Acme

/-- The first time of the calendar, at the start of the year -9999. -/
def calendarStart : Int := -377705116800 * 1000000000

/-- The time at which the calendar ends, with the year 9999. -/
def calendarEnd : Int := 253402300800 * 1000000000

/-- A time of the calendar, in nanoseconds since 1970. -/
structure OffsetDateTime where
  nanos : Int
  started : calendarStart ≤ nanos
  ended : nanos < calendarEnd
deriving DecidableEq

/-- The time a while later, which the calendar must have. -/
def OffsetDateTime.add (time : OffsetDateTime) (length : Duration) :
    Except String OffsetDateTime :=
  if ended : time.nanos + length.nanos < calendarEnd then
    .ok
      { nanos := time.nanos + length.nanos
        started := by
          have started := time.started
          omega
        ended }
  else .error "resulting value is out of range"

/-- An extension of a certificate, with the DER bytes of its value. -/
structure CustomExtension where
  oid : List Nat
  critical : Bool
  content : Bytes
deriving DecidableEq

/-- What a self-signed certificate is built from. -/
structure LeafParams extends CertificateParams where
  notBefore : OffsetDateTime
  notAfter : OffsetDateTime
  customExtensions : List CustomExtension
deriving DecidableEq

/-- What a certificate is built with: randomness, the time of day and the certificate library. -/
structure CertBuilder where
  /-- A new P-256 key pair, or why there is none. -/
  generateFor : Except String KeyPair
  /-- The time of day. -/
  nowUtc : OffsetDateTime
  /-- The DER bytes of a certificate that is signed with its own key. -/
  selfSigned : LeafParams → KeyPair → Except String Bytes

namespace TlsAlpn01

/-- The identifier of the `acmeIdentifier` extension. -/
def acmeIdentifierOid : List Nat := [1, 3, 6, 1, 5, 5, 7, 1, 31]

/-- Errors from building the certificate. -/
inductive TlsAlpn01Error where
  | certBuild (failure : String)
deriving DecidableEq

/-- The text of an error. -/
def TlsAlpn01Error.toText : TlsAlpn01Error → String
  | .certBuild failure => "rcgen failed to build responder cert: " ++ failure

/-- How a call ends without a result: with an error, or in a panic. -/
inductive Abort (ε : Type) where
  | error (failure : ε)
  | panic (message : String)
deriving DecidableEq

/-- The certificate, and its private key. -/
structure TlsAlpn01Responder where
  certDer : Bytes
  keyDer : Bytes
deriving DecidableEq

/-- Whether an alternative name is a DNS name. -/
def isDnsName : SanType → Bool
  | .dnsName _ => true
  | .ipAddress _ => false

/-- What a failing assertion about the alternative names says. -/
def unnamedMessage : String :=
  "assertion failed: params.subject_alt_names.iter().any(|san| matches!(san, SanType::DnsName(_)))"

/-- A failure of the certificate library is passed on. -/
def certBuild {α : Type} (built : Except String α) : Except (Abort TlsAlpn01Error) α :=
  built.mapError fun failure => .error (.certBuild failure)

/-- The certificate for an identifier and a key authorization that is known already. -/
def responderCertFromKeyAuthorization (lib : Libraries) (builder : CertBuilder)
    (debugAssertions : Bool) (identifier keyAuthorization : String) :
    Except (Abort TlsAlpn01Error) TlsAlpn01Responder := do
  let hash := (lib.sha256 (Utf8.bytes keyAuthorization)).val
  -- The tag of an OCTET STRING, its length, and the digest.
  let extnValue := [0x04, 0x20] ++ hash
  let keyPair ← certBuild builder.generateFor
  let params ← certBuild (lib.certificateParamsNew [identifier])
  let now := builder.nowUtc
  let notAfter ← (now.add (Duration.fromSecs 86400)).mapError .panic
  let params : LeafParams :=
    { commonName := none
      subjectAltNames := params.subjectAltNames
      notBefore := now
      notAfter
      customExtensions := [] }
  -- The assertion is compiled in debug builds only.
  if debugAssertions && !params.subjectAltNames.any isDnsName then
    throw (.panic unnamedMessage)
  else
    let ext : CustomExtension :=
      { oid := acmeIdentifierOid, critical := true, content := extnValue }
    let params := { params with customExtensions := params.customExtensions ++ [ext] }
    let certDer ← certBuild (builder.selfSigned params keyPair)
    .ok { certDer, keyDer := keyPair.der }

/-- The certificate for an identifier, a token and an account key. -/
def responderCert (lib : Libraries) (builder : CertBuilder) (debugAssertions : Bool)
    (identifier token : String) (accountKey : AccountKey) :
    Except (Abort TlsAlpn01Error) TlsAlpn01Responder :=
  responderCertFromKeyAuthorization lib builder debugAssertions identifier
    (computeKeyAuthorization lib token accountKey)

/-- The identifier that a caller of the component names. -/
def identifierFromSolverWit (id : Identifier) : Identifier :=
  { kind := id.kind, value := id.value }

/-- The export of the component: its kind of identifier is not looked at. -/
def TlsAlpn01Solver.responderCert (lib : Libraries) (builder : CertBuilder)
    (debugAssertions : Bool) (id : Identifier) (keyAuthorization : String) :
    Except (Abort String) (Bytes × Bytes) :=
  let identifier := identifierFromSolverWit id
  match responderCertFromKeyAuthorization lib builder debugAssertions identifier.value
      keyAuthorization with
  | .ok responder => .ok (responder.certDer, responder.keyDer)
  | .error (.error failure) => .error (.error failure.toText)
  | .error (.panic message) => .error (.panic message)

end TlsAlpn01

end Acme
