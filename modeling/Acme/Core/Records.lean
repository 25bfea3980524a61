import Acme.Encoding.Base64Url
import Acme.Encoding.Json
import Acme.Encoding.Utf8

/-! The data the client exchanges with a certificate authority, and the keys it holds. -/

namespace Acme

/-- A byte string. -/
abbrev Bytes := List UInt8

/-- Every failure the client reports: the authority's problem codes, then the local ones. -/
inductive AcmeError where
  | badCsr (detail : String)
  | badNonce (detail : String)
  | badPublicKey (detail : String)
  | badRevocationReason (detail : String)
  | badSignatureAlgorithm (detail : String)
  | caa (detail : String)
  | compound (detail : String)
  | connection (detail : String)
  | dns (detail : String)
  | externalAccountRequired (detail : String)
  | incorrectResponse (detail : String)
  | invalidContact (detail : String)
  | malformed (detail : String)
  | orderNotReady (detail : String)
  | rateLimited (detail : String)
  | rejectedIdentifier (detail : String)
  | serverInternal (detail : String)
  | tls (detail : String)
  | unauthorized (detail : String)
  | unsupportedContact (detail : String)
  | unsupportedIdentifier (detail : String)
  | userActionRequired (detail : String)
  | accountDoesNotExist (detail : String)
  | alreadyRevoked (detail : String)
  | badRevoked (detail : String)
  | transport (message : String)
  | serialization (message : String)
  | jose (message : String)
  | timeout (message : String)
  | missingField (field : String)
  | http (status : UInt16) (body : String)
  | other (message : String)
deriving DecidableEq, Repr

/-- An RFC 7807 problem document. -/
structure ProblemDocument where
  type : String
  title : Option String
  status : Option UInt16
  detail : Option String
  instanceUri : Option String
  subproblems : List Json

/-- One raw HTTP response; header fields keep their order and may repeat. -/
structure HttpResponse where
  status : UInt16
  headers : List (String × String)
  body : Bytes
deriving DecidableEq, Repr

/-- The `meta` block of a directory. -/
structure Meta where
  termsOfService : Option String
  website : Option String
  caaIdentities : List String
  externalAccountRequired : Bool
  extra : List (String × Json)

/-- The directory of an authority: the URL of each resource. -/
structure Directory where
  newNonce : String
  newAccount : String
  newOrder : String
  newAuthz : Option String
  revokeCert : String
  keyChange : String
  renewalInfo : Option String
  metadata : Meta

/-- The account object that `newAccount` returns. -/
structure AccountRecord where
  status : String
  contact : List String
  termsOfServiceAgreed : Option Bool
  orders : Option String
  externalAccountBinding : Option Json

/-- One identifier of an order. -/
structure Identifier where
  kind : String
  value : String
deriving DecidableEq, Repr

/-- A DNS identifier. -/
def Identifier.dns (name : String) : Identifier :=
  { kind := "dns", value := name }

/-- The states of an order. -/
inductive OrderStatus where
  | pending | ready | processing | valid | invalid | unknown
deriving DecidableEq, Repr

/-- The state a wire word stands for. -/
def OrderStatus.fromWire (s : String) : OrderStatus :=
  match s with
  | "pending" => .pending
  | "ready" => .ready
  | "processing" => .processing
  | "valid" => .valid
  | "invalid" => .invalid
  | _ => .unknown

/-- An order; its URL comes from the creating response and is not part of the body. -/
structure Order where
  status : String
  expires : Option String
  identifiers : List Identifier
  notBefore : Option String
  notAfter : Option String
  error : Option Json
  authorizations : List String
  finalize : String
  certificate : Option String
  url : String

/-- The state of an order. -/
def Order.statusEnum (order : Order) : OrderStatus :=
  OrderStatus.fromWire order.status

/-- The states of a challenge. -/
inductive ChallengeStatus where
  | pending | processing | valid | invalid | unknown
deriving DecidableEq, Repr

/-- The state a wire word stands for. -/
def ChallengeStatus.fromWire (s : String) : ChallengeStatus :=
  match s with
  | "pending" => .pending
  | "processing" => .processing
  | "valid" => .valid
  | "invalid" => .invalid
  | _ => .unknown

/-- The kinds of challenges, with unrecognised ones kept verbatim. -/
inductive ChallengeKind where
  | http01 | dns01 | tlsAlpn01
  | other (type : String)
deriving DecidableEq, Repr

/-- The kind a `type` field names. -/
def ChallengeKind.fromType (s : String) : ChallengeKind :=
  match s with
  | "http-01" => .http01
  | "dns-01" => .dns01
  | "tls-alpn-01" => .tlsAlpn01
  | type => .other type

/-- The `type` field of a kind. -/
def ChallengeKind.asStr : ChallengeKind → String
  | .http01 => "http-01"
  | .dns01 => "dns-01"
  | .tlsAlpn01 => "tls-alpn-01"
  | .other type => type

/-- A kind's own `type` field names that kind. -/
theorem ChallengeKind.asStr_fromType (s : String) : (ChallengeKind.fromType s).asStr = s := by
  -- Three words name a kind of their own, and every other word is kept.
  unfold fromType
  split <;> rfl

/-- A challenge object. -/
structure Challenge where
  type : String
  url : String
  status : String
  validated : Option String
  token : Option String
  error : Option Json

/-- The state of a challenge. -/
def Challenge.statusEnum (challenge : Challenge) : ChallengeStatus :=
  ChallengeStatus.fromWire challenge.status

/-- The kind of a challenge. -/
def Challenge.kind (challenge : Challenge) : ChallengeKind :=
  ChallengeKind.fromType challenge.type

/-- The states of an authorization. -/
inductive AuthorizationStatus where
  | pending | valid | invalid | deactivated | expired | revoked | unknown
deriving DecidableEq, Repr

/-- The state a wire word stands for. -/
def AuthorizationStatus.fromWire (s : String) : AuthorizationStatus :=
  match s with
  | "pending" => .pending
  | "valid" => .valid
  | "invalid" => .invalid
  | "deactivated" => .deactivated
  | "expired" => .expired
  | "revoked" => .revoked
  | _ => .unknown

/-- An authorization: the identifier to prove control of, and the challenges that do. -/
structure Authorization where
  identifier : Identifier
  status : String
  expires : Option String
  challenges : List Challenge
  wildcard : Bool

/-- The state of an authorization. -/
def Authorization.statusEnum (authz : Authorization) : AuthorizationStatus :=
  AuthorizationStatus.fromWire authz.status

/-- An RSA private key. -/
structure RsaPrivateKey where
  n : Nat
  e : Nat
  d : Nat
deriving DecidableEq, Repr

/-- A private key on a curve, with the coordinates of its public point in a fixed width. -/
structure SigningKey (width : Nat) where
  secret : Nat
  x : { bytes : Bytes // bytes.length = width }
  y : { bytes : Bytes // bytes.length = width }
deriving DecidableEq

/-- A private key on one of the two NIST curves. -/
inductive EcdsaKey where
  | p256 (sk : SigningKey 32)
  | p384 (sk : SigningKey 48)
deriving DecidableEq

/-- An Ed25519 private key and its public bytes. -/
structure Ed25519Key where
  secret : Nat
  verifying : { bytes : Bytes // bytes.length = 32 }
deriving DecidableEq

/-- The key that signs an account's requests. -/
inductive AccountKey where
  | rsa (sk : RsaPrivateKey)
  | ecdsa (sk : EcdsaKey)
  | ed25519 (sk : Ed25519Key)
deriving DecidableEq

/-- A key pair for the issued certificate, known by its PKCS#8 bytes. -/
structure KeyPair where
  der : Bytes
deriving DecidableEq, Repr

/-- The key of the issued certificate. -/
structure CertificateKey where
  keyPair : KeyPair
deriving DecidableEq, Repr

/-- A subject alternative name in a certificate request. -/
inductive SanType where
  | dnsName (name : String)
  | ipAddress (octets : Bytes)
deriving DecidableEq, Repr

/-- What a certificate request is built from, as far as names are concerned. -/
structure CertificateParams where
  commonName : Option String
  subjectAltNames : List SanType
deriving DecidableEq, Repr

end Acme
