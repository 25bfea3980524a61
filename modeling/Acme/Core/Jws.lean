import Acme.Core.Effect

/-! Flattened JWS assembly: the protected header, the signing input, and the signed body. -/

namespace Acme

/-- The compact UTF-8 text of a JSON value. -/
def toVec (value : Json) : Bytes :=
  Utf8.bytes (String.ofList value.render)

/-- Base64url without padding. -/
def b64url (bytes : Bytes) : String :=
  String.ofList (Base64Url.encode bytes)

/-- Big-endian digits of a number in base 256, most significant first. -/
def bigEndian : Nat → Nat → Bytes
  | 0, _ => []
  | fuel + 1, value =>
    -- The least digit goes last.
    if value = 0 then [] else bigEndian fuel (value / 256) ++ [UInt8.ofNat (value % 256)]

/-- The minimal big-endian bytes of a number; zero takes one byte. -/
def toBytesBe (value : Nat) : Bytes :=
  if value = 0 then [0] else bigEndian value value

namespace AccountKey

/-- The `alg` value that belongs to a key. -/
def alg : AccountKey → String
  | .rsa _ => "RS256"
  | .ecdsa (.p256 _) => "ES256"
  | .ecdsa (.p384 _) => "ES384"
  | .ed25519 _ => "EdDSA"

/-- The public JWK of a key. -/
def publicJwk (lib : Libraries) : AccountKey → Json
  -- The members are written in the order of their names.
  | .rsa sk =>
    lib.object [("e", .str (b64url (toBytesBe sk.e))), ("kty", .str "RSA"),
      ("n", .str (b64url (toBytesBe sk.n)))]
  | .ecdsa (.p256 sk) =>
    lib.object [("crv", .str "P-256"), ("kty", .str "EC"), ("x", .str (b64url sk.x)),
      ("y", .str (b64url sk.y))]
  | .ecdsa (.p384 sk) =>
    lib.object [("crv", .str "P-384"), ("kty", .str "EC"), ("x", .str (b64url sk.x)),
      ("y", .str (b64url sk.y))]
  | .ed25519 sk =>
    lib.object [("crv", .str "Ed25519"), ("kty", .str "OKP"), ("x", .str (b64url sk.verifying))]

end AccountKey

/-- The thumbprint of a JWK: the digest of its text. -/
def jwkThumbprint (lib : Libraries) (jwk : Json) : String :=
  b64url (lib.sha256 (toVec jwk))

/-- The thumbprint of a key's public JWK. -/
def AccountKey.jwkThumbprint (lib : Libraries) (key : AccountKey) : String :=
  Acme.jwkThumbprint lib (key.publicJwk lib)

/-- The protected header of a request. -/
structure ProtectedHeader where
  alg : String
  jwk : Option Json
  kid : Option String
  nonce : String
  url : String

/-- The header as an object; an absent `jwk` or `kid` is skipped. -/
def ProtectedHeader.toJson (header : ProtectedHeader) : Json :=
  .obj ([("alg", .str header.alg)] ++ (header.jwk.map fun jwk => ("jwk", jwk)).toList ++
    (header.kid.map fun kid => ("kid", .str kid)).toList ++
    [("nonce", .str header.nonce), ("url", .str header.url)])

/-- A flattened JWS: three base64url segments. -/
structure Flattened where
  protectedSegment : String
  payload : String
  signature : String

/-- The flattened JWS as an object. -/
def Flattened.toJson (out : Flattened) : Json :=
  .obj [("protected", .str out.protectedSegment), ("payload", .str out.payload),
    ("signature", .str out.signature)]

/-- The text that is signed: header and payload segments, joined by a dot. -/
def signingInput (header : ProtectedHeader) (payload : Bytes) : String :=
  b64url (toVec header.toJson) ++ "." ++ b64url payload

/-- Sign a payload under a header with either key identifier. -/
def signJwsInner (lib : Libraries) (payload : Bytes) (url nonce : String) (jwk : Option Json)
    (kid : Option String) (key : AccountKey) : Except Stop Bytes :=
  let header : ProtectedHeader := { alg := key.alg, jwk, kid, nonce, url }
  let message := Utf8.bytes (signingInput header payload)
  match lib.sign key message with
  -- The signer of the library expects that it can sign, and panics otherwise.
  | none => .error (.panic ("signature operation failed: " ++ lib.signError key message))
  | some signature =>
    .ok (toVec (Flattened.toJson
      { protectedSegment := b64url (toVec header.toJson)
        payload := b64url payload
        signature := b64url signature }))

/-- Sign a request that embeds the account key itself. -/
def signJwsWithJwk (lib : Libraries) (payload : Bytes) (url nonce : String) (key : AccountKey) :
    Except Stop Bytes :=
  signJwsInner lib payload url nonce (some (key.publicJwk lib)) none key

/-- Sign a request that names the account by its URL. -/
def signJwsWithKid (lib : Libraries) (payload : Bytes) (url nonce kid : String)
    (key : AccountKey) : Except Stop Bytes :=
  signJwsInner lib payload url nonce none (some kid) key

end Acme
