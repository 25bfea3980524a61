import Acme.Core.Jws
import Acme.Encoding.JsonLaws

/-! A receiver's reading of a signed request gives back every field the client put into it. -/

namespace Acme

/-- Decode a base64url segment. -/
def readB64url (segment : String) : Option Bytes :=
  Base64Url.decode segment.toList

/-- Read a byte string as JSON. -/
def readJson (bytes : Bytes) : Option Json :=
  (Utf8.text bytes).bind fun text => Json.read text.toList

/-- A member of an object that is a string. -/
def textMember (name : String) (value : Json) : Option String :=
  (value.member name).bind Json.text

/-- Read a protected header. -/
def readHeader (bytes : Bytes) : Option ProtectedHeader := do
  let value ← readJson bytes
  let alg ← textMember "alg" value
  let nonce ← textMember "nonce" value
  let url ← textMember "url" value
  some { alg, jwk := value.member "jwk", kid := textMember "kid" value, nonce, url }

/-- What a receiver finds in a request. -/
structure SignedRequest where
  header : ProtectedHeader
  payloadSegment : String
  payload : Bytes
  signature : Bytes

/-- Read a flattened JWS. -/
def readJws (body : Bytes) : Option SignedRequest := do
  let value ← readJson body
  let protectedSegment ← textMember "protected" value
  let payloadSegment ← textMember "payload" value
  let headerBytes ← readB64url protectedSegment
  let header ← readHeader headerBytes
  let payload ← readB64url payloadSegment
  let signature ← (textMember "signature" value).bind readB64url
  some { header, payloadSegment, payload, signature }

/-- The text a flattened JWS was signed over: its first two segments, joined by a dot. -/
def signedText (body : Bytes) : Option String := do
  let value ← readJson body
  let protectedSegment ← textMember "protected" value
  let payloadSegment ← textMember "payload" value
  some (protectedSegment ++ "." ++ payloadSegment)

/-- Read a signing input: what stands before its first dot, and what stands after it. -/
def readSigningInput (input : String) : Option (ProtectedHeader × Bytes) := do
  let headerBytes ← Base64Url.decode (input.toList.takeWhile (· ≠ '.'))
  let header ← readHeader headerBytes
  let payload ← Base64Url.decode ((input.toList.dropWhile (· ≠ '.')).drop 1)
  some (header, payload)

@[simp] theorem readB64url_b64url (bytes : Bytes) : readB64url (b64url bytes) = some bytes := by
  simp [readB64url, b64url, Base64Url.decode_encode]

/-- The text of a well-formed value reads back as the value. -/
theorem readJson_toVec {value : Json} (formed : value.WellFormed) :
    readJson (toVec value) = some value := by
  simp [readJson, toVec, Json.read_render formed]

/-- The members of an object are well formed one by one. -/
theorem wellFormedMembers_iff {members : List (String × Json)} :
    Json.WellFormedMembers members ↔ ∀ pair ∈ members, pair.2.WellFormed := by
  -- Both sides go through the members one by one.
  induction members with
  | nil => simp [Json.WellFormedMembers]
  | cons pair members ih => simp [Json.WellFormedMembers, ih]

/-- An object is well formed in either order of its members. -/
theorem object_wellFormed {lib : Libraries} {members : List (String × Json)}
    (formed : ∀ pair ∈ members, pair.2.WellFormed) : (lib.object members).WellFormed := by
  unfold Libraries.object
  split
  · exact wellFormedMembers_iff.mpr formed
  · -- Sorting keeps the members as they are.
    exact wellFormedMembers_iff.mpr fun pair member =>
      formed pair ((List.mem_insertionSort _).mp member)

/-- Every public JWK is well formed. -/
theorem publicJwk_wellFormed (lib : Libraries) (key : AccountKey) :
    (key.publicJwk lib).WellFormed := by
  unfold AccountKey.publicJwk
  split <;> exact object_wellFormed (by simp [Json.WellFormed])

/-- The header's key, if it embeds one, is well formed. -/
def ProtectedHeader.WellFormed (header : ProtectedHeader) : Prop :=
  ∀ jwk ∈ header.jwk, jwk.WellFormed

/-- A written header reads back field by field. -/
theorem readHeader_toVec {header : ProtectedHeader} (formed : header.WellFormed) :
    readHeader (toVec header.toJson) = some header := by
  obtain ⟨alg, jwk, kid, nonce, url⟩ := header
  have written : (ProtectedHeader.toJson { alg, jwk, kid, nonce, url }).WellFormed := by
    refine wellFormedMembers_iff.mpr ?_
    cases jwk <;> cases kid <;> simp_all [Json.WellFormed, ProtectedHeader.WellFormed]
  simp only [readHeader, readJson_toVec written, Option.bind_eq_bind, Option.bind_some]
  -- Each of the two optional members is either written or skipped.
  cases jwk <;> cases kid <;>
    simp [ProtectedHeader.toJson, textMember, Json.member, Json.text]

/-- A signing input reads back as its header and its payload. -/
theorem readSigningInput_signingInput {header : ProtectedHeader} (formed : header.WellFormed)
    (payload : Bytes) :
    readSigningInput (signingInput header payload) = some (header, payload) := by
  -- No segment contains a dot, so the first dot is the one that joins them.
  have plain : ∀ char ∈ Base64Url.encode (toVec header.toJson), (char ≠ '.') = True := by
    intro char member
    simp only [eq_iff_iff, iff_true]
    rintro rfl
    exact Base64Url.dot_not_mem_encode _ member
  have spelled : (signingInput header payload).toList
      = Base64Url.encode (toVec header.toJson) ++ '.' :: Base64Url.encode payload := by
    simp [signingInput, b64url]
  -- In front of it stands the header.
  have before : (signingInput header payload).toList.takeWhile (· ≠ '.')
      = Base64Url.encode (toVec header.toJson) := by
    rw [spelled, List.takeWhile_append_of_pos (by simpa using plain)]
    simp
  -- Behind it stands the payload.
  have behind : (signingInput header payload).toList.dropWhile (· ≠ '.')
      = '.' :: Base64Url.encode payload := by
    rw [spelled, List.dropWhile_append_of_pos (by simpa using plain)]
    simp
  simp only [readSigningInput, before, behind, Base64Url.decode_encode, readHeader_toVec formed,
    List.drop_succ_cons, List.drop_zero, Option.bind_eq_bind, Option.bind_some]

/-- The three segments are texts, so a flattened JWS is well formed. -/
theorem flattened_wellFormed (out : Flattened) : out.toJson.WellFormed :=
  wellFormedMembers_iff.mpr (by simp [Json.WellFormed])

/-- The text that a signed body names is the one that was signed. -/
theorem signedText_signJwsInner {lib : Libraries} {payload body : Bytes} {url nonce : String}
    {jwk : Option Json} {kid : Option String} {key : AccountKey}
    (signed : signJwsInner lib payload url nonce jwk kid key = .ok body) :
    signedText body = some (signingInput { alg := key.alg, jwk, kid, nonce, url } payload) := by
  simp only [signJwsInner] at signed
  split at signed
  · -- Without a signature there is no text.
    cases signed
  · obtain rfl := Except.ok.inj signed
    simp only [signedText, readJson_toVec (flattened_wellFormed _)]
    simp [Flattened.toJson, textMember, Json.member, Json.text, signingInput]

/-- A signed body reads back as its header, its payload and its signature. -/
theorem readJws_signJwsInner {lib : Libraries} {payload body : Bytes} {url nonce : String}
    {jwk : Option Json} {kid : Option String} {key : AccountKey}
    (formed : ∀ value ∈ jwk, value.WellFormed)
    (signed : signJwsInner lib payload url nonce jwk kid key = .ok body) :
    ∃ signature,
      lib.sign key (Utf8.bytes (signingInput { alg := key.alg, jwk, kid, nonce, url } payload))
        = some signature ∧
      readJws body = some
        { header := { alg := key.alg, jwk, kid, nonce, url }
          payloadSegment := b64url payload
          payload
          signature } := by
  simp only [signJwsInner] at signed
  split at signed
  · -- Without a signature there is no text.
    cases signed
  · rename_i signature made
    obtain rfl := Except.ok.inj signed
    refine ⟨signature, made, ?_⟩
    -- The first of the three texts encodes the header, which can be read back as well.
    have header : readHeader (toVec (ProtectedHeader.toJson
        { alg := key.alg, jwk, kid, nonce, url })) = some { alg := key.alg, jwk, kid, nonce, url } :=
      readHeader_toVec formed
    simp only [readJws, readJson_toVec (flattened_wellFormed _)]
    simp [Flattened.toJson, textMember, Json.member, Json.text,
      header]

end Acme
