import Acme.Core.Challenge
import Acme.Proofs.JwsReader
import Acme.Proofs.ScriptedAuthority
import Acme.Encoding.Split

/-! A key authorization determines its token and its account key. -/

namespace Acme

/-- The public half of an account key. -/
inductive PublicKey where
  | rsa (n e : Nat)
  | p256 (x y : Bytes)
  | p384 (x y : Bytes)
  | ed25519 (verifying : Bytes)
deriving DecidableEq

/-- The public half of a key. -/
def AccountKey.publicKey : AccountKey → PublicKey
  | .rsa sk => .rsa sk.n sk.e
  | .ecdsa (.p256 sk) => .p256 sk.x sk.y
  | .ecdsa (.p384 sk) => .p384 sk.x sk.y
  | .ed25519 sk => .ed25519 sk.verifying

/-- The number with given base-256 digits, most significant first. -/
def ofBytesBe (bytes : Bytes) : Nat :=
  bytes.foldl (fun value byte => value * 256 + byte.toNat) 0

/-- One more digit. -/
theorem ofBytesBe_append (bytes : Bytes) (byte : UInt8) :
    ofBytesBe (bytes ++ [byte]) = ofBytesBe bytes * 256 + byte.toNat := by
  rw [ofBytesBe, List.foldl_append, List.foldl_cons, List.foldl_nil, ofBytesBe]

/-- Enough digits are all digits. -/
theorem ofBytesBe_bigEndian {fuel value : Nat} (enough : value ≤ fuel) :
    ofBytesBe (bigEndian fuel value) = value := by
  -- By induction on the fuel: the quotient is smaller, and the remainder is the last digit.
  induction fuel generalizing value with
  | zero =>
    have zero : value = 0 := by omega
    rw [zero]
    rfl
  | succ fuel ih =>
    rw [bigEndian]
    -- The number zero has no digits.
    by_cases zero : value = 0
    · rw [if_pos zero, zero]
      rfl
    · have less : value / 256 ≤ fuel := by omega
      rw [if_neg zero, ofBytesBe_append, ih less, UInt8.toNat_ofNat']
      omega

/-- Minimal big-endian bytes give the number back. -/
@[simp] theorem ofBytesBe_toBytesBe (value : Nat) : ofBytesBe (toBytesBe value) = value := by
  -- Zero is written as one byte, and every other number by its digits.
  unfold toBytesBe
  split
  · rename_i zero
    rw [zero]
    rfl
  · exact ofBytesBe_bigEndian (Nat.le_refl value)

/-- Members that are in order stay as they are, whichever order the map keeps. -/
theorem object_of_sorted (lib : Libraries) {members : List (String × Json)}
    (sorted : members.Pairwise fun a b => a.1 ≤ b.1) : lib.object members = .obj members := by
  -- Sorting does not move what is sorted already.
  unfold Libraries.object
  split
  · rfl
  · rw [List.Pairwise.insertionSort_eq sorted]

/-- Read a member as bytes. -/
def bytesMember (name : String) (jwk : Json) : Option Bytes :=
  (textMember name jwk).bind readB64url

/-- Read a public key from its JWK. -/
def readPublicKey (jwk : Json) : Option PublicKey := do
  let kty ← textMember "kty" jwk
  if kty = "RSA" then
    let n ← bytesMember "n" jwk
    let e ← bytesMember "e" jwk
    some (.rsa (ofBytesBe n) (ofBytesBe e))
  else
    let x ← bytesMember "x" jwk
    let crv ← textMember "crv" jwk
    if crv = "Ed25519" then some (.ed25519 x)
    else
      let y ← bytesMember "y" jwk
      if crv = "P-256" then some (.p256 x y) else some (.p384 x y)

/-- The JWK of a key is read as the key's public half. -/
theorem readPublicKey_publicJwk (lib : Libraries) (key : AccountKey) :
    readPublicKey (key.publicJwk lib) = some key.publicKey := by
  -- One case for each kind of key; the members of all four kinds are written in order.
  rcases key with sk | (sk | sk) | sk
  all_goals
    simp only [AccountKey.publicJwk]
    rw [object_of_sorted lib (by simp)]
    simp [readPublicKey, bytesMember, textMember, Json.member, Json.text, AccountKey.publicKey]

/-- Keys with one JWK text have one public half. -/
theorem publicKey_of_jwk {lib : Libraries} {key other : AccountKey}
    (same : toVec (key.publicJwk lib) = toVec (other.publicJwk lib)) :
    key.publicKey = other.publicKey := by
  -- The text reads back as the JWK, and the JWK as the public half.
  have read := readJson_toVec (publicJwk_wellFormed lib key)
  rw [same, readJson_toVec (publicJwk_wellFormed lib other)] at read
  have known := readPublicKey_publicJwk lib key
  rw [← Option.some.inj read, readPublicKey_publicJwk] at known
  exact (Option.some.inj known).symm

/-- The digest does not confuse two byte strings. -/
def NoCollision (lib : Libraries) (first second : Bytes) : Prop :=
  lib.sha256 first = lib.sha256 second → first = second

/-- Equal texts of digests that are not confused come from one byte string. -/
theorem NoCollision.of_b64url {lib : Libraries} {first second : Bytes}
    (clear : NoCollision lib first second)
    (same : b64url (lib.sha256 first) = b64url (lib.sha256 second)) : first = second := by
  -- The encoding of a digest can be undone.
  have read := congrArg readB64url same
  rw [readB64url_b64url, readB64url_b64url] at read
  exact clear (Subtype.ext (Option.some.inj read))

/-- A thumbprint has no dot. -/
theorem dot_not_mem_thumbprint (lib : Libraries) (key : AccountKey) :
    '.' ∉ (key.jwkThumbprint lib).toList := by
  rw [AccountKey.jwkThumbprint, jwkThumbprint, b64url, String.toList_ofList]
  -- A dot is no digit of base64url.
  exact Base64Url.dot_not_mem_encode _

/-- A key authorization ends in its thumbprint, behind its last dot. -/
theorem computeKeyAuthorization_inj {lib : Libraries} {token other : String}
    {key owner : AccountKey}
    (same : computeKeyAuthorization lib token key = computeKeyAuthorization lib other owner) :
    token = other ∧ key.jwkThumbprint lib = owner.jwkThumbprint lib := by
  have chars := congrArg (fun text => text.toList.reverse) same
  simp only [computeKeyAuthorization, String.toList_append, List.reverse_append] at chars
  -- Read from the end, the thumbprint stops at the first dot.
  have split := Split.append_cons_inj
    (fun member => dot_not_mem_thumbprint lib key (List.mem_reverse.mp member))
    (fun member => dot_not_mem_thumbprint lib owner (List.mem_reverse.mp member)) chars
  exact ⟨String.toList_inj.mp (List.reverse_inj.mp split.2),
    String.toList_inj.mp (List.reverse_inj.mp split.1)⟩

/-- A key authorization, and its digest, belong to one token and one public key. -/
theorem key_authorization_binds {lib : Libraries} {token other : String} {key owner : AccountKey}
    (thumbprints : NoCollision lib (toVec (key.publicJwk lib)) (toVec (owner.publicJwk lib))) :
    (computeKeyAuthorization lib token key = computeKeyAuthorization lib other owner →
      token = other ∧ key.publicKey = owner.publicKey) ∧
    (NoCollision lib (Utf8.bytes (computeKeyAuthorization lib token key))
        (Utf8.bytes (computeKeyAuthorization lib other owner)) →
      sha256KeyAuthorization lib token key = sha256KeyAuthorization lib other owner →
        token = other ∧ key.publicKey = owner.publicKey) := by
  have plain : computeKeyAuthorization lib token key = computeKeyAuthorization lib other owner →
      token = other ∧ key.publicKey = owner.publicKey := by
    intro same
    obtain ⟨tokens, prints⟩ := computeKeyAuthorization_inj same
    exact ⟨tokens, publicKey_of_jwk (thumbprints.of_b64url prints)⟩
  refine ⟨plain, ?_⟩
  intro clear same
  -- Equal digests come from equal key authorizations.
  have texts := congrArg Utf8.text (clear.of_b64url same)
  rw [Utf8.text_bytes, Utf8.text_bytes] at texts
  exact plain (Option.some.inj texts)

/-- A digest of 32 bytes. -/
abbrev Digest := { digest : Bytes // digest.length = 32 }

/-- An Ed25519 key for concrete runs. -/
def firstKey : AccountKey :=
  .ed25519 { secret := 1, verifying :=
    ⟨[215, 90, 152, 1, 130, 177, 10, 183, 213, 75, 254, 211, 201, 100, 7, 58, 14, 225, 114, 243,
      218, 166, 35, 37, 175, 2, 26, 104, 247, 7, 81, 26], by decide⟩ }

/-- Another Ed25519 key for concrete runs. -/
def secondKey : AccountKey :=
  .ed25519 { secret := 2, verifying :=
    ⟨[61, 64, 23, 195, 232, 67, 137, 90, 146, 183, 10, 167, 77, 27, 126, 188, 156, 152, 44, 207,
      46, 196, 150, 140, 192, 205, 85, 241, 42, 244, 102, 12], by decide⟩ }

/-- The digests of the texts that occur for the two keys and one token. -/
def knownDigests : List (String × Digest) :=
  [("\x7b\"crv\":\"Ed25519\",\"kty\":\"OKP\",\"x\":\"11qYAYKxCrfVS_7TyWQHOg7hcvPapiMlrwIaaPcHURo\"\x7d",
      ⟨[144, 250, 202, 254, 169, 177, 85, 102, 152, 84, 15, 112, 192, 17, 122, 34, 234, 55, 189,
        92, 243, 237, 60, 71, 9, 60, 23, 7, 40, 43, 75, 137], by decide⟩),
    ("\x7b\"crv\":\"Ed25519\",\"kty\":\"OKP\",\"x\":\"PUAXw-hDiVqStwqnTRt-vJyYLM8uxJaMwM1V8Sr0Zgw\"\x7d",
      ⟨[22, 210, 46, 249, 86, 198, 173, 247, 191, 40, 30, 130, 31, 177, 141, 192, 224, 193, 239,
        99, 13, 198, 63, 230, 151, 93, 93, 18, 243, 190, 238, 73], by decide⟩),
    ("tok-1.kPrK_qmxVWaYVA9wwBF6Iuo3vVzz7TxHCTwXBygrS4k",
      ⟨[222, 12, 128, 90, 121, 220, 94, 172, 181, 177, 7, 107, 153, 253, 90, 126, 104, 149, 61,
        38, 199, 92, 153, 221, 188, 53, 76, 98, 95, 232, 152, 233], by decide⟩),
    ("tok-1.FtIu-VbGrfe_KB6CH7GNwODB72MNxj_ml11dEvO-7kk",
      ⟨[151, 108, 41, 65, 190, 147, 210, 127, 171, 56, 85, 247, 97, 45, 83, 105, 31, 206, 133, 24,
        81, 251, 166, 227, 133, 52, 35, 155, 191, 134, 195, 6], by decide⟩)]

/-- Libraries that know these digests. -/
def digestLibraries : Libraries :=
  { sampleLibraries with
    mapOrder := .insertion
    sha256 := fun bytes =>
      match knownDigests.find? fun entry => Utf8.bytes entry.1 = bytes with
      | some entry => entry.2
      | none => sampleLibraries.sha256 bytes }

/-- The texts of the two keys have different digests. -/
theorem sample_thumbprints : NoCollision digestLibraries
    (toVec (firstKey.publicJwk digestLibraries)) (toVec (secondKey.publicJwk digestLibraries)) := by
  -- The two digests are in the table.
  intro same
  have differ : digestLibraries.sha256 (toVec (firstKey.publicJwk digestLibraries)) ≠
      digestLibraries.sha256 (toVec (secondKey.publicJwk digestLibraries)) := by
    decide +kernel
  exact absurd same differ

/-- The response for the first key. -/
theorem first_authorization : computeKeyAuthorization digestLibraries "tok-1" firstKey =
    "tok-1.kPrK_qmxVWaYVA9wwBF6Iuo3vVzz7TxHCTwXBygrS4k" := by decide +kernel

/-- The response for the second key. -/
theorem second_authorization : computeKeyAuthorization digestLibraries "tok-1" secondKey =
    "tok-1.FtIu-VbGrfe_KB6CH7GNwODB72MNxj_ml11dEvO-7kk" := by decide +kernel

/-- The key authorizations of the two keys have different digests. -/
theorem sample_authorizations : NoCollision digestLibraries
    (Utf8.bytes (computeKeyAuthorization digestLibraries "tok-1" firstKey))
    (Utf8.bytes (computeKeyAuthorization digestLibraries "tok-1" secondKey)) := by
  -- The two digests are in the table.
  rw [first_authorization, second_authorization]
  intro same
  have differ : digestLibraries.sha256 (Utf8.bytes
      "tok-1.kPrK_qmxVWaYVA9wwBF6Iuo3vVzz7TxHCTwXBygrS4k") ≠ digestLibraries.sha256 (Utf8.bytes
      "tok-1.FtIu-VbGrfe_KB6CH7GNwODB72MNxj_ml11dEvO-7kk") := by
    decide +kernel
  exact absurd same differ

/-- A response for one key does not serve another key with the same token. -/
theorem key_authorization_binds_sample :
    computeKeyAuthorization digestLibraries "tok-1" firstKey =
        "tok-1.kPrK_qmxVWaYVA9wwBF6Iuo3vVzz7TxHCTwXBygrS4k" ∧
      computeKeyAuthorization digestLibraries "tok-1" firstKey ≠
        computeKeyAuthorization digestLibraries "tok-1" secondKey ∧
      sha256KeyAuthorization digestLibraries "tok-1" firstKey ≠
        sha256KeyAuthorization digestLibraries "tok-1" secondKey := by
  -- The keys differ, and so do the digests that matter.
  have differ : firstKey.publicKey ≠ secondKey.publicKey := by decide
  refine ⟨first_authorization, ?_, ?_⟩
  · intro same
    exact differ ((key_authorization_binds sample_thumbprints).1 same).2
  · intro same
    exact differ ((key_authorization_binds sample_thumbprints).2 sample_authorizations same).2

end Acme
