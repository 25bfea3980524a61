import Acme.Encoding.PlainJson
import Acme.Proofs.KeyAuthorization
import Mathlib.Data.String.Basic

/-! What is hashed for a thumbprint: the canonical text of the public key. -/

namespace Acme

/-- The members that RFC 7638 requires of each type of key, with their values. -/
def requiredMembers : PublicKey → List (String × String)
  | .rsa n e => [("kty", "RSA"), ("n", b64url (toBytesBe n)), ("e", b64url (toBytesBe e))]
  | .p256 x y => [("kty", "EC"), ("crv", "P-256"), ("x", b64url x), ("y", b64url y)]
  | .p384 x y => [("kty", "EC"), ("crv", "P-384"), ("x", b64url x), ("y", b64url y)]
  | .ed25519 verifying => [("kty", "OKP"), ("crv", "Ed25519"), ("x", b64url verifying)]

/-- The canonical text of a public key. -/
structure CanonicalJwk (key : PublicKey) (text : List Char) : Prop where
  /-- It is an object of the required members, in the order of their names, without escapes. -/
  members : ∃ members, members.Perm (requiredMembers key) ∧
    (members.Pairwise fun first second => first.1 < second.1) ∧
    (∀ member ∈ members, ∀ char ∈ member.2.toList, Json.Plain char) ∧
    text = Json.plainObject members
  /-- There is no white space in it. -/
  compact : ∀ char ∈ text, Json.isSpace char = false

/-- The members as the client writes them. -/
def writtenMembers : PublicKey → List (String × String)
  | .rsa n e => [("e", b64url (toBytesBe e)), ("kty", "RSA"), ("n", b64url (toBytesBe n))]
  | .p256 x y => [("crv", "P-256"), ("kty", "EC"), ("x", b64url x), ("y", b64url y)]
  | .p384 x y => [("crv", "P-384"), ("kty", "EC"), ("x", b64url x), ("y", b64url y)]
  | .ed25519 verifying => [("crv", "Ed25519"), ("kty", "OKP"), ("x", b64url verifying)]

/-- A JWK holds these members, whichever order the map keeps. -/
theorem publicJwk_eq (lib : Libraries) (key : AccountKey) :
    key.publicJwk lib = .obj (Json.ofStrings (writtenMembers key.publicKey)) := by
  -- The members of all four kinds are written in order.
  rcases key with sk | (sk | sk) | sk
  all_goals
    simp only [AccountKey.publicJwk]
    rw [object_of_sorted lib (by simp)]
    rfl

/-- The client writes the required members. -/
theorem written_required (key : PublicKey) : (writtenMembers key).Perm (requiredMembers key) := by
  cases key with
  | rsa n e =>
    -- The exponent comes first instead of last.
    exact (List.perm_append_comm : ([("e", _)] ++ [("kty", _), ("n", _)]).Perm _)
  | p256 x y | p384 x y | ed25519 verifying => exact List.Perm.swap _ _ _

/-- It writes them in the order of their names. -/
theorem written_sorted (key : PublicKey) :
    (writtenMembers key).Pairwise fun first second => first.1 < second.1 := by
  -- Only the names are compared, and they are fixed for each type of key.
  have names : ((writtenMembers key).map Prod.fst).Pairwise fun first second => first < second := by
    cases key with
    | rsa n e =>
      have three : ["e", "kty", "n"].Pairwise fun first second => first < second := by
        decide +kernel
      exact three
    -- A key on a curve of NIST has four members, and the others have three.
    | p256 x y | p384 x y =>
      have four : ["crv", "kty", "x", "y"].Pairwise fun first second => first < second := by
        decide +kernel
      exact four
    | ed25519 verifying =>
      have three : ["crv", "kty", "x"].Pairwise fun first second => first < second := by
        decide +kernel
      exact three
  exact List.pairwise_map.mp names

/-- A character that needs no escape and is no white space. -/
def Unadorned (char : Char) : Prop :=
  Json.Plain char ∧ Json.isSpace char = false

instance (char : Char) : Decidable (Unadorned char) :=
  inferInstanceAs (Decidable (Json.Plain char ∧ Json.isSpace char = false))

/-- The digits of base64url need no escape. -/
theorem unadorned_b64url (bytes : Bytes) : ∀ char ∈ (b64url bytes).toList, Unadorned char := by
  intro char member
  rw [b64url, String.toList_ofList] at member
  -- The digits are looked through one by one.
  have table : (Base64Url.alphabet.all fun digit => decide (Unadorned digit)) = true := by
    decide +kernel
  exact of_decide_eq_true (List.all_eq_true.mp table char (Base64Url.encode_mem member))

/-- The names and the values that the client writes need no escape. -/
theorem written_unadorned (key : PublicKey) : ∀ member ∈ writtenMembers key,
    (∀ char ∈ member.1.toList, Unadorned char) ∧ ∀ char ∈ member.2.toList, Unadorned char := by
  -- The names and the words are fixed, and the other values are in base64url.
  have fixed : (["e", "kty", "n", "crv", "x", "y", "RSA", "EC", "OKP", "P-256", "P-384",
      "Ed25519"].all fun text => text.toList.all fun char => decide (Unadorned char)) = true := by
    decide +kernel
  have word : ∀ text, text ∈ ["e", "kty", "n", "crv", "x", "y", "RSA", "EC", "OKP", "P-256",
      "P-384", "Ed25519"] → ∀ char ∈ text.toList, Unadorned char := fun text listed char inside =>
    of_decide_eq_true (List.all_eq_true.mp (List.all_eq_true.mp fixed text listed) char inside)
  cases key with
  -- A key for RSA has two numbers, and one for a curve has its points.
  | rsa n e =>
    simp only [writtenMembers, List.forall_mem_cons]
    exact ⟨⟨word _ (by simp), unadorned_b64url _⟩, ⟨word _ (by simp), word _ (by simp)⟩,
      ⟨word _ (by simp), unadorned_b64url _⟩, by simp⟩
  | p256 x y | p384 x y =>
    simp only [writtenMembers, List.forall_mem_cons]
    exact ⟨⟨word _ (by simp), word _ (by simp)⟩, ⟨word _ (by simp), word _ (by simp)⟩,
      ⟨word _ (by simp), unadorned_b64url _⟩, ⟨word _ (by simp), unadorned_b64url _⟩, by simp⟩
  | ed25519 verifying =>
    simp only [writtenMembers, List.forall_mem_cons]
    exact ⟨⟨word _ (by simp), word _ (by simp)⟩, ⟨word _ (by simp), word _ (by simp)⟩,
      ⟨word _ (by simp), unadorned_b64url _⟩, by simp⟩

/-- The text of the written members is canonical. -/
theorem canonical_written (key : PublicKey) :
    CanonicalJwk key (Json.plainObject (writtenMembers key)) where
  members := ⟨writtenMembers key, written_required key, written_sorted key,
    fun member listed char inside => ((written_unadorned key member listed).2 char inside).1, rfl⟩
  compact char inside := by
    -- Punctuation is no white space, and neither is anything in the names and values.
    rcases Json.mem_plainObject inside with mark | ⟨entry, listed, name | value⟩
    · have table : (Json.punctuation.all fun mark => !Json.isSpace mark) = true := by decide
      simpa using List.all_eq_true.mp table char mark
    · exact ((written_unadorned key entry listed).1 char name).2
    · exact ((written_unadorned key entry listed).2 char value).2

/-- A thumbprint is the digest of the canonical text of the public key, which is the same
whichever order the map of the JSON library keeps. -/
theorem thumbprint_canonical (key : AccountKey) :
    ∃ text, CanonicalJwk key.publicKey text ∧ ∀ lib : Libraries,
      toVec (key.publicJwk lib) = Utf8.bytes (String.ofList text) ∧
      key.jwkThumbprint lib = b64url (lib.sha256 (Utf8.bytes (String.ofList text))) := by
  refine ⟨_, canonical_written key.publicKey, fun lib => ?_⟩
  -- Nothing in it has to be escaped.
  have plain : ∀ member ∈ writtenMembers key.publicKey,
      (∀ char ∈ member.1.toList, Json.Plain char) ∧
        ∀ char ∈ member.2.toList, Json.Plain char := by
    intro member listed
    obtain ⟨name, value⟩ := written_unadorned key.publicKey member listed
    exact ⟨fun char inside => (name char inside).1, fun char inside => (value char inside).1⟩
  -- So the text is written as it stands.
  have text : toVec (key.publicJwk lib) =
      Utf8.bytes (String.ofList (Json.plainObject (writtenMembers key.publicKey))) := by
    rw [toVec, publicJwk_eq, Json.render_plain plain]
  refine ⟨text, ?_⟩
  rw [AccountKey.jwkThumbprint, jwkThumbprint, text]

end Acme
