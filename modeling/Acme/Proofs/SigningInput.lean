import Acme.Proofs.JwsReader
import Acme.Proofs.ScriptedAuthority

/-! The text a request signs determines the request. -/

namespace Acme

/-- How a request names the key it is signed with. -/
inductive KeyForm where
  | jwk
  | kid (kid : String)

/-- Everything one call of the signing functions is given. -/
structure SigningCall where
  payload : Bytes
  url : String
  nonce : String
  form : KeyForm
  key : AccountKey

namespace SigningCall

variable (lib : Libraries) (call : SigningCall)

/-- The key identifier that goes into the header: the public JWK, or the account's URL. -/
def identifier : Json ⊕ String :=
  match call.form with
  | .jwk => .inl (call.key.publicJwk lib)
  | .kid kid => .inr kid

/-- The header the call signs. -/
def header : ProtectedHeader :=
  { alg := call.key.alg
    jwk := (call.identifier lib).getLeft?
    kid := (call.identifier lib).getRight?
    nonce := call.nonce
    url := call.url }

/-- The signing function for the form of the call. -/
def sign : Except Stop Bytes :=
  match call.form with
  | .jwk => signJwsWithJwk lib call.payload call.url call.nonce call.key
  | .kid kid => signJwsWithKid lib call.payload call.url call.nonce kid call.key

/-- Both signing functions sign the text that the call's header and payload make. -/
theorem sign_eq :
    call.sign lib = signJwsInner lib call.payload call.url call.nonce
      (call.identifier lib).getLeft? (call.identifier lib).getRight? call.key := by
  unfold sign identifier
  split <;> rfl

/-- The header of a call is well formed. -/
theorem header_wellFormed : (call.header lib).WellFormed := by
  intro jwk member
  unfold header identifier at member
  -- A key is embedded only when there is no account to name.
  split at member
  · obtain rfl : call.key.publicJwk lib = jwk := by simpa using member
    exact publicJwk_wellFormed lib call.key
  · simp at member

/-- Equal headers name the key in the same way. -/
theorem identifier_injective {left right : SigningCall}
    (same : left.header lib = right.header lib) : left.identifier lib = right.identifier lib := by
  have jwk := congrArg ProtectedHeader.jwk same
  have kid := congrArg ProtectedHeader.kid same
  simp only [header] at jwk kid
  -- One of the two members is present on each side, and it is the same one.
  cases first : left.identifier lib <;> cases second : right.identifier lib <;>
    simp_all

end SigningCall

/-- What a signed request says, field by field. -/
structure Recovered (lib : Libraries) (call : SigningCall) (request : SignedRequest) : Prop where
  alg : request.header.alg = call.key.alg
  jwk : request.header.jwk = (call.identifier lib).getLeft?
  kid : request.header.kid = (call.identifier lib).getRight?
  exclusive : request.header.jwk.isSome = !request.header.kid.isSome
  nonce : request.header.nonce = call.nonce
  url : request.header.url = call.url
  payload : request.payload = call.payload
  emptySegment : request.payloadSegment = "" ↔ call.payload = []

/-- What a receiver makes of the body that a call gave out under a signature. -/
structure Delivered (lib : Libraries) (call : SigningCall) (signature body : Bytes) : Prop where
  text : signedText body = some (signingInput (call.header lib) call.payload)
  fields : ∃ request, readJws body = some request ∧ Recovered lib call request ∧
    request.signature = signature

/-- A body that a call gave out was signed by the library, and it is read back entirely. -/
theorem delivered_of_sign {lib : Libraries} {call : SigningCall} {body : Bytes}
    (signed : call.sign lib = .ok body) :
    ∃ signature,
      lib.sign call.key (Utf8.bytes (signingInput (call.header lib) call.payload))
        = some signature ∧ Delivered lib call signature body := by
  rw [call.sign_eq lib] at signed
  obtain ⟨signature, made, read⟩ := readJws_signJwsInner (call.header_wellFormed lib) signed
  refine ⟨signature, made, ?_, _, read, ⟨rfl, rfl, rfl, ?_, rfl, rfl, rfl, ?_⟩, rfl⟩
  · -- The first two members are the segments that were joined before they were signed.
    exact signedText_signJwsInner signed
  · change (call.identifier lib).getLeft?.isSome = !(call.identifier lib).getRight?.isSome
    cases call.identifier lib <;> rfl
  · simp [b64url, String.ext_iff]

/-- When the library signs the text of a call, the call gives out a body. -/
theorem sign_of_signature {lib : Libraries} {call : SigningCall} {signature : Bytes}
    (made : lib.sign call.key (Utf8.bytes (signingInput (call.header lib) call.payload))
      = some signature) :
    ∃ body, call.sign lib = .ok body := by
  -- The header that is signed is the one the call describes.
  have message : lib.sign call.key (Utf8.bytes (signingInput
      { alg := call.key.alg, jwk := (call.identifier lib).getLeft?,
        kid := (call.identifier lib).getRight?, nonce := call.nonce, url := call.url }
      call.payload)) = some signature := made
  rw [call.sign_eq lib]
  simp [signJwsInner, message]

/--
Equal signing inputs come from calls that agree in every field.
A call whose signing input the library signs gives out a body, and no other call does.
The body carries that signing input and its signature, and reading it gives every field back.
-/
theorem signing_input_determines_request (lib : Libraries) :
    (∀ left right : SigningCall,
      signingInput (left.header lib) left.payload = signingInput (right.header lib) right.payload →
        left.key.alg = right.key.alg ∧ left.identifier lib = right.identifier lib ∧
          left.nonce = right.nonce ∧ left.url = right.url ∧ left.payload = right.payload) ∧
    (∀ (call : SigningCall) (signature : Bytes),
      lib.sign call.key (Utf8.bytes (signingInput (call.header lib) call.payload))
        = some signature →
      ∃ body, call.sign lib = .ok body ∧ Delivered lib call signature body) ∧
    (∀ (call : SigningCall) (body : Bytes), call.sign lib = .ok body →
      ∃ signature,
        lib.sign call.key (Utf8.bytes (signingInput (call.header lib) call.payload))
          = some signature ∧ Delivered lib call signature body) := by
  refine ⟨fun left right same => ?_, fun call signature made => ?_,
    fun call body signed => delivered_of_sign signed⟩
  · -- Both sides read back as what they were made of.
    have read := congrArg readSigningInput same
    rw [readSigningInput_signingInput (left.header_wellFormed lib),
      readSigningInput_signingInput (right.header_wellFormed lib)] at read
    obtain ⟨header, payload⟩ := Prod.mk.inj (Option.some.inj read)
    exact ⟨congrArg ProtectedHeader.alg header, SigningCall.identifier_injective lib header,
      congrArg ProtectedHeader.nonce header, congrArg ProtectedHeader.url header, payload⟩
  · -- The body that is given out carries the one signature that the library made.
    obtain ⟨body, signed⟩ := sign_of_signature made
    obtain ⟨signature', made', delivered⟩ := delivered_of_sign signed
    obtain rfl : signature = signature' := by simpa [made] using made'
    exact ⟨body, signed, delivered⟩

/-- A call that embeds the key, with characters that JSON escapes in its address. -/
def jwkCall : SigningCall where
  payload := Utf8.bytes "\x7b\x7d"
  url := "ca/\"new\"\\account"
  nonce := "n0"
  form := .jwk
  key := sampleKey

/-- A call that names the account, with nothing to send. -/
def kidCall : SigningCall where
  payload := []
  url := "ca/authz/1"
  nonce := "n1"
  form := .kid "ca/acct/1"
  key := sampleKey

/-- Both forms give out a body that is read back, and their signing inputs are not the same. -/
theorem signing_input_determines_request_samples :
    (∃ body, jwkCall.sign sampleLibraries = .ok body ∧
      Delivered sampleLibraries jwkCall (List.replicate 64 0) body) ∧
    (∃ body, kidCall.sign sampleLibraries = .ok body ∧
      Delivered sampleLibraries kidCall (List.replicate 64 0) body) ∧
    signingInput (jwkCall.header sampleLibraries) jwkCall.payload
      ≠ signingInput (kidCall.header sampleLibraries) kidCall.payload := by
  obtain ⟨determined, given, -⟩ := signing_input_determines_request sampleLibraries
  refine ⟨given jwkCall _ rfl, given kidCall _ rfl, fun same => ?_⟩
  -- Equal inputs would carry equal nonces.
  obtain ⟨-, -, nonce, -⟩ := determined jwkCall kidCall same
  exact absurd nonce (by decide)

end Acme
