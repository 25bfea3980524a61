import Acme.Proofs.ScriptedAuthority
import Mathlib.Data.Set.Insert

/-! The names that a certificate request asks for, against the identifiers of its order. -/

namespace Acme

/-- The common name that the library puts into parameters nobody gave a subject. -/
def defaultCommonName : String := "rcgen self signed cert"

/-- A string that parses as an IP address becomes that address, and any other one a DNS name. -/
def classify (parseIp : String → Option Bytes) (name : String) : SanType :=
  match parseIp name with
  | some octets => .ipAddress octets
  | none => .dnsName name

/-- What is documented about building certificate parameters and writing certificate requests. -/
structure Rcgen (lib : Libraries) (parseIp : String → Option Bytes)
    (requested : Bytes → Option CertificateParams) : Prop where
  /-- Every name is classified, and the subject is the default one. -/
  params : ∀ names params, lib.certificateParamsNew names = .ok params →
    params = { commonName := some defaultCommonName
               subjectAltNames := names.map (classify parseIp) }
  /-- Both the subject and the alternative names can be read from a request. -/
  written : ∀ params key csrDer, lib.serializeRequest params key = .ok csrDer →
    requested csrDer = some params

/-- The names that a request asks for: its common name, and its alternative names. -/
def requestedNames (requested : Bytes → Option CertificateParams) (csrDer : Bytes) :
    Set SanType :=
  { name | ∃ params, requested csrDer = some params ∧
    (params.commonName.map SanType.dnsName = some name ∨ name ∈ params.subjectAltNames) }

/-- The DNS names of an order's identifiers. -/
def orderNames (identifiers : List Identifier) : Set SanType :=
  { name | ∃ identifier ∈ identifiers, name = .dnsName identifier.value }

variable {lib : Libraries} {parseIp : String → Option Bytes}
  {requested : Bytes → Option CertificateParams} {identifiers : List Identifier}

/-- The names that are handed to the library are the values of the identifiers. -/
theorem Csr.dnsNames_ok {names : List String}
    (checked : Csr.dnsNames identifiers = .ok names) : names = identifiers.map Identifier.value := by
  induction identifiers generalizing names with
  | nil => exact (Except.ok.inj checked).symm
  | cons identifier rest ih =>
    unfold dnsNames at checked
    split at checked
    · -- The identifier is a DNS name, so the others were checked as well.
      obtain ⟨later, remaining, joined⟩ := bind_eq_ok.mp checked
      obtain rfl := Except.ok.inj joined
      rw [ih remaining, List.map_cons]
    · cases checked

/-- A built request carries the default subject and the classified values. -/
theorem Csr.buildCsr_ok (rcgen : Rcgen lib parseIp requested) {privateKey : CertificateKey}
    {csrDer : Bytes} (built : Csr.buildCsr lib privateKey identifiers = .ok csrDer) :
    requested csrDer = some
      { commonName := some defaultCommonName
        subjectAltNames := (identifiers.map Identifier.value).map (classify parseIp) } := by
  unfold buildCsr at built
  split at built
  · cases built
  · -- The names were checked, the parameters filled, and the request was written.
    obtain ⟨names, checked, built⟩ := bind_eq_ok.mp built
    obtain ⟨params, filled, written⟩ := bind_eq_ok.mp built
    rw [mapError_eq_ok] at filled written
    rw [rcgen.written _ _ _ written, rcgen.params _ _ filled, dnsNames_ok checked]

/-- A built request asks for the default common name and the classified values. -/
theorem mem_requestedNames (rcgen : Rcgen lib parseIp requested) {privateKey : CertificateKey}
    {csrDer : Bytes} (built : Csr.buildCsr lib privateKey identifiers = .ok csrDer)
    {name : SanType} :
    name ∈ requestedNames requested csrDer ↔ name = .dnsName defaultCommonName ∨
      ∃ identifier ∈ identifiers, name = classify parseIp identifier.value := by
  -- What is read from the request are the parameters it was built with.
  have read := Csr.buildCsr_ok rcgen built
  constructor
  · -- A name that is listed is the subject or one of the alternative names.
    rintro ⟨params, found, listed⟩
    obtain rfl := Option.some.inj (read.symm.trans found)
    rcases listed with subject | alternative
    · exact .inl (Option.some.inj subject).symm
    · obtain ⟨value, known, rfl⟩ := List.mem_map.mp alternative
      obtain ⟨identifier, member, rfl⟩ := List.mem_map.mp known
      exact .inr ⟨identifier, member, rfl⟩
  · -- Each of the two is found where it was written.
    intro asked
    refine ⟨_, read, ?_⟩
    rcases asked with rfl | ⟨identifier, member, rfl⟩
    · exact .inl rfl
    · exact .inr (List.mem_map_of_mem (List.mem_map_of_mem member))

/-- A classified name is a DNS name exactly when it parses as no address. -/
theorem classify_eq_dnsName {name other : String} :
    classify parseIp name = .dnsName other ↔ parseIp name = none ∧ name = other := by
  unfold classify
  cases parsed : parseIp name <;> simp

/--
The names that a request asks for are exactly the DNS names of the identifiers in one case only:
one of the identifiers happens to be the default common name, and none of them parses as an
IP address.
-/
theorem csr_names_exact_iff {lib : Libraries} {parseIp : String → Option Bytes}
    {requested : Bytes → Option CertificateParams} (rcgen : Rcgen lib parseIp requested)
    {privateKey : CertificateKey} {identifiers : List Identifier} {csrDer : Bytes}
    (built : Csr.buildCsr lib privateKey identifiers = .ok csrDer) :
    requestedNames requested csrDer = orderNames identifiers ↔
      (∃ identifier ∈ identifiers, identifier.value = defaultCommonName) ∧
        ∀ identifier ∈ identifiers, parseIp identifier.value = none := by
  have asked : ∀ name, name ∈ requestedNames requested csrDer ↔ _ :=
    fun name => mem_requestedNames rcgen built
  constructor
  · intro precise
    constructor
    · -- The default common name is asked for, so it must come from an identifier.
      have subject : SanType.dnsName defaultCommonName ∈ orderNames identifiers :=
        precise ▸ (asked _).mpr (.inl rfl)
      obtain ⟨identifier, member, same⟩ := subject
      exact ⟨identifier, member, (SanType.dnsName.inj same).symm⟩
    · -- Every classified value is asked for, so it must be a DNS name.
      intro identifier member
      have listed : classify parseIp identifier.value ∈ orderNames identifiers :=
        precise ▸ (asked _).mpr (.inr ⟨identifier, member, rfl⟩)
      obtain ⟨other, _, same⟩ := listed
      exact (classify_eq_dnsName.mp same).1
  · -- Conversely, every identifier stands as a name, and one of them is the default name.
    rintro ⟨⟨subject, present, same⟩, unparsed⟩
    -- No value is taken for an address, so each of them is a DNS name.
    have plain : ∀ identifier ∈ identifiers,
        classify parseIp identifier.value = .dnsName identifier.value :=
      fun identifier member => classify_eq_dnsName.mpr ⟨unparsed identifier member, rfl⟩
    ext name
    rw [asked]
    constructor
    · -- The default name belongs to an identifier, and the others were made from them.
      rintro (rfl | ⟨identifier, member, rfl⟩)
      · exact ⟨subject, present, by rw [same]⟩
      · exact ⟨identifier, member, plain identifier member⟩
    · rintro ⟨identifier, member, rfl⟩
      exact .inr ⟨identifier, member, (plain identifier member).symm⟩

/-- Identifiers of which one is a name and the other an address. -/
def mixedIdentifiers : List Identifier :=
  [Identifier.dns "a.example", Identifier.dns "192.0.2.1"]

/-- The parameters that the library makes of them. -/
def mixedParams : CertificateParams where
  commonName := some defaultCommonName
  subjectAltNames := [.dnsName "a.example", .ipAddress [192, 0, 2, 1]]

/-- Addresses, as far as these identifiers contain them. -/
def mixedParseIp (name : String) : Option Bytes :=
  if name = "192.0.2.1" then some [192, 0, 2, 1] else none

/-- The bytes of a request for these parameters, written as their text. -/
def mixedRequest : Bytes :=
  Utf8.bytes "CN=rcgen self signed cert, DNS:a.example, IP:192.0.2.1"

/-- What such a request asks for. -/
def mixedRequested (csrDer : Bytes) : Option CertificateParams :=
  if csrDer = mixedRequest then some mixedParams else none

/-- Libraries that build this one request. -/
def mixedLibraries : Libraries :=
  { sampleLibraries with
    certificateParamsNew := fun names => .ok
      { commonName := some defaultCommonName
        subjectAltNames := names.map (classify mixedParseIp) }
    serializeRequest := fun params _ =>
      if params = mixedParams then .ok mixedRequest else .error "unsupported" }

/-- These libraries do what is documented. -/
theorem mixedLibraries_rcgen : Rcgen mixedLibraries mixedParseIp mixedRequested where
  params names params filled := (Except.ok.inj filled).symm
  written params key csrDer written := by
    -- The only request that is written is the one that can be read.
    by_cases known : params = mixedParams
    · have bytes : mixedLibraries.serializeRequest params key = .ok mixedRequest := if_pos known
      obtain rfl := Except.ok.inj (bytes.symm.trans written)
      rw [known]
      exact if_pos rfl
    · have refused : mixedLibraries.serializeRequest params key = .error "unsupported" :=
        if_neg known
      cases refused.symm.trans written

/-- For these identifiers, the request is built. -/
theorem mixed_built :
    Csr.buildCsr mixedLibraries sampleRequest.certKey mixedIdentifiers = .ok mixedRequest := by
  decide +kernel

/-- The built request asks for the default common name and for an address, which nobody ordered. -/
theorem csr_names_differ :
    Rcgen mixedLibraries mixedParseIp mixedRequested ∧
    Csr.buildCsr mixedLibraries sampleRequest.certKey mixedIdentifiers = .ok mixedRequest ∧
    SanType.dnsName defaultCommonName ∈ requestedNames mixedRequested mixedRequest ∧
    SanType.ipAddress [192, 0, 2, 1] ∈ requestedNames mixedRequested mixedRequest ∧
    requestedNames mixedRequested mixedRequest ≠ orderNames mixedIdentifiers := by
  have read : mixedRequested mixedRequest = some mixedParams := if_pos rfl
  refine ⟨mixedLibraries_rcgen, mixed_built, ⟨_, read, .inl rfl⟩, ⟨_, read, .inr (by decide)⟩,
    fun same => ?_⟩
  -- An address is never the DNS name of an identifier.
  have address : SanType.ipAddress [192, 0, 2, 1] ∈ orderNames mixedIdentifiers :=
    same ▸ ⟨_, read, .inr (by decide)⟩
  obtain ⟨identifier, _, impossible⟩ := address
  cases impossible

/-- For these identifiers, the names differ because the condition fails. -/
theorem csr_names_exact_iff_sample :
    requestedNames mixedRequested mixedRequest = orderNames mixedIdentifiers ↔
      (∃ identifier ∈ mixedIdentifiers, identifier.value = defaultCommonName) ∧
        ∀ identifier ∈ mixedIdentifiers, mixedParseIp identifier.value = none :=
  csr_names_exact_iff mixedLibraries_rcgen mixed_built

end Acme
