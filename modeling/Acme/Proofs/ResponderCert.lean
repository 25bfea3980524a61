import Acme.Core.TlsAlpn01
import Acme.Proofs.CsrNames

/-! Which identifiers get a certificate for their challenge, and which make the build panic. -/

namespace Acme.TlsAlpn01

/-- What a certificate shows to a reader. -/
structure Leaf where
  subjectAltNames : List SanType
  extensions : List CustomExtension
deriving DecidableEq

/-- All characters are ASCII, as an `IA5String` needs. -/
def isIa5 (text : String) : Bool :=
  text.toList.all fun char => char.toNat < 128

/-- What is documented about certificate parameters and certificates. -/
structure RcgenLeaf (lib : Libraries) (builder : CertBuilder) (parseIp : String → Option Bytes)
    (certified : Bytes → Option Leaf) : Prop where
  /-- A name that is an address or ASCII is classified, and the subject is the default one. -/
  classified : ∀ name, (parseIp name).isSome ∨ isIa5 name = true →
    lib.certificateParamsNew [name] = .ok
      { commonName := some defaultCommonName, subjectAltNames := [classify parseIp name] }
  /-- Any other name is refused. -/
  refused : ∀ name, parseIp name = none → isIa5 name = false →
    ∃ failure, lib.certificateParamsNew [name] = .error failure
  /-- The alternative names and the extensions can be read from a certificate. -/
  written : ∀ params key certDer, builder.selfSigned params key = .ok certDer →
    certified certDer = some
      { subjectAltNames := params.subjectAltNames, extensions := params.customExtensions }

/-- The DER bytes of an OCTET STRING that is shorter than 128 bytes. -/
def octetString (content : Bytes) : Bytes :=
  0x04 :: UInt8.ofNat content.length :: content

/-- A certificate names the identifier alone, and carries the digest in a critical extension. -/
def Certifies (lib : Libraries) (certified : Bytes → Option Leaf)
    (identifier keyAuthorization : String) (certDer : Bytes) : Prop :=
  ∃ leaf, certified certDer = some leaf ∧ leaf.subjectAltNames = [.dnsName identifier] ∧
    ∃ content, content = octetString (lib.sha256 (Utf8.bytes keyAuthorization)).val ∧
      content.length = 34 ∧
      leaf.extensions.filter (·.oid = acmeIdentifierOid)
        = [{ oid := acmeIdentifierOid, critical := true, content }]

/-- A call ends with an error, or with a value that is right, but not in a panic. -/
def Sound {ε α : Type} (right : α → Prop) : Except (Abort ε) α → Prop
  | .ok value => right value
  | .error (.error _) => True
  | .error (.panic _) => False

/-- A build of a certificate cannot panic: it fails first, or no step of it goes wrong. -/
def Safe (builder : CertBuilder) (parseIp : String → Option Bytes) (identifier : String) : Prop :=
  (∃ failure, builder.generateFor = .error failure) ∨
    parseIp identifier = none ∧
      (isIa5 identifier = false ∨
        builder.nowUtc.nanos + (Duration.fromSecs 86400).nanos < calendarEnd)

variable {lib : Libraries} {builder : CertBuilder} {parseIp : String → Option Bytes}
  {certified : Bytes → Option Leaf} {identifier keyAuthorization : String}

/-- The extension holds the digest as an OCTET STRING of 34 bytes. -/
theorem octetString_digest (digest : { digest : Bytes // digest.length = 32 }) :
    octetString digest.val = [0x04, 0x20] ++ digest.val ∧
      (octetString digest.val).length = 34 := by
  -- The length byte is 32, as the digest has that length.
  obtain ⟨bytes, counted⟩ := digest
  exact ⟨by simp [octetString, counted], by simp [octetString, counted]⟩

/-- The calendar has the time a while later exactly when it has not ended by then. -/
theorem add_ok (time : OffsetDateTime) (length : Duration) :
    (∃ later, time.add length = .ok later) ↔ time.nanos + length.nanos < calendarEnd := by
  unfold OffsetDateTime.add
  -- It is checked against the end of the calendar, and nothing else.
  split <;> simp_all

/-- An address is no DNS name, so a debug build panics on it, here or on the calendar before. -/
theorem responderCert_address (rcgen : RcgenLeaf lib builder parseIp certified) {keyPair : KeyPair}
    {octets : Bytes} (generated : builder.generateFor = .ok keyPair)
    (parsed : parseIp identifier = some octets) :
    ∃ message, responderCertFromKeyAuthorization lib builder true identifier keyAuthorization
      = .error (.panic message) := by
  -- The one alternative name is an address, whether or not the calendar has the next day.
  have params := rcgen.classified identifier (.inl (by simp [parsed]))
  unfold responderCertFromKeyAuthorization
  cases later : builder.nowUtc.add (Duration.fromSecs 86400) <;>
    simp [generated, params, classify, parsed, later, certBuild, Except.mapError, bind, Except.bind,
      isDnsName, throw, throwThe, MonadExceptOf.throw]

/-- A DNS name passes the assertion, and is signed when the calendar has the next day. -/
theorem responderCert_name (rcgen : RcgenLeaf lib builder parseIp certified) {keyPair : KeyPair}
    {notAfter : OffsetDateTime} (generated : builder.generateFor = .ok keyPair)
    (parsed : parseIp identifier = none) (ia5 : isIa5 identifier = true)
    (later : builder.nowUtc.add (Duration.fromSecs 86400) = .ok notAfter) :
    responderCertFromKeyAuthorization lib builder true identifier keyAuthorization
      = (certBuild (builder.selfSigned
          { commonName := none
            subjectAltNames := [.dnsName identifier]
            notBefore := builder.nowUtc
            notAfter
            customExtensions := [
              { oid := acmeIdentifierOid
                critical := true
                content := octetString (lib.sha256 (Utf8.bytes keyAuthorization)).val }] }
          keyPair)).map fun certDer => { certDer, keyDer := keyPair.der } := by
  -- Every step up to the signature succeeds.
  have params := rcgen.classified identifier (.inr ia5)
  have digest := (octetString_digest (lib.sha256 (Utf8.bytes keyAuthorization))).1
  unfold responderCertFromKeyAuthorization
  rw [digest]
  simp [generated, params, classify, parsed, later, certBuild, Except.mapError, bind, Except.bind,
    isDnsName, Except.map]

/-- In a debug build, an identifier gets its certificate or an error exactly when that is safe. -/
theorem responderCertFromKeyAuthorization_sound_iff
    (rcgen : RcgenLeaf lib builder parseIp certified) :
    Sound (fun responder => Certifies lib certified identifier keyAuthorization responder.certDer)
        (responderCertFromKeyAuthorization lib builder true identifier keyAuthorization) ↔
      Safe builder parseIp identifier := by
  unfold Safe
  -- Step by step: the key pair, the classification of the name, the calendar, the signature.
  cases generated : builder.generateFor with
  | error failure =>
    -- No key pair is an error, and errors are sound.
    simp [responderCertFromKeyAuthorization, generated, certBuild, Except.mapError, bind,
      Except.bind, Sound]
  | ok keyPair =>
    cases parsed : parseIp identifier with
    | some octets =>
      -- The certificate has an address in it, and the assertion about its names fails.
      have panics : ∃ message, responderCertFromKeyAuthorization lib builder true identifier
          keyAuthorization = .error (.panic message) := responderCert_address rcgen generated parsed
      obtain ⟨message, panicked⟩ := panics
      simp [panicked, Sound]
    | none =>
      cases ia5 : isIa5 identifier with
      | false =>
        -- The library refuses the name, before the clock is looked at.
        obtain ⟨failure, refused⟩ := rcgen.refused identifier parsed ia5
        simp [responderCertFromKeyAuthorization, generated, refused, certBuild, Except.mapError,
          bind, Except.bind, Sound]
      | true =>
        rw [← add_ok]
        cases later : builder.nowUtc.add (Duration.fromSecs 86400) with
        | error message =>
          -- The calendar ends within the day, and adding to the time panics.
          have params := rcgen.classified identifier (.inr ia5)
          simp [responderCertFromKeyAuthorization, generated, params, later, certBuild,
            Except.mapError, bind, Except.bind, Sound]
        -- Nothing is left that fails, except for the signature, which is an error.
        | ok notAfter =>
          rw [responderCert_name rcgen generated parsed ia5 later]
          refine iff_of_true ?_ (.inr ⟨rfl, .inr ⟨notAfter, rfl⟩⟩)
          generalize certificate : builder.selfSigned _ keyPair = signed
          cases signed with
          -- A signature that fails is an error as well.
          | error failure => exact trivial
          | ok certDer =>
            exact ⟨_, rcgen.written _ _ _ certificate, rfl, _, rfl,
              (octetString_digest _).2, by simp⟩

/-- What holds of the function holds of the export, whatever kind of identifier it is given. -/
theorem export_sound_iff {kind : String} :
    Sound (fun certificate : Bytes × Bytes =>
        Certifies lib certified identifier keyAuthorization certificate.1)
        (TlsAlpn01Solver.responderCert lib builder true { kind, value := identifier }
          keyAuthorization) ↔
      Sound (fun responder => Certifies lib certified identifier keyAuthorization responder.certDer)
        (responderCertFromKeyAuthorization lib builder true identifier keyAuthorization) := by
  unfold TlsAlpn01Solver.responderCert identifierFromSolverWit
  dsimp only
  -- A result is passed on as a pair, and an error as its text.
  cases responderCertFromKeyAuthorization lib builder true identifier keyAuthorization with
  | ok responder => rfl
  | error abort => cases abort <;> rfl

/-- The certificate for a token and an account key is the one for their key authorization. -/
theorem responderCert_sound_iff (rcgen : RcgenLeaf lib builder parseIp certified) {token : String}
    {accountKey : AccountKey} :
    Sound (fun responder => Certifies lib certified identifier
          (computeKeyAuthorization lib token accountKey) responder.certDer)
        (responderCert lib builder true identifier token accountKey) ↔
      Safe builder parseIp identifier :=
  responderCertFromKeyAuthorization_sound_iff rcgen

/-- Both the function and the export end well exactly for the identifiers that are safe. -/
theorem responder_sound_iff (rcgen : RcgenLeaf lib builder parseIp certified) :
    (Sound (fun responder =>
          Certifies lib certified identifier keyAuthorization responder.certDer)
        (responderCertFromKeyAuthorization lib builder true identifier keyAuthorization) ↔
      Safe builder parseIp identifier) ∧
    ∀ kind, Sound (fun certificate : Bytes × Bytes =>
          Certifies lib certified identifier keyAuthorization certificate.1)
        (TlsAlpn01Solver.responderCert lib builder true { kind, value := identifier }
          keyAuthorization) ↔
      Safe builder parseIp identifier :=
  ⟨responderCertFromKeyAuthorization_sound_iff rcgen, fun _ =>
    export_sound_iff.trans (responderCertFromKeyAuthorization_sound_iff rcgen)⟩

/-- Libraries that classify names, and refuse those that are not ASCII. -/
def strictLibraries : Libraries :=
  { sampleLibraries with
    certificateParamsNew := fun names =>
      if names.all fun name => (mixedParseIp name).isSome || isIa5 name then
        .ok
          { commonName := some defaultCommonName
            subjectAltNames := names.map (classify mixedParseIp) }
      else .error "Invalid IA5 string" }

/-- What the certificate for one name and one key authorization shows. -/
def sampleLeaf : Leaf where
  subjectAltNames := [.dnsName "a.example"]
  extensions := [
    { oid := acmeIdentifierOid
      critical := true
      content := octetString (strictLibraries.sha256 (Utf8.bytes "tok.thumb")).val }]

/-- A build that signs this one certificate. -/
def sampleBuilder : CertBuilder where
  generateFor := .ok { der := [1] }
  nowUtc := { nanos := 0, started := by decide, ended := by decide }
  selfSigned params _ :=
    if params.subjectAltNames = sampleLeaf.subjectAltNames ∧
        params.customExtensions = sampleLeaf.extensions then
      .ok (Utf8.bytes "DNS:a.example")
    else .error "unsupported"

/-- What can be read from it. -/
def sampleCertified (certDer : Bytes) : Option Leaf :=
  if certDer = Utf8.bytes "DNS:a.example" then some sampleLeaf else none

/-- The libraries and the build do what is documented. -/
theorem strictLibraries_rcgen :
    RcgenLeaf strictLibraries sampleBuilder mixedParseIp sampleCertified where
  classified name named := by
    -- The parameters are built for a list with the one name in it.
    have listed : ([name].all fun name => (mixedParseIp name).isSome || isIa5 name) = true := by
      simpa using named
    exact if_pos listed
  refused name unparsed foreign := ⟨"Invalid IA5 string", by
    simp [strictLibraries, unparsed, foreign]⟩
  written params key certDer signed := by
    -- The only certificate that is signed is the one that can be read.
    simp only [sampleBuilder] at signed
    split at signed
    · rename_i known
      obtain rfl := Except.ok.inj signed
      rw [known.1, known.2]
      exact if_pos rfl
    · cases signed

/-- An address makes the export panic, although the certificate library accepts it. -/
theorem address_panics :
    RcgenLeaf strictLibraries sampleBuilder mixedParseIp sampleCertified ∧
    TlsAlpn01Solver.responderCert strictLibraries sampleBuilder true
        { kind := "ip", value := "192.0.2.1" } "tok.thumb" = .error (.panic unnamedMessage) ∧
    ¬ Sound (fun certificate : Bytes × Bytes =>
          Certifies strictLibraries sampleCertified "192.0.2.1" "tok.thumb" certificate.1)
        (TlsAlpn01Solver.responderCert strictLibraries sampleBuilder true
          { kind := "ip", value := "192.0.2.1" } "tok.thumb") := by
  have panics : TlsAlpn01Solver.responderCert strictLibraries sampleBuilder true
      { kind := "ip", value := "192.0.2.1" } "tok.thumb" = .error (.panic unnamedMessage) := by
    decide +kernel
  refine ⟨strictLibraries_rcgen, panics, ?_⟩
  -- A panic is not sound.
  rw [panics]
  exact id

/-- A host name is safe, so it gets its certificate. -/
theorem sample_name_certified :
    (Sound (fun responder =>
          Certifies strictLibraries sampleCertified "a.example" "tok.thumb" responder.certDer)
        (responderCertFromKeyAuthorization strictLibraries sampleBuilder true "a.example"
          "tok.thumb") ↔ Safe sampleBuilder mixedParseIp "a.example") ∧
    (Sound (fun certificate : Bytes × Bytes =>
          Certifies strictLibraries sampleCertified "a.example" "tok.thumb" certificate.1)
        (TlsAlpn01Solver.responderCert strictLibraries sampleBuilder true
          (Identifier.dns "a.example") "tok.thumb") ↔
      Safe sampleBuilder mixedParseIp "a.example") ∧
    Safe sampleBuilder mixedParseIp "a.example" :=
  ⟨(responder_sound_iff strictLibraries_rcgen).1,
    (responder_sound_iff strictLibraries_rcgen).2 "dns",
    .inr ⟨by decide, .inr (by decide +kernel)⟩⟩

end Acme.TlsAlpn01
