import Acme.Core.Effect
import Acme.Core.TlsAlpn01
import Acme.Dns.Cloudflare
import Acme.Dns.Dns01
import Acme.Testing.HttpServer

/-! The challenge solvers of the test harness, and the servers behind them. -/

namespace Acme

namespace Dns

open Interaction

/-- The text of a provider's error. -/
def DnsProviderError.toText : DnsProviderError → String
  | .rejected message => "provider rejected request: " ++ message
  | .transport message => "provider transport error: " ++ message
  | .zoneNotFound zone => "provider does not manage zone for \x60" ++ zone ++ "\x60"
  | .propagationTimeout name => "timed out waiting for TXT \x60" ++ name ++ "\x60 to propagate"

/-- A DNS provider with a state. -/
structure DnsProvider (π : Type) where
  upsertTxt : π → String → String → UInt32 → Except DnsProviderError RecordHandle × π
  deleteTxt : π → RecordHandle → Except DnsProviderError Unit × π

/-- The provider in memory is one. -/
def mockProvider : DnsProvider MockDnsProvider where
  upsertTxt := MockDnsProvider.upsertTxt
  deleteTxt := MockDnsProvider.deleteTxt

/-- So is the one for Cloudflare, whatever the service answers; it goes on from what happened. -/
def cloudflareProvider (wire : Cloudflare.Wire) (provider : Cloudflare.CloudflareProvider)
    (answer : Trace Cloudflare.calls → (call : Cloudflare.Call) → call.Reply) :
    DnsProvider (Trace Cloudflare.calls) where
  upsertTxt history name value ttlSeconds :=
    let (trace, outcome) :=
      (Cloudflare.upsertTxt wire provider name value ttlSeconds).run.play answer history
    (outcome, history ++ trace)
  deleteTxt history handle :=
    let (trace, outcome) := (Cloudflare.deleteTxt wire provider handle).run.play answer history
    (outcome, history ++ trace)

end Dns

namespace Testing

open Dns Interaction TlsAlpn01

/-- A TLS library: its signing keys, and how they are read. -/
structure TlsLibrary where
  SigningKey : Type
  anyEcdsaType : Bytes → Except String SigningKey

/-- A certificate chain with the key that signs for it. -/
structure CertifiedKey (tls : TlsLibrary) where
  certChain : List Bytes
  key : tls.SigningKey

/-- The protocol that an authority asks for. -/
def acmeTlsAlpnProtocol : Bytes := Utf8.bytes "acme-tls/1"

/-- What the TLS-ALPN-01 responder has loaded. -/
structure SwappableResolver (tls : TlsLibrary) where
  slot : Option (CertifiedKey tls)

namespace SwappableResolver

variable {tls : TlsLibrary}

/-- Load a certificate in place of what was loaded. -/
def install (_resolver : SwappableResolver tls) (loaded : CertifiedKey tls) :
    SwappableResolver tls where
  slot := some loaded

/-- Unload whatever is loaded. -/
def clear (_resolver : SwappableResolver tls) : SwappableResolver tls where
  slot := none

/-- What is presented to a client that offers some protocols. -/
def resolve (resolver : SwappableResolver tls) (alpn : Option (List Bytes)) :
    Option (CertifiedKey tls) :=
  let alpnOk := (alpn.map fun offered => offered.any (· = acmeTlsAlpnProtocol)).getD false
  -- A client that does not ask for the challenge certificate does not get it.
  if !alpnOk then none else resolver.slot

end SwappableResolver

/-- Load a certificate whose key can be read. -/
def TlsAlpn01Server.install {tls : TlsLibrary} (resolver : SwappableResolver tls)
    (certDer keyDer : Bytes) : Except String (SwappableResolver tls) := do
  let key ← tls.anyEcdsaType keyDer
  .ok (resolver.install { certChain := [certDer], key })

/-- Load the certificate for a challenge. -/
def TlsAlpn01SolverAdapter.arm {tls : TlsLibrary} (lib : Libraries) (builder : CertBuilder)
    (debugAssertions : Bool) (resolver : SwappableResolver tls) (identifier : Identifier)
    (keyAuthorization : String) : Except Stop (SwappableResolver tls) :=
  match responderCertFromKeyAuthorization lib builder debugAssertions identifier.value
      keyAuthorization with
  | .error (.panic message) => .error (.panic message)
  | .error (.error failure) =>
    .error (.error (.jose ("build tls-alpn responder: " ++ failure.toText)))
  | .ok responder =>
    match TlsAlpn01Server.install resolver responder.certDer responder.keyDer with
    | .error failure => .error (.error (.jose ("install responder cert: " ++ failure)))
    | .ok installed => .ok installed

/-- Publish the record for a challenge. -/
def DnsSolverAdapter.arm {π : Type} (lib : Libraries) (provider : DnsProvider π) (records : π)
    (identifier : Identifier) (keyAuthorization : String) : Except AcmeError RecordHandle × π :=
  let record : Dns01.Dns01Record :=
    { name := Dns01.recordName identifier.value
      value := b64url (lib.sha256 (Utf8.bytes keyAuthorization)).val
      ttlSeconds := 60 }
  let (upserted, published) := provider.upsertTxt records record.name record.value record.ttlSeconds
  (upserted.mapError fun failure => .transport ("dns provider upsert: " ++ failure.toText),
    published)

/-- What the harness is built with. -/
structure Harness (π : Type) where
  lib : Libraries
  tls : TlsLibrary
  /-- The means to build a certificate, each time one is built. -/
  builders : Nat → CertBuilder
  debugAssertions : Bool
  provider : DnsProvider π

/-- The servers that stand behind the solvers. -/
structure Servers {π : Type} (harness : Harness π) where
  http : Http01Server
  resolver : SwappableResolver harness.tls
  records : π
  /-- How often a certificate was to be built. -/
  builds : Nat

/-- The solvers of the harness. -/
inductive Adapter where
  | http01
  | tlsAlpn01
  | dns01
deriving DecidableEq

/-- What an armed challenge is held by. -/
inductive ChallengeReady where
  | http01 (ready : Http01Ready)
  | tlsAlpn01
  | dns01 (handle : RecordHandle)
deriving DecidableEq

/-- The kind of challenge that a solver is for. -/
def Adapter.kind : Adapter → ChallengeKind
  | .http01 => .http01
  | .tlsAlpn01 => .tlsAlpn01
  | .dns01 => .dns01

variable {π : Type} {harness : Harness π}

/-- Let a solver provision a response. -/
def Adapter.arm (servers : Servers harness) (identifier : Identifier) (keyAuthorization : String) :
    Adapter → Except Stop ChallengeReady × Servers harness
  | .http01 =>
    match Http01SolverAdapter.arm servers.http identifier keyAuthorization with
    | .ok (ready, http) => (.ok (.http01 ready), { servers with http })
    | .error failure => (.error (.error failure), servers)
  | .tlsAlpn01 =>
    let servers := { servers with builds := servers.builds + 1 }
    match TlsAlpn01SolverAdapter.arm harness.lib (harness.builders servers.builds)
        harness.debugAssertions servers.resolver identifier keyAuthorization with
    | .ok resolver => (.ok .tlsAlpn01, { servers with resolver })
    | .error stop => (.error stop, servers)
  | .dns01 =>
    match DnsSolverAdapter.arm harness.lib harness.provider servers.records identifier
        keyAuthorization with
    | (.ok handle, records) => (.ok (.dns01 handle), { servers with records })
    | (.error failure, records) => (.error (.error failure), { servers with records })

/-- Take a response down. -/
def ChallengeReady.drop (servers : Servers harness) : ChallengeReady → Servers harness
  | .http01 ready => { servers with http := ready.drop servers.http }
  | .tlsAlpn01 => { servers with resolver := servers.resolver.clear }
  -- Whether the record could be removed does not matter.
  | .dns01 handle => { servers with records := (harness.provider.deleteTxt servers.records handle).2 }

/-- Check that a response can be seen: each solver trusts its own server. -/
def ChallengeReady.selfCheck (_ready : ChallengeReady) : Except AcmeError Unit :=
  .ok ()

/-- The servers of the harness, and what the challenges that are armed on them are held by. -/
structure Bench (harness : Harness π) where
  servers : Servers harness
  live : Handle → Option ChallengeReady

/-- The servers before anything is armed. -/
def Bench.fresh (records : π) : Bench harness where
  servers := { http := .empty, resolver := { slot := none }, records, builds := 0 }
  live := fun _ => none

/-- What comes of letting one of some solvers provision a response. -/
def Bench.arming (bench : Bench harness) (solvers : List Adapter) (solver : Nat)
    (identifier : Identifier) (keyAuthorization : String) :
    Option (Except Stop ChallengeReady × Servers harness) :=
  solvers[solver]?.map fun adapter => adapter.arm bench.servers identifier keyAuthorization

/-- What a client may be told about an outcome, when some handles are live. -/
def Told (live : Handle → Option ChallengeReady) :
    Except Stop ChallengeReady → Except AcmeError Handle → Prop
  -- No two handles are live at one address.
  | .ok _, .ok ready => live ready = none
  | .error (.error failure), .error told => told = failure
  -- A solver that panics does not reply.
  | _, _ => False

/-- What a client is told by the solvers of the harness, and what its calls do to the servers. -/
def bench (harness : Harness π) (solvers : List Adapter) : World calls (Bench harness) where
  Allows bench event := match event with
    | ⟨.arm solver identifier keyAuthorization, reply⟩ =>
      ∃ made ∈ bench.arming solvers solver identifier keyAuthorization,
        Told bench.live made.1 reply
    | ⟨.selfCheck ready, reply⟩ => (bench.live ready).map ChallengeReady.selfCheck = some reply
    | ⟨.dropReady ready, _⟩ => bench.live ready ≠ none
    | _ => True
  next bench event := match event with
    | ⟨.arm solver identifier keyAuthorization, reply⟩ =>
      match bench.arming solvers solver identifier keyAuthorization, reply with
      | some (.ok armed, servers), .ok ready =>
        { servers, live := fun other => if other = ready then some armed else bench.live other }
      | some (_, servers), _ => { bench with servers }
      | none, _ => bench
    | ⟨.dropReady ready, _⟩ =>
      match bench.live ready with
      | some armed =>
        { servers := armed.drop bench.servers
          live := fun other => if other = ready then none else bench.live other }
      | none => bench
    | _ => bench

instance (live : Handle → Option ChallengeReady) : (outcome : Except Stop ChallengeReady) →
    (told : Except AcmeError Handle) → Decidable (Told live outcome told)
  | .ok _, .ok ready => inferInstanceAs (Decidable (live ready = none))
  | .error (.error failure), .error told => inferInstanceAs (Decidable (told = failure))
  | .ok _, .error _ | .error (.error _), .ok _ | .error (.panic _), _ | .error .unfinished, _ =>
    .isFalse id

instance (state : Bench harness) (solvers : List Adapter) :
    (event : Event calls) → Decidable ((bench harness solvers).Allows state event)
  | ⟨.arm solver identifier keyAuthorization, reply⟩ =>
    inferInstanceAs (Decidable (∃ made ∈ state.arming solvers solver identifier keyAuthorization,
      Told state.live made.1 reply))
  | ⟨.selfCheck ready, reply⟩ =>
    inferInstanceAs (Decidable ((state.live ready).map ChallengeReady.selfCheck = some reply))
  | ⟨.dropReady ready, _⟩ => inferInstanceAs (Decidable (state.live ready ≠ none))
  | ⟨.head _, _⟩ | ⟨.get _, _⟩ | ⟨.postJose _ _, _⟩ | ⟨.popFront, _⟩ | ⟨.pushBack _, _⟩
  | ⟨.isEmpty, _⟩ | ⟨.clear, _⟩ | ⟨.now, _⟩ | ⟨.sleep _, _⟩ => .isTrue trivial

end Testing

end Acme
