import Acme.Proofs.HttpProbe
import Acme.Proofs.Postings
import Acme.Proofs.ResponderCert
import Acme.Proofs.Selection
import Acme.Testing.Solvers

/-! When an authority is told to validate a challenge, the servers of the harness answer it. -/

namespace Acme.Testing

open Dns Interaction TlsAlpn01

variable {π : Type} {harness : Harness π}

/-- What is documented about a DNS provider, as far as one record at a time is concerned. -/
structure Zone (provider : DnsProvider π) where
  /-- None of the records that were published is left. -/
  Bare : π → Prop
  /-- A name is answered by a text. -/
  Answers : π → String → String → Prop
  /-- A record that was published is answered. -/
  published : ∀ {records published name value ttlSeconds handle}, Bare records →
    provider.upsertTxt records name value ttlSeconds = (.ok handle, published) →
    Answers published name value
  /-- A record that was refused is not published. -/
  refused : ∀ {records left name value ttlSeconds failure}, Bare records →
    provider.upsertTxt records name value ttlSeconds = (.error failure, left) → Bare left
  /-- Deleting the one record that was published leaves none. -/
  deleted : ∀ {records published name value ttlSeconds handle}, Bare records →
    provider.upsertTxt records name value ttlSeconds = (.ok handle, published) →
    Bare (provider.deleteTxt published handle).2

/-- What is documented about the certificates and the DNS provider of a harness. -/
structure Documented (harness : Harness π) extends Zone harness.provider where
  /-- The identifiers that certificates are documented for. -/
  Named : Identifier → Prop
  /-- A certificate shows the response to a challenge. -/
  Shows : Identifier → String → Bytes → Prop
  /-- A certificate that was built for such an identifier does. -/
  built : ∀ {build identifier keyAuthorization responder}, Named identifier →
    responderCertFromKeyAuthorization harness.lib (harness.builders build)
      harness.debugAssertions identifier.value keyAuthorization = .ok responder →
    Shows identifier keyAuthorization responder.certDer

/-- Nothing is served. -/
structure Servers.Idle (documented : Documented harness) (servers : Servers harness) : Prop where
  http : ∀ token, servers.http.map token = none
  resolver : servers.resolver.slot = none
  records : documented.Bare servers.records

/-- An authority that asks for a token finds the key authorization, whatever else it says. -/
def Http01Server.Serves (lib : Libraries) (server : Http01Server) (token : String)
    (key : AccountKey) : Prop :=
  ∀ others closed, server.asked token others closed =
    some (reply 200 "OK" (Utf8.bytes (Http01.responseBody lib token key)))

/-- What an authority looks for is there, for each kind of challenge. -/
def Servers.Serves (documented : Documented harness) (servers : Servers harness)
    (identifier : Identifier) (token : String) (key : AccountKey) : Adapter → Prop
  -- The key authorization is found under the token.
  | .http01 => servers.http.Serves harness.lib token key
  -- A client that offers the protocol is shown the one certificate for the key authorization.
  | .tlsAlpn01 => ∃ loaded certDer,
      servers.resolver.resolve (some [acmeTlsAlpnProtocol]) = some loaded ∧
      loaded.certChain = [certDer] ∧
      documented.Shows identifier (computeKeyAuthorization harness.lib token key) certDer
  -- The record of the challenge is published.
  | .dns01 => documented.Answers servers.records (Dns01.recordName identifier.value)
      (Dns01.recordValue harness.lib token key)

/-- What a solver demands of a challenge: without it, what it provisions may not be found. -/
def Adapter.Suits (documented : Documented harness) (identifier : Identifier) (token : String) :
    Adapter → Prop
  -- The server files a response under its token up to a dot, and reads a path up to a blank.
  | .http01 => Plain token
  -- An identifier that certificates are not documented for may be certified in another way.
  | .tlsAlpn01 => documented.Named identifier
  | .dns01 => True

/-- All ways a solver provisions a response, or fails to. -/
inductive Armed (before : Servers harness) (identifier : Identifier) (keyAuthorization : String) :
    Adapter → Except Stop ChallengeReady → Servers harness → Prop where
  /-- The key authorization is served under the token in it. -/
  | http01 {token : String} (found : tokenOf keyAuthorization = .ok token) :
      Armed before identifier keyAuthorization .http01 (.ok (.http01 ⟨token⟩))
        { before with http := before.http.insert token keyAuthorization }
  /-- There is no token in it. -/
  | tokenless (failure : AcmeError) :
      Armed before identifier keyAuthorization .http01 (.error (.error failure)) before
  /-- A certificate was built and loaded. -/
  | tlsAlpn01 {responder : TlsAlpn01Responder} {key : harness.tls.SigningKey}
      (built : responderCertFromKeyAuthorization harness.lib (harness.builders (before.builds + 1))
        harness.debugAssertions identifier.value keyAuthorization = .ok responder)
      (read : harness.tls.anyEcdsaType responder.keyDer = .ok key) :
      Armed before identifier keyAuthorization .tlsAlpn01 (.ok .tlsAlpn01)
        { before with
          resolver := { slot := some { certChain := [responder.certDer], key } }
          builds := before.builds + 1 }
  /-- It was not. -/
  | unbuilt (stop : Stop) :
      Armed before identifier keyAuthorization .tlsAlpn01 (.error stop)
        { before with builds := before.builds + 1 }
  /-- The record was published. -/
  | dns01 {handle : RecordHandle} {records : π}
      (upserted : harness.provider.upsertTxt before.records (Dns01.recordName identifier.value)
        (b64url (harness.lib.sha256 (Utf8.bytes keyAuthorization)).val) 60 = (.ok handle, records)) :
      Armed before identifier keyAuthorization .dns01 (.ok (.dns01 handle)) { before with records }
  /-- It was refused. -/
  | refused {failure : DnsProviderError} {records : π}
      (upserted : harness.provider.upsertTxt before.records (Dns01.recordName identifier.value)
        (b64url (harness.lib.sha256 (Utf8.bytes keyAuthorization)).val) 60
          = (.error failure, records)) :
      Armed before identifier keyAuthorization .dns01
        (.error (.error (.transport ("dns provider upsert: " ++ failure.toText))))
        { before with records }

/-- A solver is armed in one of these ways. -/
theorem arm_run (before : Servers harness) (identifier : Identifier) (keyAuthorization : String)
    (adapter : Adapter) :
    Armed before identifier keyAuthorization adapter
      (adapter.arm before identifier keyAuthorization).1
      (adapter.arm before identifier keyAuthorization).2 := by
  cases adapter with
  | http01 =>
    cases found : tokenOf keyAuthorization with
    | ok token =>
      -- The response is stored under what stands before the first dot.
      simpa [Adapter.arm, Http01SolverAdapter.arm, found, bind, Except.bind]
        using Armed.http01 found
    | error failure =>
      simpa [Adapter.arm, Http01SolverAdapter.arm, found, bind, Except.bind]
        using Armed.tokenless failure
  | tlsAlpn01 =>
    -- A certificate is built, and its key is read by the TLS library before it is installed.
    cases built : responderCertFromKeyAuthorization harness.lib
        (harness.builders (before.builds + 1)) harness.debugAssertions identifier.value
        keyAuthorization with
    | error abort =>
      -- Without a certificate the resolver stays as it is.
      cases abort <;>
        simpa [Adapter.arm, TlsAlpn01SolverAdapter.arm, built] using Armed.unbuilt _
    | ok responder =>
      cases read : harness.tls.anyEcdsaType responder.keyDer with
      | error failure =>
        simpa [Adapter.arm, TlsAlpn01SolverAdapter.arm, TlsAlpn01Server.install, built, read, bind,
          Except.bind] using Armed.unbuilt _
      | ok key =>
        simpa [Adapter.arm, TlsAlpn01SolverAdapter.arm, TlsAlpn01Server.install,
          SwappableResolver.install, built, read, bind, Except.bind]
          using Armed.tlsAlpn01 built read
  | dns01 =>
    -- The digest is published, or the provider refuses to.
    cases upserted : harness.provider.upsertTxt before.records (Dns01.recordName identifier.value)
        (b64url (harness.lib.sha256 (Utf8.bytes keyAuthorization)).val) 60 with
    | mk outcome records =>
      cases outcome with
      | ok handle =>
        simpa [Adapter.arm, DnsSolverAdapter.arm, upserted, Except.mapError]
          using Armed.dns01 upserted
      | error failure =>
        simpa [Adapter.arm, DnsSolverAdapter.arm, upserted, Except.mapError]
          using Armed.refused upserted

variable {documented : Documented harness} {before after : Servers harness}
  {identifier : Identifier} {keyAuthorization : String} {adapter : Adapter}

/-- A solver that fails leaves nothing behind. -/
theorem Armed.idle {stop : Stop}
    (failed : Armed before identifier keyAuthorization adapter (.error stop) after)
    (idle : before.Idle documented) : after.Idle documented := by
  obtain ⟨http, resolver, records⟩ := idle
  cases failed with
  -- Nothing was touched by these failures.
  | tokenless | unbuilt => exact ⟨http, resolver, records⟩
  -- A refused record leaves what was published, as documented.
  | refused upserted => exact ⟨http, resolver, documented.refused records upserted⟩

/-- When the response is taken down, nothing is left of it. -/
theorem Armed.drop {ready : ChallengeReady}
    (armed : Armed before identifier keyAuthorization adapter (.ok ready) after)
    (idle : before.Idle documented) : (ready.drop after).Idle documented := by
  obtain ⟨http, resolver, records⟩ := idle
  cases armed with
  | @http01 token found =>
    -- Only the token that was inserted had something.
    refine ⟨fun other => ?_, resolver, records⟩
    by_cases same : other = token <;>
      simp [ChallengeReady.drop, Http01Ready.drop, Http01Server.remove, Http01Server.insert, same,
        http]
  | tlsAlpn01 => exact ⟨http, rfl, records⟩
  | dns01 upserted => exact ⟨http, resolver, documented.deleted records upserted⟩

/-- A certificate that was built for a host name certifies it. -/
theorem certifies_of_ok {lib : Libraries} {builder : CertBuilder} {parseIp : String → Option Bytes}
    {certified : Bytes → Option Leaf} {debugAssertions : Bool} {name : String}
    {responder : TlsAlpn01Responder} (rcgen : RcgenLeaf lib builder parseIp certified)
    (unparsed : parseIp name = none)
    (built : responderCertFromKeyAuthorization lib builder debugAssertions name keyAuthorization
      = .ok responder) :
    Certifies lib certified name keyAuthorization responder.certDer := by
  have digest := octetString_digest (lib.sha256 (Utf8.bytes keyAuthorization))
  unfold responderCertFromKeyAuthorization at built
  cases generated : builder.generateFor with
  | error failure => simp [generated, certBuild, Except.mapError, bind, Except.bind] at built
  | ok keyPair =>
    cases ia5 : isIa5 name with
    | false =>
      -- The library refuses such a name.
      obtain ⟨failure, refused⟩ := rcgen.refused name unparsed ia5
      simp [generated, refused, certBuild, Except.mapError, bind, Except.bind] at built
    | true =>
      have params := rcgen.classified name (.inr ia5)
      cases later : builder.nowUtc.add (Duration.fromSecs 86400) with
      -- Past the end of the calendar there is a panic, and no certificate.
      | error message =>
        simp [generated, params, later, certBuild, Except.mapError, bind, Except.bind] at built
      | ok notAfter =>
        -- A host name passes the assertion, so what is left is the signature.
        simp only [generated, params, classify, unparsed, later, certBuild, Except.mapError, bind,
          Except.bind, isDnsName, List.any_cons, List.any_nil, Bool.or_false, Bool.not_true,
          Bool.and_false, Bool.false_eq_true, if_false, List.nil_append] at built
        generalize certificate : builder.selfSigned _ keyPair = signed at built
        cases signed with
        | error failure => cases built
        | ok certDer =>
          obtain rfl := Except.ok.inj built
          exact ⟨_, rcgen.written _ _ _ certificate, rfl, _, rfl, digest.2, by simp [digest.1]⟩

/-- A token is served when the server has the key authorization under the token found in it. -/
theorem serves_of_map {lib : Libraries} {server : Http01Server} {token found : String}
    {key : AccountKey} (plain : Plain token)
    (tokened : tokenOf (computeKeyAuthorization lib token key) = .ok found)
    (mapped : server.map found = some (computeKeyAuthorization lib token key)) :
    server.Serves lib token key := by
  intro others closed
  obtain rfl := Except.ok.inj ((tokenOf_computeKeyAuthorization lib token key).symm.trans tokened)
  -- Nothing of a plain token is lost on the way to the server.
  rw [asked_eq, (visible_eq_iff token).mpr plain, mapped]
  rfl

/-- Armed for a challenge that suits it, a solver makes the servers answer as is expected. -/
theorem Armed.serves {ready : ChallengeReady} {token : String} {key : AccountKey}
    (armed : Armed before identifier (computeKeyAuthorization harness.lib token key) adapter
      (.ok ready) after) (idle : before.Idle documented)
    (suits : adapter.Suits documented identifier token) :
    after.Serves documented identifier token key adapter := by
  cases armed with
  -- The map has the response under the token, as the token has no dot.
  | http01 found => exact serves_of_map suits found (if_pos rfl)
  -- The resolver holds the certificate, and it is served to `acme-tls/1`.
  | @tlsAlpn01 responder loaded built read =>
    let shown : CertifiedKey harness.tls := { certChain := [responder.certDer], key := loaded }
    exact ⟨shown, responder.certDer, by simp [SwappableResolver.resolve, shown], rfl,
      documented.built suits built⟩
  -- The provider is relied on to show what it was given.
  | dns01 upserted => exact documented.published idle.records upserted

/-- What the servers are like while a response is up, and while none is. -/
def Matches (documented : Documented harness) (solvers : List Adapter) :
    Option Posting → Bench harness → Prop
  | none, bench => bench.servers.Idle documented ∧ ∀ ready, bench.live ready = none
  | some posting, bench => ∃ adapter before armed, solvers[posting.solver]? = some adapter ∧
      before.Idle documented ∧
      Armed before posting.identifier posting.keyAuthorization adapter (.ok armed) bench.servers ∧
      ∀ ready, bench.live ready = if ready = posting.ready then some armed else none

/-- Every call keeps the servers as they should be. -/
theorem Matches.step {solvers : List Adapter} {up : Option Posting} {start : Bench harness}
    {event : Event calls} (matched : Matches documented solvers up start)
    (allowed : postings.Allows up event) (admitted : (bench harness solvers).Allows start event) :
    Matches documented solvers (postings.next up event) ((bench harness solvers).next start event) := by
  obtain ⟨call, told⟩ := event
  cases call with
  | arm solver identifier keyAuthorization =>
    -- Nothing was up, and then the solver was armed in one of its ways.
    obtain rfl : up = none := allowed
    obtain ⟨idle, unused⟩ := matched
    cases chosen : solvers[solver]? with
    | none => simp [bench, Bench.arming, chosen] at admitted
    | some adapter =>
      have run := arm_run start.servers identifier keyAuthorization adapter
      cases arming : adapter.arm start.servers identifier keyAuthorization with
      | mk outcome servers =>
        rw [arming] at run
        cases outcome with
        | ok armed =>
          cases told with
          | error failure => simp [bench, Bench.arming, chosen, arming, Told] at admitted
          | ok ready =>
            simp only [bench, postings, Bench.arming, chosen, arming, Option.map_some]
            exact ⟨adapter, start.servers, armed, chosen, idle, run, by simp [unused]⟩
        | error stop =>
          cases told with
          | ok ready => cases stop <;> simp [bench, Bench.arming, chosen, arming, Told] at admitted
          | error failure =>
            simp only [bench, postings, Bench.arming, chosen, arming, Option.map_some]
            exact ⟨run.idle idle, unused⟩
  | dropReady ready =>
    -- What is taken down is what was up.
    cases up with
    | none => cases allowed
    | some posting =>
      obtain ⟨adapter, before, armed, chosen, idle, run, live⟩ := matched
      obtain rfl : posting.ready = ready := Option.some.inj allowed
      have held : start.live posting.ready = some armed := by rw [live, if_pos rfl]
      simp only [bench, postings, held]
      refine ⟨run.drop idle, fun other => ?_⟩
      -- No other one is held after this.
      by_cases same : other = posting.ready <;> simp [same, live]
  | _ => exact matched

/--
How an operation goes on with the solvers of a harness, and what it leaves the servers as: it
comes to an end of its own, or it ends because a solver panics.
-/
inductive Ran (solvers : List Adapter) {α : Type} (operation : Client α)
    (start : Bench harness) : History → Except Stop α → Servers harness → Prop where
  /-- The operation itself has an outcome. -/
  | ended {trace : History} {outcome : Except Stop α} (run : operation.Ends trace outcome)
      (admitted : (bench harness solvers).Admits start trace) :
      Ran solvers operation start trace outcome
        ((bench harness solvers).after start trace).servers
  /-- A solver that was to provision a response has panicked, and did not reply. -/
  | panicked {trace : History} {solver : Nat} {identifier : Identifier}
      {keyAuthorization message : String} {servers : Servers harness}
      {next : Except AcmeError Handle → Program calls (Except Stop α)}
      (leads : operation.run.Leads trace (.call (.arm solver identifier keyAuthorization) next))
      (admitted : (bench harness solvers).Admits start trace)
      (arming : ((bench harness solvers).after start trace).arming solvers solver identifier
        keyAuthorization = some (.error (.panic message), servers)) :
      Ran solvers operation start trace (.error (.panic message)) servers

/-- How the servers of a harness go along with an issuance that uses its solvers. -/
structure Provisioned (documented : Documented harness) (solvers : List Adapter)
    (request : IssueRequest) (start : Bench harness) (trace : History)
    (outcome : Except Stop Bytes) (left : Servers harness) : Prop where
  /--
  Whenever the authority is told to validate a challenge, that challenge was picked from an
  authorization that was fetched before, and the server behind the solver for it serves what the
  authority is going to look for, as far as the challenge suits the solver.
  -/
  served : ∀ before url kick reply after, trace = before ++ posted url kick reply :: after →
    Carries kick Challenge.kickPayload → ∃ authzUrl authz solver challenge token adapter,
      Saw (Authorization.read harness.lib) before authzUrl authz ∧
      Arms harness.lib request.solvers authz solver challenge token ∧ challenge.url = url ∧
      solvers[solver]? = some adapter ∧ adapter.kind = challenge.kind ∧
      (adapter.Suits documented authz.identifier token →
        ((bench harness solvers).after start before).servers.Serves documented authz.identifier
          token request.accountKey adapter)
  /-- Whenever no response is up, nothing is served. -/
  idle : ∀ before after, trace = before ++ after → postings.after none before = none →
    ((bench harness solvers).after start before).servers.Idle documented
  /-- Nothing is served when the issuance is over, in whatever way it has ended. -/
  ended : outcome ≠ .error .unfinished → left.Idle documented

/-- While an issuance goes on, the servers match the response that is up. -/
theorem matches_of_leads (documented : Documented harness) (solvers : List Adapter)
    {fuel : Nat} {request : IssueRequest} {start : Bench harness} {trace : History}
    {rest : Program calls (Except Stop Bytes)} (idle : start.servers.Idle documented)
    (unused : ∀ ready, start.live ready = none)
    (leads : (issueCertificateWithTimeouts harness.lib fuel request).run.Leads trace rest)
    (admitted : (bench harness solvers).Admits start trace) :
    Matches documented solvers (postings.after none trace)
      ((bench harness solvers).after start trace) :=
  World.related Matches.step (show Matches documented solvers none start from ⟨idle, unused⟩)
    (issuance_posts leads).1 admitted

/-- When the authority is told to validate a challenge, the response to it is served. -/
theorem served_of_leads (documented : Documented harness) (solvers : List Adapter)
    {fuel : Nat} {request : IssueRequest} {start : Bench harness} {trace : History}
    {rest : Program calls (Except Stop Bytes)}
    (fitting : request.solvers = solvers.map Adapter.kind)
    (idle : start.servers.Idle documented) (unused : ∀ ready, start.live ready = none)
    (leads : (issueCertificateWithTimeouts harness.lib fuel request).run.Leads trace rest)
    (admitted : (bench harness solvers).Admits start trace)
    {before after : History} {url : String} {kick : Bytes}
    {reply : Except AcmeError HttpResponse} (split : trace = before ++ posted url kick reply :: after)
    (carries : Carries kick Challenge.kickPayload) :
    ∃ authzUrl authz solver challenge token adapter,
      Saw (Authorization.read harness.lib) before authzUrl authz ∧
      Arms harness.lib request.solvers authz solver challenge token ∧ challenge.url = url ∧
      solvers[solver]? = some adapter ∧ adapter.kind = challenge.kind ∧
      (adapter.Suits documented authz.identifier token →
        ((bench harness solvers).after start before).servers.Serves documented authz.identifier
          token request.accountKey adapter) := by
  -- The authority is told of a challenge whose response is up.
  obtain ⟨authzUrl, authz, solver, challenge, token, ready, saw, arms, target, up⟩ :=
    World.chronicle_admits_iff.mp (issuance_posts leads).2 before _ after split url kick reply rfl
      carries
  rw [List.nil_append] at up
  -- The servers match what is up at that moment.
  subst split
  obtain ⟨middle, leads, _⟩ := leads.split
  have state := matches_of_leads documented solvers idle unused leads
    (World.admits_append.mp admitted).1
  rw [up] at state
  obtain ⟨adapter, earlier, armed, chosen, idle, arming, _⟩ := state
  -- The solver was picked for the kind of the challenge.
  have kind : adapter.kind = challenge.kind := by
    rcases picked_cases harness.lib authz request.solvers with ⟨_, _, selected, picked⟩ |
      ⟨_, _, picked⟩
    · rw [arms.picked] at picked
      obtain ⟨rfl, rfl⟩ := Prod.mk.inj (Except.ok.inj picked)
      have fits := selected.fits
      rw [fitting, List.getElem?_map, chosen] at fits
      exact Option.some.inj fits
    · rw [arms.picked] at picked
      cases picked
  exact ⟨authzUrl, authz, solver, challenge, token, adapter, saw, arms, target, chosen, kind,
    arming.serves idle⟩

/-- The servers go along with every issuance, as far as they do what is documented. -/
theorem provisioned_of_ran (documented : Documented harness) (solvers : List Adapter)
    {fuel : Nat} {request : IssueRequest} {start : Bench harness} {trace : History}
    {outcome : Except Stop Bytes} {left : Servers harness}
    (fitting : request.solvers = solvers.map Adapter.kind)
    (idle : start.servers.Idle documented) (unused : ∀ ready, start.live ready = none)
    (run : Ran solvers (issueCertificateWithTimeouts harness.lib fuel request) start trace outcome
      left) :
    Provisioned documented solvers request start trace outcome left := by
  -- However it ends, the issuance has come as far as its trace.
  obtain ⟨rest, leads, admitted⟩ : ∃ rest,
      (issueCertificateWithTimeouts harness.lib fuel request).run.Leads trace rest ∧
        (bench harness solvers).Admits start trace := by
    cases run with
    | ended run admitted => exact ⟨_, run, admitted⟩
    | panicked leads admitted _ => exact ⟨_, leads, admitted⟩
  -- What holds without a response holds after every part of the trace.
  have silent : ∀ before after, trace = before ++ after → postings.after none before = none →
      ((bench harness solvers).after start before).servers.Idle documented := by
    intro before after split none
    subst split
    obtain ⟨middle, leads, _⟩ := leads.split
    have state := matches_of_leads documented solvers idle unused leads
      (World.admits_append.mp admitted).1
    rw [none] at state
    exact state.1
  refine ⟨fun before url kick reply after split carries =>
    served_of_leads documented solvers fitting idle unused leads admitted split carries, silent,
    fun whole => ?_⟩
  cases run with
  | ended run _ =>
    -- An issuance that ends by itself has taken down what was up.
    exact silent trace [] (by simp) ((issue_run run).posts.released whole)
  | @panicked solver identifier keyAuthorization message _ next leads _ arming =>
    -- No response is up when another one is to be provisioned.
    have none : postings.after none trace = none := by
      have further := (issuance_posts (leads.answered (.error (.other message)))).1
      exact (World.admits_append.mp further).2.1
    -- The solver that panics has not put anything on its server.
    obtain ⟨adapter, _, made⟩ := Option.map_eq_some_iff.mp arming
    have ways := arm_run ((bench harness solvers).after start trace).servers identifier
      keyAuthorization adapter
    rw [made] at ways
    exact ways.idle (silent trace [] (by simp) none)

/-- A harness whose certificates are built as documented, for a documented provider. -/
def Zone.withRcgen {harness : Harness π} (zone : Zone harness.provider)
    {parseIp : String → Option Bytes} {certified : Bytes → Option Leaf}
    (rcgen : ∀ build, RcgenLeaf harness.lib (harness.builders build) parseIp certified) :
    Documented harness where
  toZone := zone
  -- A certificate for an address names it as one, which is not what a host name is shown by.
  Named identifier := parseIp identifier.value = none
  Shows identifier keyAuthorization certDer :=
    Certifies harness.lib certified identifier.value keyAuthorization certDer
  built unparsed responder := certifies_of_ok (rcgen _) unparsed responder

/--
Whatever the authority answers, an issuance with the solvers of a harness tells the authority to
validate a challenge only while the harness serves the response to it, and takes it down again.

For HTTP-01 this is said of tokens without a dot or white space, and for TLS-ALPN-01 of
identifiers that are not addresses. Nothing is left behind either when a solver panics.
-/
theorem issuance_provisioned (zone : Zone harness.provider) {parseIp : String → Option Bytes}
    {certified : Bytes → Option Leaf}
    (rcgen : ∀ build, RcgenLeaf harness.lib (harness.builders build) parseIp certified)
    (solvers : List Adapter) {fuel : Nat} {request : IssueRequest} {start : Bench harness}
    {trace : History} {outcome : Except Stop Bytes} {left : Servers harness}
    (fitting : request.solvers = solvers.map Adapter.kind)
    (idle : start.servers.Idle (zone.withRcgen rcgen)) (unused : ∀ ready, start.live ready = none)
    (run : Ran solvers (issueCertificateWithTimeouts harness.lib fuel request) start trace outcome
      left) :
    Provisioned (zone.withRcgen rcgen) solvers request start trace outcome left :=
  provisioned_of_ran (zone.withRcgen rcgen) solvers fitting idle unused run

/-- The provider in memory answers for what it was given. -/
def mockZone : Zone mockProvider where
  Bare records := records = []
  Answers records name value := (name, value) ∈ records.snapshot
  published bare upserted := by
    subst bare
    obtain ⟨_, rfl⟩ := Prod.mk.inj upserted
    simp [MockDnsProvider.snapshot]
  refused bare upserted := by cases upserted
  deleted bare upserted := by
    subst bare
    -- The record has the handle that was returned.
    obtain ⟨handle, rfl⟩ := Prod.mk.inj upserted
    obtain rfl := Except.ok.inj handle
    simp [mockProvider, MockDnsProvider.deleteTxt]

/-- A TLS library that reads the one key of concrete runs. -/
def sampleTls : TlsLibrary where
  SigningKey := Bytes
  anyEcdsaType keyDer :=
    if keyDer = [1] then .ok keyDer else .error "failed to parse ECDSA private key"

/-- A harness for concrete runs. -/
def sampleHarness : Harness MockDnsProvider where
  lib := strictLibraries
  tls := sampleTls
  builders := fun _ => sampleBuilder
  debugAssertions := true
  provider := mockProvider

/-- Its servers before anything is armed. -/
def sampleBench : Bench sampleHarness := .fresh []

/-- What is documented about its provider. -/
def sampleProviderZone : Zone sampleHarness.provider := mockZone

/-- Its solvers. -/
def sampleSolvers : List Adapter := [.http01, .tlsAlpn01, .dns01]

/-- What is asked for with them. -/
def servedRequest : IssueRequest :=
  { sampleRequest with solvers := sampleSolvers.map Adapter.kind }

/-- An issuance that uses them. -/
def servedIssuance : History × Except Stop Bytes :=
  play issueScript (issueCertificateWithTimeouts strictLibraries 2 servedRequest)

/-- The text of a TLS-ALPN-01 challenge in some state. -/
def tlsChallengeText (status : String) : String :=
  "\x7b\"type\":\"tls-alpn-01\",\"url\":\"ca/chall/1\",\"status\":\"" ++ status ++
  "\",\"token\":\"tok\"\x7d"

/-- The challenge in such a text. -/
def tlsChallenge (status : String) : Challenge :=
  { sampleChallenge status with type := "tls-alpn-01" }

/-- The text of an authorization with such a challenge. -/
def tlsAuthorizationText : String :=
  "\x7b\"identifier\":\x7b\"type\":\"dns\",\"value\":\"a.example\"\x7d,\"status\":\"pending\"," ++
  "\"challenges\":[" ++ tlsChallengeText "pending" ++ "]\x7d"

/-- A harness that knows these documents. -/
def tlsHarness : Harness MockDnsProvider :=
  { sampleHarness with
    lib := { strictLibraries with
      parseAuthorization := readTable
        [(tlsAuthorizationText,
          { sampleAuthorization "a.example" with challenges := [tlsChallenge "pending"] })]
      parseChallenge := readTable [(tlsChallengeText "valid", tlsChallenge "valid")] } }

/-- Its certificates are built as documented. -/
theorem tlsHarness_rcgen :
    RcgenLeaf tlsHarness.lib sampleBuilder mixedParseIp sampleCertified where
  classified := strictLibraries_rcgen.classified
  refused := strictLibraries_rcgen.refused
  written := strictLibraries_rcgen.written

/-- What is documented about its provider. -/
def tlsProviderZone : Zone tlsHarness.provider := mockZone

/-- An authority that accepts the response to a TLS-ALPN-01 challenge. -/
def tlsScript : List (Except AcmeError HttpResponse) :=
  [answering 200 "" [] directoryText, answering 200 "n0" [] "",
    answering 201 "n1" [("Location", "ca/acct/1")] "\x7b\x7d",
    answering 201 "n2" [("Location", "ca/order/1")] (orderText "pending" "a.example" ""),
    answering 200 "n3" [] tlsAuthorizationText, answering 200 "n4" [] "",
    answering 200 "n5" [] (tlsChallengeText "valid"), answering 200 "n6" [] "",
    answering 200 "n7" [] (orderText "valid" "a.example" certificateText),
    answering 200 "n8" [] "chain"]

/-- What is asked of it. -/
def tlsRequest : IssueRequest := { sampleRequest with solvers := [.tlsAlpn01] }

/-- Such a harness near the end of the calendar, where a certificate cannot be valid for a day. -/
def lateHarness : Harness MockDnsProvider :=
  { tlsHarness with
    builders := fun _ =>
      { sampleBuilder with
        nowUtc := { nanos := calendarEnd - 1, started := by decide, ended := by decide } } }

/-- What is documented about its provider. -/
def lateProviderZone : Zone lateHarness.provider := mockZone

/-- The clock has nothing to do with how its certificates are built. -/
theorem lateHarness_rcgen (build : Nat) :
    RcgenLeaf lateHarness.lib (lateHarness.builders build) mixedParseIp sampleCertified where
  classified := tlsHarness_rcgen.classified
  refused := tlsHarness_rcgen.refused
  written := tlsHarness_rcgen.written

/-- The part of an issuance that comes before its solver is armed. -/
def lateTrace : History :=
  (play tlsScript (issueCertificateWithTimeouts lateHarness.lib 2 tlsRequest)).1.take 14

/-- What is left of the servers is that a certificate was to be built. -/
def lateServers : Servers lateHarness :=
  { (Bench.fresh [] : Bench lateHarness).servers with builds := 1 }

/-- Calls that are not to a solver leave the servers of a harness alone. -/
theorem quiet_bench {trace : History} (quiet : Quiet trace) (solvers : List Adapter)
    (state : Bench harness) :
    (bench harness solvers).Admits state trace ∧
      (bench harness solvers).after state trace = state := by
  -- By induction on the trace; only the solvers' calls touch the bench.
  induction trace with
  | nil => exact ⟨trivial, rfl⟩
  | cons event later ih =>
    have rest := ih fun other member => quiet other (.tail _ member)
    have silent := quiet event (.head _)
    obtain ⟨call, answer⟩ := event
    cases call with
    | arm | selfCheck | dropReady => cases silent
    | _ => exact ⟨⟨trivial, rest.1⟩, rest.2⟩

/-- In that issuance, the solver panics. -/
theorem late_ran :
    Ran [.tlsAlpn01] (issueCertificateWithTimeouts lateHarness.lib 2 tlsRequest) (.fresh [])
      lateTrace (.error (.panic "resulting value is out of range")) lateServers := by
  have quiet : Quiet lateTrace :=
    show ∀ event ∈ lateTrace, isSolver event = false by decide +kernel
  obtain ⟨admitted, same⟩ := quiet_bench quiet [.tlsAlpn01] (Bench.fresh [] : Bench lateHarness)
  let whole := (play tlsScript (issueCertificateWithTimeouts lateHarness.lib 2 tlsRequest)).1
  let keyAuthorization := computeKeyAuthorization lateHarness.lib "tok" tlsRequest.accountKey
  -- The call that comes next is for the solver.
  have next : whole[14]?.map Event.call
      = some (Call.arm 0 (.dns "a.example") keyAuthorization) := by
    decide +kernel
  obtain ⟨⟨call, reply⟩, there, rfl⟩ := Option.map_eq_some_iff.mp next
  obtain ⟨bound, here⟩ := List.getElem?_eq_some_iff.mp there
  have split : whole = lateTrace ++ ⟨_, reply⟩ :: whole.drop 15 := by
    rw [← here, ← List.drop_eq_getElem_cons bound]
    exact (List.take_append_drop 14 whole).symm
  have run : (issueCertificateWithTimeouts lateHarness.lib 2 tlsRequest).run.Leads whole
      (.done _) := play_ends tlsScript _
  rw [split] at run
  obtain ⟨rest, leads⟩ := run.waiting
  -- The adapter panics when it is called from here.
  refine .panicked leads admitted ?_
  rw [same]
  rfl

/-- The servers go along with an issuance, and with one in which a solver panics. -/
theorem servedIssuance_provisioned :
    (servedIssuance.2 = .ok (Utf8.bytes "chain") ∧
      Provisioned (sampleProviderZone.withRcgen fun _ => strictLibraries_rcgen) sampleSolvers
        servedRequest sampleBench servedIssuance.1 servedIssuance.2
        ((bench sampleHarness sampleSolvers).after sampleBench servedIssuance.1).servers) ∧
    Provisioned (lateProviderZone.withRcgen lateHarness_rcgen) [.tlsAlpn01] tlsRequest (.fresh [])
      lateTrace (.error (.panic "resulting value is out of range")) lateServers :=
  ⟨⟨by decide +kernel, issuance_provisioned sampleProviderZone (fun _ => strictLibraries_rcgen)
      sampleSolvers rfl ⟨fun _ => rfl, rfl, rfl⟩ (fun _ => rfl)
      -- The first run comes to its end.
      (.ended (show (issueCertificateWithTimeouts sampleHarness.lib 2 _).Ends _ _ from
        play_ends _ _) (by decide +kernel))⟩,
    -- The second one ends with a panic inside the solver.
    issuance_provisioned lateProviderZone lateHarness_rcgen [.tlsAlpn01] rfl
      ⟨fun _ => rfl, rfl, rfl⟩ (fun _ => rfl) late_ran⟩

end Acme.Testing
