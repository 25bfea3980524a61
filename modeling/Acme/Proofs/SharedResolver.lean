import Acme.Proofs.SharedServer

/-! Concurrent issuances that share one TLS-ALPN-01 responder, which has room for one certificate. -/

namespace Acme.Testing

open Interaction TlsAlpn01

variable {π : Type} {harness : Harness π} {ι : Type} [DecidableEq ι]

/-- Whose response is shown after one more event. -/
def shownNext (holder : Option (ι × Posting)) : ι × Event calls → Option (ι × Posting)
  | (caller, ⟨.arm solver identifier keyAuthorization, .ok ready⟩) =>
    some (caller, ⟨ready, solver, identifier, keyAuthorization⟩)
  | (_, ⟨.dropReady _, _⟩) => none
  | _ => holder

/-- Whose response was provisioned last, unless somebody has taken one down since. -/
def holder (log : Log ι calls) : Option (ι × Posting) :=
  log.foldl shownNext none

/--
A client that offers the protocol is shown one certificate, which is for a response to which
certificates are documented.
-/
def Servers.Presents (documented : Documented harness) (servers : Servers harness)
    (posting : Posting) : Prop :=
  ∃ loaded certDer, servers.resolver.resolve (some [acmeTlsAlpnProtocol]) = some loaded ∧
    loaded.certChain = [certDer] ∧ (documented.Named posting.identifier →
      documented.Shows posting.identifier posting.keyAuthorization certDer)

/-- What is presented is for the response that is to be shown, and without one nothing is. -/
def Presented (documented : Documented harness) (shown : Option (ι × Posting))
    (servers : Servers harness) : Prop :=
  match shown with
  | some (_, posting) => servers.Presents documented posting
  | none => ∀ alpn, servers.resolver.resolve alpn = none

/-- What the responder is like when some callers have a response up, and one is shown. -/
structure Contending (documented : Documented harness) (shown : Option (ι × Posting))
    (up : ι → Option Posting) (state : Bench harness) : Prop where
  /-- Everything that is live was provisioned by the one solver. -/
  only : ∀ ready armed, state.live ready = some armed → armed = .tlsAlpn01
  presented : Presented documented shown state.servers
  /-- The response that is shown is up. -/
  held : ∀ caller posting, shown = some (caller, posting) → up caller = some posting

/-- Arming the solver loads a certificate for the response, unless it fails. -/
theorem resolver_arm (documented : Documented harness) {state : Bench harness} {solver : Nat}
    {identifier : Identifier} {keyAuthorization : String} {told : Except AcmeError Handle}
    (admitted : (bench harness [.tlsAlpn01]).Allows state
      (armed solver identifier keyAuthorization told)) :
    (∃ ready servers, told = .ok ready ∧
      servers.Presents documented ⟨ready, solver, identifier, keyAuthorization⟩ ∧
      (bench harness [.tlsAlpn01]).next state (armed solver identifier keyAuthorization told) =
        { servers
          live := fun other => if other = ready then some .tlsAlpn01 else state.live other }) ∨
    ∃ failure servers, told = .error failure ∧ servers.resolver = state.servers.resolver ∧
      (bench harness [.tlsAlpn01]).next state (armed solver identifier keyAuthorization told) =
        { state with servers } := by
  obtain ⟨⟨outcome, servers⟩, came, reply⟩ := admitted
  have arming : Bench.arming state [.tlsAlpn01] solver identifier keyAuthorization
      = some (outcome, servers) := came
  have run := arm_run state.servers identifier keyAuthorization .tlsAlpn01
  rw [arming_single arming] at run
  cases run with
  | @tlsAlpn01 responder key built read =>
    -- What was built is a documented certificate, and the client is given a handle.
    cases told with
    | error failure => cases reply
    | ok ready =>
      let loaded : CertifiedKey harness.tls := { certChain := [responder.certDer], key }
      let servers : Servers harness :=
        { state.servers with
          resolver := { slot := some loaded }
          builds := state.servers.builds + 1 }
      -- It is what the resolver hands out to the protocol from here on.
      have offered : servers.resolver.resolve (some [acmeTlsAlpnProtocol]) = some loaded := by
        simp [SwappableResolver.resolve, servers]
      refine .inl ⟨ready, servers, rfl, ⟨loaded, responder.certDer, offered, rfl,
        fun named => documented.built named built⟩, ?_⟩
      simp only [bench, arming]
      rfl
  | unbuilt stop =>
    -- A panic gives no reply, and a failure loads nothing.
    cases told with
    | ok ready => cases stop <;> cases reply
    | error failure =>
      refine .inr ⟨failure, { state.servers with builds := state.servers.builds + 1 }, rfl, rfl,
        ?_⟩
      simp only [bench, arming]

variable {documented : Documented harness} {shown : Option (ι × Posting)}
  {up : ι → Option Posting} {state : Bench harness} {caller : ι}

/-- Each call of a caller changes what is presented together with what is to be shown. -/
theorem Contending.step {event : Event calls} (contending : Contending documented shown up state)
    (allowed : postings.Allows (up caller) event)
    (admitted : (bench harness [.tlsAlpn01]).Allows state event) :
    Contending documented (shownNext shown (caller, event))
      (Function.update up caller (postings.next (up caller) event))
      ((bench harness [.tlsAlpn01]).next state event) := by
  obtain ⟨only, presented, held⟩ := contending
  -- What changes nothing for the caller changes nothing at all.
  have kept : ∀ other posting, shown = some (other, posting) →
      Function.update up caller (up caller) other = some posting := by
    rw [Function.update_eq_self]
    exact held
  obtain ⟨call, told⟩ := event
  cases call with
  | arm solver identifier keyAuthorization =>
    rcases resolver_arm documented admitted with ⟨ready, servers, rfl, presents, next⟩ |
      ⟨failure, servers, rfl, same, next⟩
    · -- The new certificate takes the place of whatever was shown.
      rw [next]
      refine ⟨fun other armed live => ?_, presents, fun other posting found => ?_⟩
      · by_cases same : other = ready
        · simpa [same] using live.symm
        · exact only other armed (by simpa [same] using live)
      · obtain ⟨rfl, rfl⟩ := Prod.mk.inj (Option.some.inj found)
        -- The holder is the caller that has just armed.
        exact Function.update_self ..
    · -- A solver that fails leaves what is shown.
      rw [next]
      refine ⟨only, ?_, kept⟩
      simp only [shownNext]
      unfold Presented Servers.Presents at presented ⊢
      rwa [same]
  | dropReady ready =>
    -- The slot is emptied, whoever provisioned what is in it.
    obtain ⟨armed, live⟩ := Option.ne_none_iff_exists'.mp admitted
    obtain rfl := only ready armed live
    have next : (bench harness [.tlsAlpn01]).next state (dropped ready) =
        { servers := { state.servers with resolver := state.servers.resolver.clear }
          live := fun other => if other = ready then none else state.live other } := by
      simp only [bench, live, ChallengeReady.drop]
    rw [next]
    refine ⟨fun other armed live => ?_, fun alpn => ?_, fun other posting found => by cases found⟩
    · by_cases same : other = ready
      · simp [same] at live
      · exact only other armed (by simpa [same] using live)
    · simp [SwappableResolver.resolve, SwappableResolver.clear]
  | _ =>
    -- No other call reaches the responder.
    exact ⟨only, presented, kept⟩

/-- How one TLS-ALPN-01 responder serves any number of issuances. -/
structure ServesOne (documented : Documented harness) (request : ι → IssueRequest)
    (start : Bench harness) (log : Log ι calls) : Prop where
  /-- The response that was provisioned last is shown, and none once one was taken down. -/
  presented : ∀ earlier later, log = earlier ++ later →
    Presented documented (holder earlier)
      ((bench harness [.tlsAlpn01]).after start (Log.events earlier)).servers
  /-- A response that is shown is up. -/
  held : ∀ earlier later caller posting, log = earlier ++ later →
    holder earlier = some (caller, posting) →
    postings.after none (Log.own earlier caller) = some posting
  /--
  When an issuance tells the authority to validate a challenge that it has picked from an
  authorization, and it was the last to provision a response, and nobody has taken one down since,
  its challenge is the one served, if certificates are documented for the identifier.
  -/
  served : ∀ earlier caller url kick reply later,
    log = earlier ++ (caller, posted url kick reply) :: later →
    Carries kick Challenge.kickPayload → ∃ authzUrl authz solver challenge token,
      Saw (Authorization.read harness.lib) (Log.own earlier caller) authzUrl authz ∧
      Arms harness.lib (request caller).solvers authz solver challenge token ∧
      challenge.url = url ∧ ∀ posting, holder earlier = some (caller, posting) →
      documented.Named authz.identifier →
      ((bench harness [.tlsAlpn01]).after start (Log.events earlier)).servers.Serves documented
        authz.identifier token (request caller).accountKey .tlsAlpn01

/--
Any number of issuances share one TLS-ALPN-01 responder, and their steps are merged in any order.
What it presents at any time is the response that was provisioned last, for as long as nobody has
taken down a response, so a certificate is never left behind. An issuance is served when its
response is that one.
-/
theorem shared_resolver_serves {fuel : ι → Nat} {request : ι → IssueRequest}
    {start : Bench harness} {log : Log ι calls} (documented : Documented harness)
    (empty : start.servers.resolver.slot = none) (unused : ∀ ready, start.live ready = none)
    (run : Interleaved (fun caller =>
      (issueCertificateWithTimeouts harness.lib (fuel caller) (request caller)).run) log)
    (admitted : (bench harness [.tlsAlpn01]).Admits start (Log.events log)) :
    ServesOne documented request start log := by
  -- At first nothing is up, and nothing is presented.
  have nothing : Contending documented none (fun _ : ι => none) start :=
    { only := fun ready armed live => by rw [unused] at live; cases live
      presented := fun alpn => by simp [SwappableResolver.resolve, empty]
      held := fun _ _ found => by cases found }
  have contending : ∀ earlier later, log = earlier ++ later →
      Contending documented (holder earlier)
        (fun caller => postings.after none (Log.own earlier caller))
        ((bench harness [.tlsAlpn01]).after start (Log.events earlier)) := by
    intro earlier later split
    subst split
    rw [Log.events_append] at admitted
    exact Log.recorded shownNext (Contending documented) Contending.step none nothing
      (issuances_paired run) (World.admits_append.mp admitted).1
  refine ⟨fun earlier later split => (contending earlier later split).presented,
    fun earlier later caller posting split => (contending earlier later split).held caller posting,
    ?_⟩
  -- At the POST of `{}` the caller's own response is up.
  intro earlier caller url kick reply later split carries
  rw [split] at run
  obtain ⟨authzUrl, authz, solver, challenge, token, ready, saw, arms, target, up⟩ :=
    issuances_announced run carries
  refine ⟨authzUrl, authz, solver, challenge, token, saw, arms, target,
    fun posting found named => ?_⟩
  obtain ⟨_, presented, held⟩ := contending earlier _ split
  -- What is shown for the caller is what it has up.
  obtain rfl := Option.some.inj ((held caller posting found).symm.trans up)
  rw [found] at presented
  obtain ⟨loaded, certDer, offered, chain, shows⟩ := presented
  exact ⟨loaded, certDer, offered, chain, shows named⟩

/-- An issuance that it answers. -/
def tlsIssuance (ready : Handle) : History × Except Stop Bytes :=
  playArmed ready tlsScript (issueCertificateWithTimeouts tlsHarness.lib 2 tlsRequest)

/-- Two such issuances: the response of one is replaced by the other's before it is looked at. -/
def contendedLog : Log Bool calls :=
  crossed 15 fun caller => (tlsIssuance (if caller then 1 else 2)).1

/-- Each of them is one of the runs of its issuance. -/
theorem contendedLog_run :
    Interleaved (fun _ : Bool =>
      (issueCertificateWithTimeouts tlsHarness.lib 2 tlsRequest).run) contendedLog := by
  intro caller
  rw [contendedLog, own_crossed]
  exact ⟨_, playArmed_ends _ tlsScript _⟩

/-- The responder goes along with both. -/
theorem contendedLog_admitted :
    (bench tlsHarness [.tlsAlpn01]).Admits (.fresh []) (Log.events contendedLog) := by
  decide +kernel

/-- The one responder serves what was provisioned last. -/
theorem contendedLog_served :
    ServesOne (tlsProviderZone.withRcgen fun _ => tlsHarness_rcgen) (fun _ : Bool => tlsRequest)
      (.fresh []) contendedLog :=
  shared_resolver_serves _ rfl (fun _ => rfl) contendedLog_run contendedLog_admitted

end Acme.Testing
