import Acme.Interaction.Shelf
import Acme.Proofs.CloudServed
import Acme.Proofs.SharedServer

/-! Concurrent issuances that share one DNS provider in memory. -/

namespace Acme.Testing

open Dns Interaction TlsAlpn01

/-- The harness for the provider in memory. -/
def mockHarness (lib : Libraries) (tls : TlsLibrary) (builders : Nat → CertBuilder)
    (debugAssertions : Bool) : Harness MockDnsProvider where
  lib := lib
  tls := tls
  builders := builders
  debugAssertions := debugAssertions
  provider := mockProvider

variable {ι : Type} [DecidableEq ι] {lib : Libraries} {tls : TlsLibrary}
  {builders : Nat → CertBuilder} {debugAssertions : Bool}

/-- A record is published under a handle that no live record has. -/
def Unclaimed (bench : Bench (mockHarness lib tls builders debugAssertions)) : Event calls → Prop
  | ⟨.arm _ identifier _, _⟩ =>
    ∀ record ∈ bench.servers.records, record.handle ≠
      mockHandle bench.servers.records.length (Dns01.recordName identifier.value)
  | _ => True

/-- The DNS-01 solver of such a harness, when no handle is given out that is in use. -/
def publisher (lib : Libraries) (tls : TlsLibrary) (builders : Nat → CertBuilder)
    (debugAssertions : Bool) :
    World calls (Bench (mockHarness lib tls builders debugAssertions)) where
  Allows state event :=
    (bench (mockHarness lib tls builders debugAssertions) [.dns01]).Allows state event ∧
      Unclaimed state event
  next := (bench (mockHarness lib tls builders debugAssertions) [.dns01]).next

/-- The record for a response. -/
def Posting.record (lib : Libraries) (posting : Posting) : String × String :=
  (Dns01.recordName posting.identifier.value,
    b64url (lib.sha256 (Utf8.bytes posting.keyAuthorization)).val)

/-- What is published for those who armed the solver. -/
def shelf (records : MockDnsProvider) : ChallengeReady → Option (String × String)
  | .dns01 handle =>
    (records.find? fun record => record.handle = handle.id).map fun record =>
      (record.name, record.value)
  | .http01 _ | .tlsAlpn01 => none

/-- What is on the shelf is published. -/
theorem mem_snapshot {records : MockDnsProvider} {armed : ChallengeReady}
    {content : String × String} (mapped : shelf records armed = some content) :
    content ∈ records.snapshot := by
  cases armed with
  -- These have no record on the shelf.
  | http01 | tlsAlpn01 => cases mapped
  | dns01 handle =>
    obtain ⟨record, found, rfl⟩ := Option.map_eq_some_iff.mp mapped
    exact List.mem_map.mpr ⟨record, List.mem_of_find?_eq_some found, rfl⟩

/-- When nothing is on the shelf, nothing is published. -/
theorem eq_nil_of_shelf {records : MockDnsProvider}
    (empty : ∀ armed, shelf records armed = none) : records = [] := by
  cases records with
  | nil => rfl
  | cons record rest =>
    -- The record would be found under its own handle.
    have missing := empty (.dns01 ⟨record.handle⟩)
    simp [shelf] at missing

/-- A record with a new handle is put on the shelf. -/
theorem shelf_upsert {records : MockDnsProvider} {name value : String} {handle : String}
    (fresh : ∀ record ∈ records, record.handle ≠ handle) :
    shelf (records ++ [⟨name, value, handle⟩]) =
      Function.update (shelf records) (.dns01 ⟨handle⟩) (some (name, value)) := by
  funext armed
  by_cases same : armed = .dns01 ⟨handle⟩
  · subst same
    -- Under the new handle there was nothing.
    have missing : records.find? (fun record => record.handle = handle) = none := by
      simpa using fresh
    simp [shelf, List.find?_append, missing]
  · rw [Function.update_of_ne same]
    cases armed with
    | http01 | tlsAlpn01 => rfl
    | dns01 other =>
      -- Under any other handle nothing changes.
      have unlike : handle ≠ other.id := by
        intro alike
        subst alike
        exact same rfl
      simp [shelf, List.find?_append, unlike]

/-- Whatever has the handle is taken from the shelf. -/
theorem shelf_delete {records : MockDnsProvider} {handle : RecordHandle} :
    shelf (records.deleteTxt handle).2 =
      Function.update (shelf records) (.dns01 handle) none := by
  funext armed
  by_cases same : armed = .dns01 handle
  · -- All records with the handle are removed.
    subst same
    rw [Function.update_self]
    simp [shelf, MockDnsProvider.deleteTxt]
  · rw [Function.update_of_ne same]
    cases armed with
    -- Only records are on this shelf.
    | http01 | tlsAlpn01 => rfl
    | dns01 other =>
      -- A record under another handle is found as before.
      have unlike : other.id ≠ handle.id := by
        intro alike
        cases other
        cases handle
        subst alike
        exact same rfl
      simp only [shelf, MockDnsProvider.deleteTxt, List.find?_filter]
      congr 2
      funext record
      by_cases own : record.handle = other.id
      · simp [own, unlike]
      · simp [own]

variable {up : ι → Option Posting} {caller : ι}
  {state : Bench (mockHarness lib tls builders debugAssertions)}

/-- Arming the solver publishes the record under a handle that was not in use. -/
theorem publisher_arm {solver : Nat} {identifier : Identifier} {keyAuthorization : String}
    {told : Except AcmeError Handle}
    (admitted : (publisher lib tls builders debugAssertions).Allows state
      (armed solver identifier keyAuthorization told)) :
    ∃ ready handle servers, told = .ok ready ∧ state.live ready = none ∧
      shelf state.servers.records (.dns01 handle) = none ∧
      shelf servers.records = Function.update (shelf state.servers.records) (.dns01 handle)
        (some (Posting.record lib ⟨ready, solver, identifier, keyAuthorization⟩)) ∧
      (publisher lib tls builders debugAssertions).next state
          (armed solver identifier keyAuthorization told) =
        { servers, live := Function.update state.live ready (some (.dns01 handle)) } := by
  obtain ⟨⟨⟨outcome, servers⟩, came, reply⟩, unclaimed⟩ := admitted
  have arming : Bench.arming state [.dns01] solver identifier keyAuthorization
      = some (outcome, servers) := came
  -- The single solver is the one for DNS.
  have run := arm_run state.servers identifier keyAuthorization .dns01
  rw [arming_single arming] at run
  cases run with
  | @dns01 handle records upserted =>
    cases told with
    | error failure => cases reply
    | ok ready =>
      -- The provider counts the live records.
      obtain ⟨given, rfl⟩ := Prod.mk.inj upserted
      obtain rfl := Except.ok.inj given
      let name := Dns01.recordName identifier.value
      let value := b64url (lib.sha256 (Utf8.bytes keyAuthorization)).val
      let handle := mockHandle state.servers.records.length name
      -- No live record has the new handle, as the publisher asks for.
      have fresh : ∀ record ∈ state.servers.records, record.handle ≠ handle := unclaimed
      refine ⟨ready, ⟨handle⟩,
        { state.servers with records := state.servers.records ++ [⟨name, value, handle⟩] }, rfl,
        reply, ?_, shelf_upsert fresh, ?_⟩
      · simpa [shelf] using fresh
      · simp only [publisher, bench, arming]
        congr 1
        funext other
        rw [Function.update_apply]
  -- The provider refuses nothing.
  | refused upserted => cases upserted

/-- Each call of a caller keeps what is published what is up for the callers. -/
theorem published_step {event : Event calls}
    (shelved : Shelved Posting.ready (Posting.record lib) up state.live
      (shelf state.servers.records))
    (allowed : postings.Allows (up caller) event)
    (admitted : (publisher lib tls builders debugAssertions).Allows state event) :
    Shelved Posting.ready (Posting.record lib)
      (Function.update up caller (postings.next (up caller) event))
      ((publisher lib tls builders debugAssertions).next state event).live
      (shelf ((publisher lib tls builders debugAssertions).next state event).servers.records) := by
  obtain ⟨call, told⟩ := event
  cases call with
  | arm solver identifier keyAuthorization =>
    -- The solver publishes a record in a place that was free.
    obtain ⟨ready, handle, servers, rfl, unused, free, put, next⟩ := publisher_arm admitted
    rw [next, put]
    have idle : up caller = none := allowed
    let posting : Posting := ⟨ready, solver, identifier, keyAuthorization⟩
    exact shelved.insert idle (show state.live posting.ready = none from unused) free
  | dropReady ready =>
    -- A caller drops the handle of its own response only.
    cases held : up caller with
    | none =>
      rw [held] at allowed
      cases allowed
    | some posting =>
      rw [held] at allowed
      obtain rfl : posting.ready = ready := Option.some.inj allowed
      obtain ⟨key, live, mapped⟩ := shelved.kept caller posting held
      cases key with
      -- The response is a record, as the other kinds are never on the shelf.
      | http01 | tlsAlpn01 => cases mapped
      | dns01 handle =>
        have next : (publisher lib tls builders debugAssertions).next state
              (dropped posting.ready) =
            { servers :=
                { state.servers with records := (state.servers.records.deleteTxt handle).2 }
              live := Function.update state.live posting.ready none } := by
          simp only [publisher, bench, live, ChallengeReady.drop]
          congr 1
          funext other
          rw [Function.update_apply]
        -- Its record goes, and the others stay.
        rw [next, shelf_delete]
        exact shelved.remove held live
  | _ =>
    -- What changes nothing for the caller changes nothing at all.
    show Shelved _ _ (Function.update up caller (up caller)) _ _
    rw [Function.update_eq_self]
    exact shelved

/-- How one provider in memory serves any number of issuances. -/
structure PublishesAll (lib : Libraries) (tls : TlsLibrary) (builders : Nat → CertBuilder)
    (debugAssertions : Bool) (request : ι → IssueRequest)
    (start : Bench (mockHarness lib tls builders debugAssertions)) (log : Log ι calls) : Prop where
  /--
  Whenever an issuance tells the authority to validate a challenge, the challenge was picked from
  an authorization that it has fetched, and its record is published.
  -/
  published : ∀ earlier caller url kick reply later,
    log = earlier ++ (caller, posted url kick reply) :: later →
    Carries kick Challenge.kickPayload → ∃ authzUrl authz solver challenge token,
      Saw (Authorization.read lib) (Log.own earlier caller) authzUrl authz ∧
      Arms lib (request caller).solvers authz solver challenge token ∧
      challenge.url = url ∧
      (Dns01.recordName authz.identifier.value,
          Dns01.recordValue lib token (request caller).accountKey) ∈
        ((publisher lib tls builders debugAssertions).after start
          (Log.events earlier)).servers.records.snapshot
  /-- Whenever no issuance has a response up, nothing is published. -/
  idle : ∀ earlier later, log = earlier ++ later →
    (∀ caller, postings.after none (Log.own earlier caller) = none) →
    ((publisher lib tls builders debugAssertions).after start
      (Log.events earlier)).servers.records = []

/--
Any number of issuances share one DNS provider in memory, and their steps are merged in any order.
As long as no handle is given out while it is in use, none of them removes what is published for
another, and nothing is left when they are over.
-/
theorem shared_provider_publishes {fuel : ι → Nat} {request : ι → IssueRequest}
    {start : Bench (mockHarness lib tls builders debugAssertions)} {log : Log ι calls}
    (nothing : start.servers.records = [])
    (run : Interleaved (fun caller =>
      (issueCertificateWithTimeouts lib (fuel caller) (request caller)).run) log)
    (admitted : (publisher lib tls builders debugAssertions).Admits start (Log.events log)) :
    PublishesAll lib tls builders debugAssertions request start log := by
  -- At the start there is no record.
  have bare : ∀ key, shelf start.servers.records key = none := by
    rw [nothing]
    intro key
    cases key <;> rfl
  have idle : Shelved Posting.ready (Posting.record lib) (fun _ : ι => none) start.live
      (shelf start.servers.records) :=
    { kept := fun _ _ held => by cases held
      apart := fun _ _ _ _ _ held => by cases held
      only := fun key content mapped => by rw [bare] at mapped; cases mapped }
  -- At any time, what is up for the callers is what is published.
  have shelved : ∀ earlier later, log = earlier ++ later →
      Shelved Posting.ready (Posting.record lib)
        (fun caller => postings.after none (Log.own earlier caller))
        ((publisher lib tls builders debugAssertions).after start (Log.events earlier)).live
        (shelf ((publisher lib tls builders debugAssertions).after start
          (Log.events earlier)).servers.records) := by
    intro earlier later split
    subst split
    rw [Log.events_append] at admitted
    exact Log.related
      (fun up (state : Bench (mockHarness lib tls builders debugAssertions)) =>
        Shelved Posting.ready (Posting.record lib) up state.live (shelf state.servers.records))
      published_step idle (issuances_paired run) (World.admits_append.mp admitted).1
  constructor
  · -- The caller has armed, so its record is published.
    intro earlier caller url kick reply later split carries
    rw [split] at run
    obtain ⟨authzUrl, authz, solver, challenge, token, ready, saw, arms, target, up⟩ :=
      issuances_announced run carries
    obtain ⟨key, _, mapped⟩ := (shelved earlier _ split).kept caller _ up
    exact ⟨authzUrl, authz, solver, challenge, token, saw, arms, target, mem_snapshot mapped⟩
  · -- With nothing up there is nothing on the shelf.
    intro earlier later split silent
    apply eq_nil_of_shelf
    intro key
    cases mapped : shelf ((publisher lib tls builders debugAssertions).after start
        (Log.events earlier)).servers.records key with
    | none => rfl
    | some content =>
      -- Whatever is published is up for some caller.
      obtain ⟨caller, posting, held, _⟩ := (shelved earlier later split).only key content mapped
      cases (silent caller).symm.trans held

instance (state : Bench (mockHarness lib tls builders debugAssertions)) :
    (event : Event calls) → Decidable (Unclaimed state event)
  | ⟨.arm _ identifier _, _⟩ =>
    inferInstanceAs (Decidable (∀ record ∈ state.servers.records, record.handle ≠
      mockHandle state.servers.records.length (Dns01.recordName identifier.value)))
  | ⟨.head _, _⟩ | ⟨.get _, _⟩ | ⟨.postJose _ _, _⟩ | ⟨.popFront, _⟩ | ⟨.pushBack _, _⟩
  | ⟨.isEmpty, _⟩ | ⟨.clear, _⟩ | ⟨.selfCheck _, _⟩ | ⟨.dropReady _, _⟩ | ⟨.now, _⟩
  | ⟨.sleep _, _⟩ => .isTrue trivial

instance (state : Bench (mockHarness lib tls builders debugAssertions)) (event : Event calls) :
    Decidable ((publisher lib tls builders debugAssertions).Allows state event) :=
  inferInstanceAs (Decidable (_ ∧ _))

/-- Two issuances for one name: the record of one is published beside the other's. -/
def besideLog : Log Bool calls :=
  crossed 15 fun caller =>
    (playArmed (if caller then 1 else 2) dnsScript
      (issueCertificateWithTimeouts dnsLibraries 2 dnsRequest)).1

/-- Each of them is one of the runs of its issuance. -/
theorem besideLog_run :
    Interleaved (fun _ : Bool => (issueCertificateWithTimeouts dnsLibraries 2 dnsRequest).run)
      besideLog := by
  intro caller
  -- Its own calls are those of the issuance on its own.
  rw [besideLog, own_crossed]
  exact ⟨_, playArmed_ends _ dnsScript _⟩

/-- The provider never gives out a handle that is in use. -/
theorem besideLog_admitted :
    (publisher dnsLibraries ⟨Unit, fun _ => .ok ()⟩ (fun _ => sampleBuilder) true).Admits
      (.fresh []) (Log.events besideLog) := by
  decide +kernel

/-- The records of both are there when they are looked at. -/
theorem besideLog_published :
    PublishesAll dnsLibraries ⟨Unit, fun _ => .ok ()⟩ (fun _ => sampleBuilder) true
      (fun _ : Bool => dnsRequest) (.fresh []) besideLog :=
  shared_provider_publishes rfl besideLog_run besideLog_admitted

end Acme.Testing
