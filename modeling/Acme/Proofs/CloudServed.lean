import Acme.Proofs.CloudZones
import Acme.Proofs.Served

/-! DNS-01 challenges that are answered through Cloudflare. -/

namespace Acme.Testing

open Cloudflare Dns Interaction

variable {wire : Wire} {provider : CloudflareProvider} {start : CloudStore} {answer : Service}

/--
A record was published for a name, in the zone of that name, and beside it the store is as it
was at first.
-/
def PublishedAlone (wire : Wire) (provider : CloudflareProvider) (start : CloudStore)
    (history : Trace Cloudflare.calls) (name value : String) : Prop :=
  ∃ record ttlSeconds, record.body = createTxtRequest name value ttlSeconds ∧
    ZoneOf wire provider start history name record.zone ∧ record ∉ start.live ∧
    (storeAfter wire provider start history).live = start.live ++ [record]

/-- Publishing a record appends its calls to what happened before. -/
theorem upsert_ends (backed : Backed wire provider start answer)
    {history published : Trace Cloudflare.calls} {name value : String} {ttlSeconds : UInt32}
    {outcome : Except DnsProviderError RecordHandle}
    (upserted : (cloudflareProvider wire provider answer).upsertTxt history name value ttlSeconds
      = (outcome, published)) :
    ∃ trace, published = history ++ trace ∧
      (upsertTxt wire provider name value ttlSeconds).Ends trace outcome ∧
      (cloud wire provider.apiBase).Admits (storeAfter wire provider start history) trace := by
  -- The answers come from the service, so the store admits them one after the other.
  obtain ⟨rfl, rfl⟩ := Prod.mk.inj upserted
  exact ⟨_, rfl, Program.play_returns answer _ history, World.play_admits backed _ history⟩

/-- So does removing one. -/
theorem delete_ends (backed : Backed wire provider start answer)
    (history : Trace Cloudflare.calls) (handle : RecordHandle) :
    ∃ trace outcome,
      ((cloudflareProvider wire provider answer).deleteTxt history handle).2 = history ++ trace ∧
      (deleteTxt wire provider handle).Ends trace outcome ∧
      (cloud wire provider.apiBase).Admits (storeAfter wire provider start history) trace :=
  ⟨_, _, rfl, Program.play_returns answer _ history, World.play_admits backed _ history⟩

/-- The records are those that were there at first, and it is known where the zones come from. -/
structure Untouched (wire : Wire) (provider : CloudflareProvider) (start : CloudStore)
    (history : Trace Cloudflare.calls) : Prop where
  records : (storeAfter wire provider start history).live = start.live
  zones : Grounded wire provider start history

/-- What publishing does, when it succeeds from a store that is as it was at first. -/
theorem published_alone (plain : provider.Plain) (backed : Backed wire provider start answer)
    {history published : Trace Cloudflare.calls} {name value : String} {ttlSeconds : UInt32}
    {handle : RecordHandle} (untouched : Untouched wire provider start history)
    (upserted : (cloudflareProvider wire provider answer).upsertTxt history name value ttlSeconds
      = (.ok handle, published)) :
    ∃ record, record.body = createTxtRequest name value ttlSeconds ∧
      ZoneOf wire provider start published name record.zone ∧ record ∉ start.live ∧
      handle = record.handle ∧
      (storeAfter wire provider start published).live = start.live ++ [record] ∧
      Cloudflare.Settled record.key (· = record) (storeAfter wire provider start published) ∧
      Grounded wire provider start published := by
  obtain ⟨bare, grounded⟩ := untouched
  obtain ⟨trace, rfl, ends, admits⟩ := upsert_ends backed upserted
  -- The calls were those of one publication, which has added a record with a new key.
  obtain ⟨record, body, fresh, same, live, issued, zoned⟩ :=
    upsert_zoned plain grounded ends admits
  -- It is none of the first records, as all of those have keys that were given out.
  have new : record ∉ start.live := by
    intro member
    rw [← bare] at member
    exact fresh ((storeAfter wire provider start history).known record member)
  refine ⟨record, body, zoned, new, same, by rw [live, bare], ⟨?_, ?_⟩,
    upsert_grounded grounded ends admits⟩
  · -- Its key has been given out from now on.
    rw [issued]
    exact List.mem_append_right _ List.mem_cons_self
  · -- No other record has that key.
    intro other member key
    rw [live] at member
    rcases List.mem_append.mp member with old | added
    · -- The key was not given out before.
      exact absurd (key ▸ (storeAfter wire provider start history).known other old) fresh
    · exact List.mem_singleton.mp added

/-- What is published through Cloudflare is in the store until it is removed. -/
def cloudZone (plain : provider.Plain) (backed : Backed wire provider start answer) :
    Zone (cloudflareProvider wire provider answer) where
  Bare := Untouched wire provider start
  Answers := PublishedAlone wire provider start
  -- What has been published is the only addition.
  published untouched upserted := by
    obtain ⟨record, body, zoned, new, _, live, _⟩ :=
      published_alone plain backed untouched upserted
    exact ⟨record, _, body, zoned, new, live⟩
  -- When publishing fails, there is nothing to take back.
  refused untouched upserted := by
    obtain ⟨trace, rfl, ends, admits⟩ := upsert_ends backed upserted
    refine ⟨?_, upsert_grounded untouched.zones ends admits⟩
    -- A call that fails has changed no record.
    rcases upsert_run plain ends admits with ⟨same, _⟩ | ⟨_, _, _, came, _⟩
    · rw [storeAfter_append]
      exact same.1.trans untouched.records
    · cases came
  -- Deleting what was just published restores the records.
  deleted untouched upserted := by
    obtain ⟨record, _, _, new, rfl, live, settled, grounded⟩ :=
      published_alone plain backed untouched upserted
    obtain ⟨trace, outcome, same, ends, admits⟩ := delete_ends backed _ record.handle
    rw [same]
    refine ⟨?_, delete_grounded grounded ends admits⟩
    obtain ⟨_, removed⟩ := delete_handle (.delete ends admits)
    rw [storeAfter_append, removed, settled.remove, live]
    -- Of all records the new one is taken away.
    have kept : start.live.filter (· ≠ record) = start.live :=
      List.filter_eq_self.mpr fun other member => decide_eq_true fun same => new (same ▸ member)
    rw [List.filter_append, kept]
    simp

/-- A harness that publishes through Cloudflare. -/
def cloudHarness (lib : Libraries) (tls : TlsLibrary) (builders : Nat → CertBuilder)
    (debugAssertions : Bool) (wire : Wire) (provider : CloudflareProvider) (answer : Service) :
    Harness (Trace Cloudflare.calls) where
  lib := lib
  tls := tls
  builders := builders
  debugAssertions := debugAssertions
  provider := cloudflareProvider wire provider answer

section Issuance

variable (lib : Libraries) (tls : TlsLibrary) (builders : Nat → CertBuilder)
  (debugAssertions : Bool) (wire : Wire) (provider : CloudflareProvider) (start : CloudStore)
  (answer : Service)

/-- What the service was asked in a part of an issuance with some of the solvers. -/
def askedDuring (solvers : List Adapter) (history : History) : Trace Cloudflare.calls :=
  ((bench (cloudHarness lib tls builders debugAssertions wire provider answer) solvers).after
    (.fresh []) history).servers.records

/-- How the records of the service go along with an issuance that uses some of the solvers. -/
structure PublishedInTime (solvers : List Adapter) (request : IssueRequest) (trace : History)
    (outcome : Except Stop Bytes)
    (left : Servers (cloudHarness lib tls builders debugAssertions wire provider answer)) :
    Prop where
  /--
  Whenever the authority is told to validate a challenge, and it is one for DNS-01, there is a
  record for it in the zone of its name, and the other records are those that were there at first.
  -/
  published : ∀ before url kick reply after, trace = before ++ posted url kick reply :: after →
    Carries kick Challenge.kickPayload → ∃ authzUrl authz solver challenge token,
      Saw (Authorization.read lib) before authzUrl authz ∧
      Arms lib request.solvers authz solver challenge token ∧ challenge.url = url ∧
      (challenge.kind = .dns01 → PublishedAlone wire provider start
        (askedDuring lib tls builders debugAssertions wire provider answer solvers before)
        (Dns01.recordName authz.identifier.value)
        (Dns01.recordValue lib token request.accountKey))
  /-- Whenever no response is up, the records are those that were there at first. -/
  bare : ∀ before after, trace = before ++ after → postings.after none before = none →
    (storeAfter wire provider start
      (askedDuring lib tls builders debugAssertions wire provider answer solvers before)).live
      = start.live
  /-- So they are when the issuance is over, in whatever way it has ended. -/
  ended : outcome ≠ .error .unfinished →
    (storeAfter wire provider start left.records).live = start.live

end Issuance

/--
Whatever the authority answers, an issuance whose DNS-01 challenges are answered through
Cloudflare tells the authority to validate one only while its record is published in the zone
that its name was resolved to, and leaves the records of the service as they were. The other
solvers of the harness may be used beside it.
-/
theorem issuance_over_cloudflare {lib : Libraries} {tls : TlsLibrary}
    {builders : Nat → CertBuilder} {debugAssertions : Bool} (plain : provider.Plain)
    (backed : Backed wire provider start answer) (solvers : List Adapter) {fuel : Nat}
    {request : IssueRequest} {trace : History} {outcome : Except Stop Bytes}
    {left : Servers (cloudHarness lib tls builders debugAssertions wire provider answer)}
    (fitting : request.solvers = solvers.map Adapter.kind)
    (run : Ran solvers (issueCertificateWithTimeouts lib fuel request) (.fresh []) trace outcome
      left) :
    PublishedInTime lib tls builders debugAssertions wire provider start answer solvers request
      trace outcome left := by
  -- Nothing is said about certificates, which the DNS-01 solver does not need.
  let documented : Documented
      (cloudHarness lib tls builders debugAssertions wire provider answer) :=
    { cloudZone plain backed with
      Named := fun _ => True
      Shows := fun _ _ _ => True
      built := fun _ _ => trivial }
  -- Before the issuance the records are the first ones, and no zone has been asked for.
  have idle : (Bench.fresh [] : Bench (cloudHarness lib tls builders debugAssertions wire provider
      answer)).servers.Idle documented := ⟨fun _ => rfl, rfl, ⟨rfl, grounded_nil⟩⟩
  -- What holds of every documented harness is said here of the records of the service.
  obtain ⟨served, bare, ended⟩ := provisioned_of_ran documented solvers fitting idle
    (fun _ => rfl) run
  refine ⟨?_, fun before after split none => (bare before after split none).records.records,
    fun whole => (ended whole).records.records⟩
  intro before url kick reply after split carries
  obtain ⟨authzUrl, authz, solver, challenge, token, adapter, saw, arms, target, chosen, kind,
    serves⟩ := served before url kick reply after split carries
  refine ⟨authzUrl, authz, solver, challenge, token, saw, arms, target, fun dns => ?_⟩
  -- The solver is the one for DNS-01, which demands nothing of a challenge.
  rw [dns] at kind
  cases adapter with
  | http01 | tlsAlpn01 => cases kind
  | dns01 => exact serves trivial

/-- The text of a DNS-01 challenge in some state. -/
def dnsChallengeText (status : String) : String :=
  "\x7b\"type\":\"dns-01\",\"url\":\"ca/chall/1\",\"status\":\"" ++ status ++
  "\",\"token\":\"tok\"\x7d"

/-- The challenge in such a text. -/
def dnsChallenge (status : String) : Challenge :=
  { sampleChallenge status with type := "dns-01" }

/-- The text of an authorization with such a challenge. -/
def dnsAuthorizationText : String :=
  "\x7b\"identifier\":\x7b\"type\":\"dns\",\"value\":\"a.example\"\x7d,\"status\":\"pending\"," ++
  "\"challenges\":[" ++ dnsChallengeText "pending" ++ "]\x7d"

/-- Libraries that know these documents. -/
def dnsLibraries : Libraries :=
  { sampleLibraries with
    parseAuthorization := readTable
      [(dnsAuthorizationText,
        { sampleAuthorization "a.example" with challenges := [dnsChallenge "pending"] })]
    parseChallenge := readTable [(dnsChallengeText "valid", dnsChallenge "valid")] }

/-- An authority that validates a DNS-01 challenge and issues the certificate. -/
def dnsScript : List (Except AcmeError HttpResponse) :=
  [answering 200 "" [] directoryText, answering 200 "n0" [] "",
    answering 201 "n1" [("Location", "ca/acct/1")] "\x7b\x7d",
    answering 201 "n2" [("Location", "ca/order/1")] (orderText "pending" "a.example" ""),
    answering 200 "n3" [] dnsAuthorizationText, answering 200 "n4" [] "",
    answering 200 "n5" [] (dnsChallengeText "valid"), answering 200 "n6" [] "",
    answering 200 "n7" [] (orderText "valid" "a.example" certificateText),
    answering 200 "n8" [] "chain"]

/-- What is asked of it. -/
def dnsRequest : IssueRequest := { sampleRequest with solvers := [.dns01] }

/-- The same for a client that has another solver as well. -/
def eitherRequest : IssueRequest := { sampleRequest with solvers := [.http01, .dns01] }

/-- The issuance that it answers. -/
def dnsIssuance : History × Except Stop Bytes :=
  play dnsScript (issueCertificateWithTimeouts dnsLibraries 2 eitherRequest)

/-- A provider that asks the service for the zone of a name. -/
def dnsProvider : CloudflareProvider := .new "test-token" .byName

/-- It has no map. -/
theorem dnsProvider_plain : dnsProvider.Plain := by
  intro zones static
  -- It was made to ask for each name.
  cases static

/-- What it leaves on the servers of the harness. -/
def dnsServers : Servers (cloudHarness dnsLibraries sampleTls (fun _ => TlsAlpn01.sampleBuilder)
    true storeWire dnsProvider (storeService dnsProvider otherStore)) :=
  ((bench (cloudHarness dnsLibraries sampleTls (fun _ => TlsAlpn01.sampleBuilder) true storeWire
    dnsProvider (storeService dnsProvider otherStore)) [.http01, .dns01]).after (.fresh [])
    dnsIssuance.1).servers

/-- What the harness is told in that issuance comes from its servers. -/
theorem dnsIssuance_admitted :
    (bench (cloudHarness dnsLibraries sampleTls (fun _ => TlsAlpn01.sampleBuilder) true storeWire
      dnsProvider (storeService dnsProvider otherStore)) [.http01, .dns01]).Admits (.fresh [])
      dnsIssuance.1 := by
  decide +kernel

/-- Its record is published in time. -/
theorem dnsIssuance_published :
    dnsIssuance.2 = .ok (Utf8.bytes "chain") ∧
      PublishedInTime dnsLibraries sampleTls (fun _ => TlsAlpn01.sampleBuilder) true storeWire
        dnsProvider otherStore (storeService dnsProvider otherStore) [.http01, .dns01]
        eitherRequest dnsIssuance.1 dnsIssuance.2 dnsServers :=
  ⟨by decide +kernel, issuance_over_cloudflare dnsProvider_plain
    (storeService_backed dnsProvider otherStore) [.http01, .dns01] rfl
    (.ended (play_ends _ _) dnsIssuance_admitted)⟩

end Acme.Testing
