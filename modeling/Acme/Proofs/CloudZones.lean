import Acme.Proofs.CloudRuns
import Acme.Proofs.ZoneCache

/-! Which zone the records of a name go to, and how the provider has come to know it. -/

namespace Acme.Cloudflare

open Interaction Dns

section Zones

variable (wire : Wire) (provider : CloudflareProvider)

/-- The service has named a zone for an apex: it comes first in a reply to the question for it. -/
def Named (history : Trace calls) (apex : String) (zone : ZoneId) : Prop :=
  ∃ resp zones others, ⟨zoneRequest provider apex, .ok resp⟩ ∈ history ∧
    wire.zones resp.body = .ok zones ∧ zones.success = true ∧ zones.result = ⟨zone.text⟩ :: others

/-- The zone of a name: the map has it, or it was remembered at first, or the service named it. -/
def ZoneOf (start : CloudStore) (history : Trace calls) (name : String) (zone : ZoneId) : Prop :=
  match provider.lookup with
  | .static zones => zones.lookup (apexFromRecordName name) = some zone.text
  | .byName => start.cache.lookup (apexFromRecordName name) = some zone ∨
      Named wire provider history (apexFromRecordName name) zone

/-- Whatever zone is remembered was remembered at first, or the service has named it. -/
def Grounded (start : CloudStore) (history : Trace calls) : Prop :=
  ∀ apex zone, (storeAfter wire provider start history).cache.lookup apex = some zone →
    start.cache.lookup apex = some zone ∨ Named wire provider history apex zone

end Zones

variable {wire : Wire} {provider : CloudflareProvider} {start : CloudStore}
  {history later : Trace calls} {apex name : String} {zone : ZoneId}

/-- What the service has named stays named. -/
theorem Named.append (named : Named wire provider history apex zone) (later : Trace calls) :
    Named wire provider (history ++ later) apex zone := by
  obtain ⟨resp, zones, others, asked, read, success, listed⟩ := named
  exact ⟨resp, zones, others, List.mem_append_left _ asked, read, success, listed⟩

/-- The zone of a name stays its zone. -/
theorem ZoneOf.append (found : ZoneOf wire provider start history name zone)
    (later : Trace calls) : ZoneOf wire provider start (history ++ later) name zone := by
  unfold ZoneOf at found ⊢
  cases way : provider.lookup with
  -- The map does not depend on what has happened.
  | static zones =>
    rw [way] at found
    exact found
  -- A zone that was named stays named.
  | byName =>
    rw [way] at found
    exact found.imp_right fun named => named.append later

/-- At first there is nothing but what is remembered. -/
theorem grounded_nil : Grounded wire provider start [] :=
  fun _ _ remembered => .inl remembered

/-- Calls that leave the cache alone leave nothing to be explained. -/
theorem Grounded.append (grounded : Grounded wire provider start history)
    (same : (storeAfter wire provider start (history ++ later)).cache
      = (storeAfter wire provider start history).cache) :
    Grounded wire provider start (history ++ later) := by
  intro apex zone remembered
  -- Nothing new is remembered.
  rw [same] at remembered
  exact (grounded apex zone remembered).imp_right fun named => named.append later

/-- A request does not reach the cache. -/
theorem updated_cache (store : CloudStore) (body : Bytes)
    (reply : Except TransportError HttpResponse) (wanted : StoreRequest) :
    (store.updated wire body reply wanted).cache = store.cache := by
  -- A request concerns the records, and the cache belongs to the provider.
  cases wanted with
  | create zone =>
    unfold CloudStore.updated
    cases createdId wire reply with
    | none => rfl
    | some id => rfl
  | remove | other => rfl

/-- After one more request, what is remembered is explained as before. -/
theorem Grounded.request {method : HttpMethod} {url : String} {body : Bytes}
    {headers : List (String × String)} {reply : Except TransportError HttpResponse}
    (grounded : Grounded wire provider start history) :
    Grounded wire provider start (history ++ [⟨.request method url body headers, reply⟩]) := by
  refine grounded.append ?_
  rw [storeAfter_append]
  exact updated_cache _ _ _ _

/-- A zone that a reply gives is the first one that it lists. -/
theorem listed_of_readZone {id : String} {reply : Except TransportError HttpResponse}
    (read : readZone wire apex reply = .ok id) :
    ∃ resp zones others, reply = .ok resp ∧ wire.zones resp.body = .ok zones ∧
      zones.success = true ∧ zones.result = ⟨id⟩ :: others := by
  -- The reply is a response that can be read and says that the request was carried out.
  cases reply with
  -- Without a response there is no zone.
  | error failure => cases read
  | ok resp =>
    cases known : wire.zones resp.body with
    | error failure =>
      simp [readZone, ofTransport, ofSerde, known, Except.mapError, bind, Except.bind] at read
    | ok zones =>
      simp only [readZone, ofTransport, ofSerde, known, Except.mapError, bind, Except.bind,
        firstZone] at read
      -- Its list of zones is not empty, and the first of them is taken.
      split at read
      · cases read
      · rename_i success
        split at read
        · cases read
        · rename_i zone others listed
          cases read
          exact ⟨resp, zones, others, rfl, known, by simpa using success, listed⟩

/-- A zone that the service has named may be remembered. -/
theorem Grounded.insert {id : String} (grounded : Grounded wire provider start history)
    (named : ∀ zone : ZoneId, zone.text = id → Named wire provider history apex zone) :
    Grounded wire provider start (history ++ [⟨.cacheInsert apex id, ()⟩]) := by
  intro other zone known
  rw [storeAfter_append] at known
  change (if plain : '/' ∉ id.toList then
      (storeAfter wire provider start history).remember apex ⟨id, plain⟩
    else storeAfter wire provider start history).cache.lookup other = some zone at known
  -- An identifier that is not one segment of a path is not remembered.
  split at known
  · rename_i plain
    rw [CloudStore.remember, List.lookup_cons] at known
    -- The apex itself is remembered as it was named.
    by_cases same : other = apex
    · subst same
      simp only [BEq.rfl] at known
      obtain rfl := Option.some.inj known
      exact .inr ((named _ rfl).append _)
    · -- What is remembered for other apexes is left as it is.
      rw [beq_false_of_ne same] at known
      exact (grounded other zone known).imp_right fun named => named.append _
  · exact (grounded other zone known).imp_right fun named => named.append _

/-- What is remembered after a zone was asked for is that zone, which the service has named. -/
theorem fetch_grounded {trace : Trace calls} {outcome : Except CloudflareError String}
    (grounded : Grounded wire provider start history)
    (ends : (fetchZoneId wire provider apex).Ends trace outcome) :
    Grounded wire provider start (history ++ trace) ∧
      ∀ zone : ZoneId, outcome = .ok zone.text →
        Named wire provider (history ++ trace) apex zone := by
  obtain ⟨reply, read, remembered, rfl, ended⟩ := fetch_trace ends
  -- The reply to the question is what the outcome comes from.
  have named : ∀ zone : ZoneId, outcome = .ok zone.text →
      Named wire provider (history ++ [⟨zoneRequest provider apex, reply⟩]) apex zone := by
    intro zone found
    obtain ⟨resp, zones, others, rfl, known, success, listed⟩ :=
      listed_of_readZone (read.symm.trans found)
    exact ⟨resp, zones, others, List.mem_append_right _ List.mem_cons_self, known, success, listed⟩
  -- A zone that was found is remembered, and a failure is not.
  rcases ended with ⟨id, found, rfl⟩ | ⟨failure, _, rfl⟩
  · rw [List.append_cons]
    refine ⟨grounded.request.insert fun zone text => named zone (text ▸ found), fun zone ended => ?_⟩
    exact (named zone ended).append _
  · exact ⟨grounded.request, named⟩

/-- A name is resolved to its zone. -/
theorem resolve_grounded {trace : Trace calls} {outcome : Except CloudflareError String}
    (grounded : Grounded wire provider start history)
    (ends : (resolveZoneId wire provider name).Ends trace outcome)
    (admits : (cloud wire provider.apiBase).Admits (storeAfter wire provider start history) trace) :
    Grounded wire provider start (history ++ trace) ∧
      ∀ zone : ZoneId, outcome = .ok zone.text →
        ZoneOf wire provider start (history ++ trace) name zone := by
  unfold resolveZoneId at ends
  unfold ZoneOf
  cases way : provider.lookup with
  | static zones =>
    -- The map is all that is looked at.
    simp only [way] at ends
    obtain ⟨rfl, rfl⟩ := Fallible.ends_ofExcept.mp ends
    rw [List.append_nil]
    refine ⟨grounded, fun zone found => ?_⟩
    cases mapped : zones.lookup (apexFromRecordName name) with
    -- The name is not in the map, which is an error.
    | none =>
      rw [mapped] at found
      cases found
    | some id =>
      rw [mapped] at found
      show zones.lookup _ = _
      rw [mapped, Except.ok.inj found]
  | byName =>
    simp only [way, cacheGet, Fallible.ends_ask_bind] at ends
    obtain ⟨cached, later, rfl, ends⟩ := ends
    obtain ⟨looked, admits⟩ := World.admits_cons.mp admits
    have kept : Grounded wire provider start
        (history ++ [⟨.cacheGet (apexFromRecordName name), cached⟩]) :=
      grounded.append (by rw [storeAfter_append]; rfl)
    rw [List.append_cons]
    cases cached with
    | some id =>
      -- What is remembered was named before.
      obtain ⟨rfl, rfl⟩ := Fallible.ends_pure.mp ends
      rw [List.append_nil]
      refine ⟨kept, fun zone found => ?_⟩
      obtain ⟨other, remembered, text⟩ := Option.map_eq_some_iff.mp looked.symm
      obtain rfl : other = zone := ZoneId.ext_text (text.trans (Except.ok.inj found))
      exact (grounded _ _ remembered).imp_right fun named => named.append _
    | none =>
      -- Nothing is remembered of it, so that the service is asked.
      obtain ⟨known, named⟩ := fetch_grounded kept ends
      exact ⟨known, fun zone found => .inr (named zone found)⟩

/-- What is remembered after a record was published is explained. -/
theorem upsert_grounded {value : String} {ttlSeconds : UInt32} {trace : Trace calls}
    {outcome : Except DnsProviderError RecordHandle}
    (grounded : Grounded wire provider start history)
    (ends : (upsertTxt wire provider name value ttlSeconds).Ends trace outcome)
    (admits : (cloud wire provider.apiBase).Admits (storeAfter wire provider start history) trace) :
    Grounded wire provider start (history ++ trace) := by
  unfold upsertTxt at ends
  rcases Fallible.ends_bind.mp ends with
    ⟨zoneId, earlier, later, rfl, resolved, asks⟩ | ⟨failure, resolved, rfl⟩
  · -- First the zone is resolved, by requests that keep the cache grounded.
    obtain ⟨original, resolved, _⟩ := Fallible.ends_reporting.mp resolved
    have known := (resolve_grounded grounded resolved (World.admits_append.mp admits).1).1
    -- One request follows, and what is made of its reply.
    simp only [Fallible.ends_ask_bind] at asks
    obtain ⟨reply, last, rfl, reads⟩ := asks
    -- Reading the reply makes no further calls, however it fails.
    obtain rfl : last = [] := by
      cases reply with
      | error failure => exact reads.1
      | ok resp =>
        simp only [flatten, ofTransport, Except.mapError, Fallible.ends_ofExcept_bind] at reads
        split at reads
        · split at reads
          · exact (Fallible.ends_pure.mp reads).1
          · exact reads.1
        · exact reads.1
    rw [← List.append_assoc]
    exact known.request
  · obtain ⟨original, resolved, _⟩ := Fallible.ends_reporting.mp resolved
    exact (resolve_grounded grounded resolved admits).1

/-- A record that was published is in the zone of its name. -/
theorem upsert_zoned {value : String} {ttlSeconds : UInt32} {trace : Trace calls}
    {handle : RecordHandle} (plain : provider.Plain)
    (grounded : Grounded wire provider start history)
    (ends : (upsertTxt wire provider name value ttlSeconds).Ends trace (.ok handle))
    (admits : (cloud wire provider.apiBase).Admits (storeAfter wire provider start history) trace) :
    ∃ record, record.body = createTxtRequest name value ttlSeconds ∧
      record.key ∉ (storeAfter wire provider start history).issued ∧ handle = record.handle ∧
      (storeAfter wire provider start (history ++ trace)).live
        = (storeAfter wire provider start history).live ++ [record] ∧
      (storeAfter wire provider start (history ++ trace)).issued
        = (storeAfter wire provider start history).issued ++ [record.key] ∧
      ZoneOf wire provider start (history ++ trace) name record.zone := by
  rcases upsert_run plain ends admits with
    ⟨_, _, failed⟩ | ⟨record, body, fresh, same, live, issued, earlier, later, rfl, resolved⟩
  · cases failed
  · -- The zone was resolved before the record was sent there.
    obtain ⟨_, zoned⟩ := resolve_grounded grounded resolved (World.admits_append.mp admits).1
    rw [← storeAfter_append] at live issued
    refine ⟨record, body, fresh, Except.ok.inj same, live, issued, ?_⟩
    rw [← List.append_assoc]
    exact (zoned record.zone rfl).append later

/-- What is remembered after a record was removed is explained. -/
theorem delete_grounded {handle : RecordHandle} {trace : Trace calls}
    {outcome : Except DnsProviderError Unit} (grounded : Grounded wire provider start history)
    (ends : (deleteTxt wire provider handle).Ends trace outcome)
    (admits : (cloud wire provider.apiBase).Admits (storeAfter wire provider start history) trace) :
    Grounded wire provider start (history ++ trace) := by
  refine grounded.append ?_
  rw [storeAfter_append]
  -- A removal changes nothing, or removes what one key names.
  rcases delete_run ends admits with ⟨_, same⟩ | ⟨zone, id, _, _, same⟩
  · rw [same]
  · rw [same]
    rfl

end Acme.Cloudflare
