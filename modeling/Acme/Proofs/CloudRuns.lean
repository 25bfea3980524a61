import Acme.Proofs.CloudService

/-! What every sequence of calls of the provider does to the records of the store. -/

namespace Acme.Cloudflare

open Interaction Dns

/-- A front is found in front of anything. -/
theorem isPrefixOf?_append (front rest : List Char) :
    front.isPrefixOf? (front ++ rest) = some rest :=
  List.isPrefixOf?_eq_some_iff_append_eq.mpr rfl

/-- The URL of a resource of a zone names the zone and the path. -/
theorem zonePath_append (apiBase : String) (zone : ZoneId) (path : String) :
    zonePath apiBase (apiBase ++ "/zones/" ++ zone.text ++ "/" ++ path) =
      some (zone, path.toList) := by
  -- What follows the zone is split off at the slash behind it, as the zone itself has none.
  have front : (apiBase ++ "/zones/" ++ zone.text ++ "/" ++ path).toList =
      (apiBase ++ "/zones/").toList ++ (zone.text.toList ++ '/' :: path.toList) := by
    simp
  have split := Split.splitOnce_append zone.plain path.toList
  unfold zonePath
  -- The base is a prefix of the URL.
  rw [front, isPrefixOf?_append]
  simp only
  split
  case h_1 missing =>
    rw [split] at missing
    cases missing
  case h_2 text rest found =>
    rw [split] at found
    cases found
    simp only [String.ofList_toList]

/-- The request for a new record is read as one. -/
theorem readRequest_create (provider : CloudflareProvider) (zone : ZoneId) :
    readRequest provider.apiBase .post (provider.recordsUrl zone.text) = .create zone := by
  -- The address ends behind the zone, so it is that of its collection of records.
  have url : provider.recordsUrl zone.text =
      provider.apiBase ++ "/zones/" ++ zone.text ++ "/" ++ "dns_records" := by
    apply String.toList_inj.mp
    simp [CloudflareProvider.recordsUrl]
  unfold readRequest
  rw [url, zonePath_append]
  exact if_pos rfl

/-- The request to remove a record is read as one. -/
theorem readRequest_remove (provider : CloudflareProvider) (zone : ZoneId) (id : String) :
    readRequest provider.apiBase .delete (provider.recordsUrl zone.text ++ "/" ++ id) =
      .remove zone id := by
  -- Behind the collection stands the identifier of one record.
  have url : provider.recordsUrl zone.text ++ "/" ++ id =
      provider.apiBase ++ "/zones/" ++ zone.text ++ "/" ++ ("dns_records/" ++ id) := by
    apply String.toList_inj.mp
    simp [CloudflareProvider.recordsUrl]
  unfold readRequest
  rw [url, zonePath_append]
  simp only [String.toList_append, isPrefixOf?_append, String.ofList_toList]

/-- Zones with the same text are one zone. -/
theorem ZoneId.ext_text {zone other : ZoneId} (same : zone.text = other.text) : zone = other := by
  -- What a zone has beside its text is a proof.
  cases zone
  cases other
  cases same
  rfl

/-- The handle of a record splits into its zone and its identifier. -/
theorem splitOnce_handle (record : StoredRecord) :
    Split.splitOnce '/' record.handle.id.toList =
      some (record.zone.text.toList, record.id.toList) := by
  -- The first slash of a handle is the one between zone and record.
  have shape : record.handle.id.toList = record.zone.text.toList ++ '/' :: record.id.toList := by
    simp [StoredRecord.handle]
  rw [shape]
  exact Split.splitOnce_append record.zone.plain _

variable {wire : Wire} {provider : CloudflareProvider}

/-- The records of the store are the same. -/
def SameRecords (before after : CloudStore) : Prop :=
  after.live = before.live ∧ after.issued = before.issued

/-- A lookup asks nothing of the records. -/
theorem readRequest_get (apiBase url : String) : readRequest apiBase .get url = .other := by
  -- A question is neither a creation nor a removal.
  unfold readRequest
  cases zonePath apiBase url with
  | none => rfl
  | some parts => rfl

/-- Remembering a zone changes no record. -/
theorem sameRecords_insert (store : CloudStore) (apex id : String) :
    SameRecords store ((cloud wire provider.apiBase).next store ⟨.cacheInsert apex id, ()⟩) := by
  -- The cache is not part of what is compared.
  show SameRecords store (if plain : '/' ∉ id.toList then store.remember apex ⟨id, plain⟩ else store)
  split
  · exact ⟨rfl, rfl⟩
  · exact ⟨rfl, rfl⟩

/-- The zone a response names first is one of those it lists. -/
theorem firstZone_mem {apex id : String} {zones : CfListResponse}
    (found : firstZone apex zones = .ok id) : ∃ zone ∈ zones.result, zone.id = id := by
  -- The zone that is used is the first of the list.
  unfold firstZone at found
  split at found
  · cases found
  · split at found
    · cases found
    · rename_i zone rest shape
      cases found
      exact ⟨zone, by rw [shape]; exact List.mem_cons_self, rfl⟩

/-- Asking for a zone changes no record, and gives an identifier that is one segment of a path. -/
theorem fetch_run {apex : String} {store : CloudStore} {trace : Trace calls}
    {outcome : Except CloudflareError String}
    (ends : (fetchZoneId wire provider apex).Ends trace outcome)
    (admits : (cloud wire provider.apiBase).Admits store trace) :
    SameRecords store ((cloud wire provider.apiBase).after store trace) ∧
      ∀ id, outcome = .ok id → '/' ∉ id.toList := by
  simp only [fetchZoneId, cacheInsert, Fallible.ends_ask_bind] at ends
  obtain ⟨reply, later, rfl, ends⟩ := ends
  -- The request itself leaves the store as it is.
  simp only [World.admits_cons, cloud_allows_request, cloud_next_request, readRequest_get,
    World.after_cons] at admits ⊢
  obtain ⟨plain, admits⟩ := admits
  cases reply with
  | error failure =>
    -- No response has come.
    obtain ⟨rfl, rfl⟩ := ends
    exact ⟨⟨rfl, rfl⟩, by simp⟩
  | ok resp =>
    simp only [ofTransport, Except.mapError, Fallible.ends_ofExcept_bind] at ends
    cases read : wire.zones resp.body with
    | error failure =>
      -- An answer that cannot be read is reported, and nothing is remembered.
      simp only [read, ofSerde, Except.mapError] at ends
      obtain ⟨rfl, rfl⟩ := ends
      exact ⟨⟨rfl, rfl⟩, by simp⟩
    | ok zones =>
      simp only [read, ofSerde, Except.mapError] at ends
      -- The answer lists a zone, or it is an error.
      cases chosen : firstZone apex zones with
      | error failure =>
        simp only [chosen] at ends
        obtain ⟨rfl, rfl⟩ := ends
        exact ⟨⟨rfl, rfl⟩, by simp⟩
      | ok id =>
        simp only [chosen, Fallible.ends_ask_bind] at ends
        obtain ⟨_, last, rfl, ends⟩ := ends
        obtain ⟨rfl, rfl⟩ := Fallible.ends_pure.mp ends
        -- The identifier is that of a zone the service lists.
        refine ⟨sameRecords_insert store apex id, ?_⟩
        intro other same
        cases same
        obtain ⟨zone, member, text⟩ := firstZone_mem chosen
        rw [← text]
        exact plain resp zones rfl read zone member

/-- Resolving a zone changes no record, and gives an identifier that is one segment of a path. -/
theorem resolve_run {name : String} {store : CloudStore} {trace : Trace calls}
    {outcome : Except CloudflareError String} (plain : provider.Plain)
    (ends : (resolveZoneId wire provider name).Ends trace outcome)
    (admits : (cloud wire provider.apiBase).Admits store trace) :
    SameRecords store ((cloud wire provider.apiBase).after store trace) ∧
      ∀ id, outcome = .ok id → '/' ∉ id.toList := by
  unfold resolveZoneId at ends
  cases way : provider.lookup with
  | static zones =>
    simp only [way] at ends
    obtain ⟨rfl, rfl⟩ := Fallible.ends_ofExcept.mp ends
    refine ⟨⟨rfl, rfl⟩, ?_⟩
    intro id found
    -- The identifier is a value of the map.
    cases mapped : zones.lookup (apexFromRecordName name) with
    -- The map has no zone for the name.
    | none =>
      rw [mapped] at found
      cases found
    | some other =>
      rw [mapped] at found
      cases found
      obtain ⟨before, after, shape, _⟩ := List.lookup_eq_some_iff.mp mapped
      refine plain zones way (apexFromRecordName name, id) ?_
      rw [shape]
      exact List.mem_append_right before List.mem_cons_self
  | byName =>
    simp only [way, cacheGet, Fallible.ends_ask_bind] at ends
    obtain ⟨cached, later, rfl, ends⟩ := ends
    obtain ⟨looked, admits⟩ := World.admits_cons.mp admits
    rw [World.after_cons]
    cases cached with
    | some id =>
      -- The cache remembers identifiers that are one segment of a path.
      obtain ⟨rfl, rfl⟩ := Fallible.ends_pure.mp ends
      refine ⟨⟨rfl, rfl⟩, ?_⟩
      intro other same
      cases same
      obtain ⟨zone, _, text⟩ := Option.map_eq_some_iff.mp looked.symm
      rw [← text]
      exact zone.plain
    | none =>
      -- The service is asked.
      exact fetch_run ends admits

/-- A reply that names a created record is read as that record. -/
theorem createdRecord_of_createdId {resp : HttpResponse} {id : String}
    (named : createdId wire (.ok resp) = some id) :
    ∃ created, wire.record resp.body = .ok created ∧ createdRecord created = .ok ⟨id⟩ := by
  -- Both read the same response, the one for the provider and the other for the store.
  unfold createdId at named
  cases read : wire.record resp.body with
  | error failure =>
    simp only [read] at named
    cases named
  | ok created =>
    simp only [read] at named
    refine ⟨created, rfl, ?_⟩
    cases success : created.success with
    -- A failure names no record.
    | false =>
      rw [success] at named
      cases named
    | true =>
      rw [success, if_pos rfl] at named
      obtain ⟨record, found, same⟩ := Option.map_eq_some_iff.mp named
      rw [createdRecord, success, found, ← same]
      rfl

/--
Publishing fails and changes no record, or adds one record under a fresh identifier, in the zone
that the name was resolved to.
-/
theorem upsert_run {name value : String} {ttlSeconds : UInt32} {store : CloudStore}
    {trace : Trace calls} {outcome : Except DnsProviderError RecordHandle}
    (plain : provider.Plain)
    (ends : (upsertTxt wire provider name value ttlSeconds).Ends trace outcome)
    (admits : (cloud wire provider.apiBase).Admits store trace) :
    (SameRecords store ((cloud wire provider.apiBase).after store trace) ∧
        ∃ failure, outcome = .error failure) ∨
      ∃ record, record.body = createTxtRequest name value ttlSeconds ∧
        record.key ∉ store.issued ∧ outcome = .ok record.handle ∧
        ((cloud wire provider.apiBase).after store trace).live = store.live ++ [record] ∧
        ((cloud wire provider.apiBase).after store trace).issued =
          store.issued ++ [record.key] ∧
        ∃ earlier later, trace = earlier ++ later ∧
          (resolveZoneId wire provider name).Ends earlier (.ok record.zone.text) := by
  unfold upsertTxt at ends
  rcases Fallible.ends_bind.mp ends with
    ⟨zoneId, earlier, later, rfl, resolved, asks⟩ | ⟨failure, resolved, rfl⟩
  · -- The zone was found, and one request is sent.
    obtain ⟨original, resolved, view⟩ := Fallible.ends_reporting.mp resolved
    rw [World.admits_append] at admits
    have found := resolve_run plain resolved admits.1
    cases original with
    | error failure => cases view
    | ok id =>
      cases view
      obtain ⟨live, issued⟩ := found.1
      obtain ⟨zone, rfl⟩ : ∃ zone : ZoneId, zone.text = zoneId := ⟨⟨zoneId, found.2 _ rfl⟩, rfl⟩
      rw [World.after_append]
      simp only [Fallible.ends_ask_bind] at asks
      obtain ⟨reply, last, rfl, reads⟩ := asks
      have answered := admits.2
      simp only [World.admits_cons, cloud_allows_request, cloud_next_request, World.after_cons,
        readRequest_create] at answered ⊢
      -- The store has answered with a record whose identifier is new.
      obtain ⟨⟨id, named, fresh⟩, answered⟩ := answered
      cases reply with
      -- A request that fails would not name a record.
      | error failure => cases named
      | ok resp =>
        -- The reply names the record, so the call returns its handle.
        obtain ⟨created, read, record⟩ := createdRecord_of_createdId named
        simp only [flatten, ofTransport, ofSerde, Except.mapError, read, record,
          Fallible.ends_ofExcept_bind] at reads
        obtain ⟨rfl, rfl⟩ := Fallible.ends_pure.mp reads
        right
        refine ⟨⟨zone, id, createTxtRequest name value ttlSeconds⟩, ?_, ?_, ?_, ?_, ?_,
          earlier, _, rfl, resolved⟩
        · rfl
        · rw [← issued]
          exact fresh
        · rfl
        · simp only [World.after_nil, CloudStore.updated, named, CloudStore.create, live]
        · simp only [World.after_nil, CloudStore.updated, named, CloudStore.create, issued]
  · -- No zone was found, and nothing is sent.
    obtain ⟨original, resolved, view⟩ := Fallible.ends_reporting.mp resolved
    exact Or.inl ⟨(resolve_run plain resolved admits).1, failure, rfl⟩

/-- The store answers a removal with a success or as missing, and both count as removed. -/
theorem removed_of_answers {store : CloudStore} {zone : ZoneId} {id : String}
    {reply : Except TransportError HttpResponse}
    (answers : store.Answers wire reply (.remove zone id)) :
    ∃ resp, reply = .ok resp ∧ removed wire resp = .ok () := by
  -- The answer to a removal decides what the provider says about it.
  rw [CloudStore.Answers] at answers
  by_cases present : ∃ record ∈ store.live, record.key = (zone, id)
  · rw [if_pos present] at answers
    obtain ⟨resp, answer, rfl, status, read, success⟩ := answers
    refine ⟨resp, rfl, ?_⟩
    have other : resp.status ≠ 404 := by
      rw [status]
      decide
    rw [removed, if_neg other]
    simp only [read, ofSerde, Except.mapError, bind, Except.bind, success]
    rfl
  · -- A record that is missing is as good as removed.
    rw [if_neg present] at answers
    obtain ⟨resp, rfl, status⟩ := answers
    exact ⟨resp, rfl, by rw [removed, if_pos status]; rfl⟩

/-- Removing fails and changes nothing for a malformed handle, and removes the record that the
handle names otherwise. -/
theorem delete_run {handle : RecordHandle} {store : CloudStore} {trace : Trace calls}
    {outcome : Except DnsProviderError Unit}
    (ends : (deleteTxt wire provider handle).Ends trace outcome)
    (admits : (cloud wire provider.apiBase).Admits store trace) :
    (Split.splitOnce '/' handle.id.toList = none ∧
        (cloud wire provider.apiBase).after store trace = store) ∨
      ∃ zone id, Split.splitOnce '/' handle.id.toList = some (zone.text.toList, id.toList) ∧
        outcome = .ok () ∧
        (cloud wire provider.apiBase).after store trace = store.remove (zone, id) := by
  -- The handle is taken apart, and one request follows when that succeeds.
  unfold deleteTxt at ends
  cases split : Split.splitOnce '/' handle.id.toList with
  | none =>
    simp only [split] at ends
    obtain ⟨rfl, rfl⟩ := Fallible.ends_throw.mp ends
    exact Or.inl ⟨rfl, rfl⟩
  | some parts =>
    obtain ⟨zone, id⟩ := parts
    -- What stands before the first slash has no slash itself.
    have plain : '/' ∉ (String.ofList zone).toList := by
      rw [String.toList_ofList]
      exact (Split.splitOnce_eq_some.mp split).2
    simp only [split, Fallible.ends_ask_bind] at ends
    obtain ⟨reply, last, rfl, ends⟩ := ends
    -- The URL of the request is that of the record in its zone.
    have url := readRequest_remove provider ⟨String.ofList zone, plain⟩ (String.ofList id)
    simp only [World.admits_cons, cloud_allows_request, cloud_next_request, World.after_cons,
      url] at admits ⊢
    obtain ⟨answered, admits⟩ := admits
    -- The store says either that the record is gone or that there was none.
    obtain ⟨resp, rfl, done⟩ := removed_of_answers answered
    simp only [flatten, ofTransport, Except.mapError, done] at ends
    obtain ⟨rfl, rfl⟩ := Fallible.ends_ofExcept.mp ends
    right
    refine ⟨⟨String.ofList zone, plain⟩, String.ofList id, ?_, rfl, rfl⟩
    rw [String.toList_ofList, String.toList_ofList]

/-- A call changes no record, adds one under a fresh identifier, or removes what one key names. -/
theorem Step.effect {before after : CloudStore} {call : ProviderCall} {outcome : CallOutcome}
    (plain : provider.Plain) (step : Step wire provider before call outcome after) :
    SameRecords before after ∨
      (∃ record, record.key ∉ before.issued ∧ after.live = before.live ++ [record] ∧
        after.issued = before.issued ++ [record.key]) ∨
      ∃ key, after = before.remove key := by
  -- One case for each call of the provider.
  cases step with
  | upsert ends admits =>
    rcases upsert_run plain ends admits with ⟨same, _⟩ | ⟨record, _, fresh, _, live, issued, _⟩
    · exact Or.inl same
    · exact Or.inr (Or.inl ⟨record, fresh, live, issued⟩)
  | delete ends admits =>
    rcases delete_run ends admits with ⟨_, same⟩ | ⟨zone, id, _, _, same⟩
    · rw [same]
      exact Or.inl ⟨rfl, rfl⟩
    · exact Or.inr (Or.inr ⟨_, same⟩)

/-- A call that returned a handle published a record under a fresh key. -/
theorem Step.created {before after : CloudStore} {name value : String} {ttlSeconds : UInt32}
    {handle : RecordHandle} (plain : provider.Plain)
    (step : Step wire provider before (.upsertTxt name value ttlSeconds)
      (.published (.ok handle)) after) :
    ∃ record, record.body = createTxtRequest name value ttlSeconds ∧ record.key ∉ before.issued ∧
      handle = record.handle ∧ after.live = before.live ++ [record] ∧
      after.issued = before.issued ++ [record.key] := by
  -- Only publishing adds a handle.
  cases step with
  | upsert ends admits =>
    rcases upsert_run plain ends admits with
      ⟨_, failure, none⟩ | ⟨record, body, fresh, same, live, issued, _⟩
    · cases none
    · exact ⟨record, body, fresh, Except.ok.inj same, live, issued⟩

/-- A key was given out, and what it names now is as it should be. -/
structure Settled (key : ZoneId × String) (allowed : StoredRecord → Prop) (store : CloudStore) :
    Prop where
  /-- The key will not be given out again. -/
  issued : key ∈ store.issued
  /-- The records it names. -/
  named : ∀ record ∈ store.live, record.key = key → allowed record

/-- No call gives out a key again. -/
theorem Settled.step {key : ZoneId × String} {allowed : StoredRecord → Prop}
    {before after : CloudStore} {call : ProviderCall} {outcome : CallOutcome}
    (plain : provider.Plain) (settled : Settled key allowed before)
    (step : Step wire provider before call outcome after) : Settled key allowed after := by
  rcases step.effect plain with ⟨live, issued⟩ | ⟨added, fresh, live, issued⟩ | ⟨other, rfl⟩
  · -- Nothing has changed, or a record was added, or one was removed.
    exact ⟨issued ▸ settled.issued, live ▸ settled.named⟩
  · refine ⟨issued ▸ List.mem_append_left _ settled.issued, ?_⟩
    intro record member same
    rw [live] at member
    rcases List.mem_append.mp member with old | new
    · exact settled.named record old same
    · -- The new record has a fresh key.
      rw [List.mem_singleton.mp new] at same
      exact absurd settled.issued (same ▸ fresh)
  · exact ⟨settled.issued, fun record member =>
      settled.named record (List.mem_filter.mp member).1⟩

/-- No sequence of calls gives out a key again. -/
theorem Settled.session {key : ZoneId × String} {allowed : StoredRecord → Prop}
    {before after : CloudStore} {made : List ProviderCall} (plain : provider.Plain)
    (settled : Settled key allowed before) (session : Session wire provider before made after) :
    Settled key allowed after := by
  -- By induction on the calls, with the lemma for one of them.
  induction session with
  | nil store => exact settled
  | cons step rest ih => exact ih (settled.step plain step)

/-- Removing a settled key removes at most the record it was given out for. -/
theorem Settled.remove {record : StoredRecord} {store : CloudStore}
    (settled : Settled record.key (· = record) store) :
    (store.remove record.key).live = store.live.filter (· ≠ record) := by
  -- The key belongs to one record only, so both filters keep the same ones.
  apply List.filter_congr
  intro other member
  rw [decide_eq_decide, ne_eq, ne_eq, not_iff_not]
  exact ⟨settled.named other member, fun same => by rw [same]⟩

/-- The handle of a record names that record to a removal. -/
theorem delete_handle {record : StoredRecord} {before after : CloudStore} {outcome : CallOutcome}
    (step : Step wire provider before (.deleteTxt record.handle) outcome after) :
    outcome = .removed (.ok ()) ∧ after = before.remove record.key := by
  cases step with
  | delete ends admits =>
    have split := splitOnce_handle record
    -- The handle has a slash in it, so a request is sent.
    rcases delete_run ends admits with ⟨missing, _⟩ | ⟨zone, id, found, rfl, same⟩
    · rw [split] at missing
      cases missing
    · rw [split] at found
      -- Both parts of the handle are those of the record.
      obtain ⟨zones, ids⟩ := Prod.mk.inj (Option.some.inj found)
      have sameZone := ZoneId.ext_text (String.toList_inj.mp zones)
      have sameId := String.toList_inj.mp ids
      rw [← sameZone, ← sameId] at same
      exact ⟨rfl, same⟩

/-- Once a handle was removed, nothing has its key. -/
theorem Settled.gone {record : StoredRecord} {before after : CloudStore}
    {made : List ProviderCall} (plain : provider.Plain)
    (settled : Settled record.key (· = record) before)
    (session : Session wire provider before made after)
    (removed : .deleteTxt record.handle ∈ made) :
    Settled record.key (fun _ => False) after := by
  -- By induction on the calls: the first removal settles the matter.
  induction session with
  | nil store => cases removed
  | cons step rest ih =>
    rcases List.mem_cons.mp removed with here | later
    · subst here
      obtain ⟨_, rfl⟩ := delete_handle step
      refine Settled.session plain ?_ rest
      refine ⟨settled.issued, ?_⟩
      intro other member same
      exact of_decide_eq_true (List.mem_filter.mp member).2 same
    · -- It comes later, and is the first removal there.
      exact ih (settled.step plain step) later

/-- A removal by a handle that was returned earlier succeeds and takes away the record published
under it, and no other one; a second removal changes nothing. -/
theorem cloudflare_deletes_exact {name value : String} {ttlSeconds : UInt32}
    {handle : RecordHandle} {made : List ProviderCall} {outcome : CallOutcome}
    {first second third last : CloudStore} (plain : provider.Plain)
    (published : Step wire provider first (.upsertTxt name value ttlSeconds)
      (.published (.ok handle)) second)
    (between : Session wire provider second made third)
    (deleted : Step wire provider third (.deleteTxt handle) outcome last) :
    ∃ record, record ∉ first.live ∧ second.live = first.live ++ [record] ∧
      record.body = createTxtRequest name value ttlSeconds ∧
      outcome = .removed (.ok ()) ∧ last.live = third.live.filter (· ≠ record) ∧
      (.deleteTxt handle ∈ made → last.live = third.live) := by
  obtain ⟨record, body, fresh, rfl, live, issued⟩ := published.created plain
  -- Only the new record has its key.
  have settled : Settled record.key (· = record) second := by
    refine ⟨by rw [issued]; exact List.mem_append_right _ List.mem_cons_self, ?_⟩
    -- Keys that were given out before are other ones.
    intro other member same
    rw [live] at member
    rcases List.mem_append.mp member with old | new
    · exact absurd (same ▸ first.known other old) fresh
    · exact List.mem_singleton.mp new
  have later := settled.session plain between
  obtain ⟨rfl, rfl⟩ := delete_handle deleted
  refine ⟨record, ?_, live, body, rfl, later.remove, ?_⟩
  · intro member
    exact fresh (first.known record member)
  · intro removed
    -- Nothing has its key any more, so nothing is removed.
    have gone := settled.gone plain between removed
    apply List.filter_eq_self.mpr
    intro other member
    exact decide_eq_true (gone.named other member)

/-- A provider with a static map. -/
def sampleProvider : CloudflareProvider :=
  .new "test-token" (.static [("example.com", "zone-abcd")])

/-- The sample provider's map is in order. -/
theorem sampleProvider_plain : sampleProvider.Plain := by
  -- The map has one zone.
  intro zones static entry member
  cases static
  rw [List.mem_singleton.mp member]
  decide

/-- A record that has nothing to do with challenges. -/
def otherRecord : StoredRecord :=
  ⟨⟨"zone-abcd", by decide⟩, "web", createTxtRequest "www.example.com" "v=1" 300⟩

/-- A store that has this record. -/
def otherStore : CloudStore where
  live := [otherRecord]
  issued := [otherRecord.key]
  cache := []
  known := fun _ member => List.mem_map_of_mem (f := StoredRecord.key) member

/-- What is published through the sample provider, and what comes of it. -/
def samplePublish (value : String) (history : Trace calls) :
    Trace calls × Except DnsProviderError RecordHandle :=
  (upsertTxt storeWire sampleProvider "_acme-challenge.example.com" value 60).run.play
    (storeService sampleProvider otherStore) history

/-- What is removed through it. -/
def sampleDelete (handle : RecordHandle) (history : Trace calls) :
    Trace calls × Except DnsProviderError Unit :=
  (deleteTxt storeWire sampleProvider handle).run.play (storeService sampleProvider otherStore)
    history

/-- The calls for one record. -/
def sampleFirst : Trace calls := (samplePublish "first" []).1

/-- Then those for another one under the same name, which is removed again. -/
def sampleSecond : Trace calls :=
  sampleFirst ++ (samplePublish "second" sampleFirst).1

/-- At last the first one is removed. -/
def sampleThird : Trace calls :=
  sampleSecond ++ (sampleDelete ⟨"zone-abcd/rrrrr"⟩ sampleSecond).1

/--
One record is published and removed through the sample provider, while another one comes and
goes, and a third one stays.
-/
theorem cloudflare_deletes_exact_sample :
    ∃ second third last record,
      Step storeWire sampleProvider otherStore
        (.upsertTxt "_acme-challenge.example.com" "first" 60)
        (.published (.ok ⟨"zone-abcd/rrrr"⟩)) second ∧
      Session storeWire sampleProvider second
        [.upsertTxt "_acme-challenge.example.com" "second" 60, .deleteTxt ⟨"zone-abcd/rrrrr"⟩]
        third ∧
      Step storeWire sampleProvider third (.deleteTxt ⟨"zone-abcd/rrrr"⟩) (.removed (.ok ())) last ∧
      otherRecord ∈ last.live ∧ second.live = [otherRecord, record] ∧
      last.live = third.live.filter (· ≠ record) := by
  have backed := storeService_backed sampleProvider otherStore
  -- Each operation goes on from where the one before it has come to.
  have published := backed.upsert [] "_acme-challenge.example.com" "first" 60
  have again := backed.upsert sampleFirst "_acme-challenge.example.com" "second" 60
  have gone := backed.delete sampleSecond ⟨"zone-abcd/rrrrr"⟩
  have deleted := backed.delete sampleThird ⟨"zone-abcd/rrrr"⟩
  rw [show ((upsertTxt storeWire sampleProvider "_acme-challenge.example.com" "first" 60).run.play
    (storeService sampleProvider otherStore) []).2 = .ok ⟨"zone-abcd/rrrr"⟩ by
      decide +kernel] at published
  -- The theorem is applied to the first of the records.
  obtain ⟨record, _, live, _, removed, rest, _⟩ := cloudflare_deletes_exact sampleProvider_plain
    published (.cons again (.cons gone (.nil _))) deleted
  -- The record that was there at first is still there at the end.
  have kept : otherRecord ∈ (storeAfter storeWire sampleProvider otherStore
      (sampleThird ++ (sampleDelete ⟨"zone-abcd/rrrr"⟩ sampleThird).1)).live := by
    decide +kernel
  rw [removed] at deleted
  exact ⟨_, _, _, record, published, .cons again (.cons gone (.nil _)), deleted, kept, live, rest⟩

end Acme.Cloudflare
