import Acme.Dns.Cloudflare
import Acme.Interaction.World

/-! A store of TXT records behind the provider's requests, and runs of the provider against it. -/

namespace Acme.Cloudflare

open Interaction Dns

/-- The identifier of a zone. -/
structure ZoneId where
  /-- Its text. -/
  text : String
  /-- It is one segment of a path. -/
  plain : '/' ∉ text.toList
  deriving DecidableEq

/-- A TXT record of the store. -/
structure StoredRecord where
  /-- The zone it is in. -/
  zone : ZoneId
  /-- Its identifier in that zone. -/
  id : String
  /-- The request it was created by. -/
  body : Bytes
  deriving DecidableEq

/-- Where a record is found. -/
def StoredRecord.key (record : StoredRecord) : ZoneId × String :=
  (record.zone, record.id)

/-- The handle the provider makes of a record's place. -/
def StoredRecord.handle (record : StoredRecord) : RecordHandle :=
  ⟨record.zone.text ++ "/" ++ record.id⟩

/-- The records of all zones, the identifiers given out so far, and the provider's zone cache. -/
structure CloudStore where
  /-- The records that exist. -/
  live : List StoredRecord
  /-- The identifiers of all records that ever existed. -/
  issued : List (ZoneId × String)
  /-- The zones the provider remembers. -/
  cache : List (String × ZoneId)
  /-- A record that exists was given its identifier. -/
  known : ∀ record ∈ live, record.key ∈ issued

/-- Add a record. -/
def CloudStore.create (store : CloudStore) (record : StoredRecord) : CloudStore :=
  { store with
    live := store.live ++ [record]
    issued := store.issued ++ [record.key]
    known := by
      intro other member
      rcases List.mem_append.mp member with old | new
      · -- An old record keeps the identifier that it was given.
        exact List.mem_append_left _ (store.known other old)
      · -- The new one is given its identifier here.
        rw [List.mem_singleton.mp new]
        exact List.mem_append_right _ List.mem_cons_self }

/-- Remove the record with a key, if there is one. -/
def CloudStore.remove (store : CloudStore) (key : ZoneId × String) : CloudStore :=
  { store with
    live := store.live.filter fun record => record.key ≠ key
    known := fun record member => store.known record (List.mem_filter.mp member).1 }

/-- Remember a zone. -/
def CloudStore.remember (store : CloudStore) (apex : String) (zone : ZoneId) : CloudStore :=
  { store with cache := (apex, zone) :: store.cache }

/-- What a request asks of the store. -/
inductive StoreRequest where
  | create (zone : ZoneId)
  | remove (zone : ZoneId) (id : String)
  | other

/-- The zone a URL names, and the path behind it. -/
def zonePath (apiBase url : String) : Option (ZoneId × List Char) :=
  match (apiBase ++ "/zones/").toList.isPrefixOf? url.toList with
  | none => none
  | some rest =>
    -- The zone ends at the first slash, so there is none in it.
    match split : Split.splitOnce '/' rest with
    | none => none
    | some (zone, path) =>
      some (⟨String.ofList zone, by
        rw [String.toList_ofList]
        exact (Split.splitOnce_eq_some.mp split).2⟩, path)

/-- Read a request as the store does. -/
def readRequest (apiBase : String) (method : HttpMethod) (url : String) : StoreRequest :=
  match method, zonePath apiBase url with
  -- Only these two requests change records; anything else asks or is not understood.
  | .post, some (zone, path) => if path = "dns_records".toList then .create zone else .other
  | .delete, some (zone, path) =>
    match "dns_records/".toList.isPrefixOf? path with
    | some id => .remove zone (String.ofList id)
    | none => .other
  | _, _ => .other

/-- The identifier of the record that a reply says was created. -/
def createdId (wire : Wire) (reply : Except TransportError HttpResponse) : Option String :=
  match reply with
  | .error _ => none
  | .ok resp =>
    match wire.record resp.body with
    | .error _ => none
    -- A failure is reported in the body too.
    | .ok created => if created.success then created.result.map CfDnsRecord.id else none

/-- A reply says that the request was carried out. -/
def Confirms (wire : Wire) (reply : Except TransportError HttpResponse) : Prop :=
  ∃ resp answer, reply = .ok resp ∧ resp.status = 200 ∧ wire.record resp.body = .ok answer ∧
    answer.success = true

/-- A reply says that there is no such record. -/
def Missing (reply : Except TransportError HttpResponse) : Prop :=
  ∃ resp, reply = .ok resp ∧ resp.status = 404

/-- The zones a reply lists have identifiers that are one segment of a path. -/
def PlainZones (wire : Wire) (reply : Except TransportError HttpResponse) : Prop :=
  ∀ resp zones, reply = .ok resp → wire.zones resp.body = .ok zones →
    ∀ zone ∈ zones.result, '/' ∉ zone.id.toList

/-- Whether the store may answer a request in this way. -/
def CloudStore.Answers (wire : Wire) (store : CloudStore)
    (reply : Except TransportError HttpResponse) : StoreRequest → Prop
  -- A record gets an identifier that was not given out before in its zone.
  | .create zone => ∃ id, createdId wire reply = some id ∧ (zone, id) ∉ store.issued
  | .remove zone id =>
    -- What is there is removed, and what is not there is reported as missing.
    if ∃ record ∈ store.live, record.key = (zone, id) then Confirms wire reply else Missing reply
  -- About zones the service may say what it likes, in segments of a path.
  | .other => PlainZones wire reply

/-- What a request and its answer make of the store. -/
def CloudStore.updated (wire : Wire) (store : CloudStore) (body : Bytes)
    (reply : Except TransportError HttpResponse) : StoreRequest → CloudStore
  | .create zone =>
    match createdId wire reply with
    | some id => store.create ⟨zone, id, body⟩
    | none => store
  -- When there is no such record, nothing is removed.
  | .remove zone id => store.remove (zone, id)
  | .other => store

/-- The store of the service together with the cache of the provider. -/
def cloud (wire : Wire) (apiBase : String) : World calls CloudStore where
  Allows store event :=
    match event with
    | ⟨.request method url _ _, reply⟩ => store.Answers wire reply (readRequest apiBase method url)
    -- The cache belongs to the provider, and gives back what was put in.
    | ⟨.cacheGet apex, reply⟩ => reply = (store.cache.lookup apex).map ZoneId.text
    | ⟨.cacheInsert _ _, _⟩ => True
  next store event :=
    match event with
    | ⟨.request method url body _, reply⟩ =>
      store.updated wire body reply (readRequest apiBase method url)
    | ⟨.cacheGet _, _⟩ => store
    | ⟨.cacheInsert apex id, _⟩ =>
      -- An identifier that is no segment of a path cannot have been listed.
      if plain : '/' ∉ id.toList then store.remember apex ⟨id, plain⟩ else store

section Events

variable {wire : Wire} {apiBase : String} {store : CloudStore}

@[simp] theorem cloud_next_request {method : HttpMethod} {url : String} {body : Bytes}
    {headers : List (String × String)} {reply : Except TransportError HttpResponse} :
    (cloud wire apiBase).next store ⟨.request method url body headers, reply⟩ =
      store.updated wire body reply (readRequest apiBase method url) := rfl

@[simp] theorem cloud_allows_request {method : HttpMethod} {url : String} {body : Bytes}
    {headers : List (String × String)} {reply : Except TransportError HttpResponse} :
    (cloud wire apiBase).Allows store ⟨.request method url body headers, reply⟩ ↔
      store.Answers wire reply (readRequest apiBase method url) := Iff.rfl

@[simp] theorem cloud_next_cacheGet {apex : String} {reply : Option String} :
    (cloud wire apiBase).next store ⟨.cacheGet apex, reply⟩ = store := rfl

@[simp] theorem cloud_allows_cacheGet {apex : String} {reply : Option String} :
    (cloud wire apiBase).Allows store ⟨.cacheGet apex, reply⟩ ↔
      reply = (store.cache.lookup apex).map ZoneId.text := Iff.rfl

end Events

/-- How a call of the provider ended. -/
inductive CallOutcome where
  | published (outcome : Except DnsProviderError RecordHandle)
  | removed (outcome : Except DnsProviderError Unit)

/-- One call of the provider against the store. -/
inductive Step (wire : Wire) (provider : CloudflareProvider) :
    CloudStore → ProviderCall → CallOutcome → CloudStore → Prop where
  | upsert {before : CloudStore} {name value : String} {ttlSeconds : UInt32} {trace : Trace calls}
      {outcome : Except DnsProviderError RecordHandle}
      (ends : (upsertTxt wire provider name value ttlSeconds).Ends trace outcome)
      (admits : (cloud wire provider.apiBase).Admits before trace) :
      Step wire provider before (.upsertTxt name value ttlSeconds) (.published outcome)
        ((cloud wire provider.apiBase).after before trace)
  | delete {before : CloudStore} {handle : RecordHandle} {trace : Trace calls}
      {outcome : Except DnsProviderError Unit}
      (ends : (deleteTxt wire provider handle).Ends trace outcome)
      (admits : (cloud wire provider.apiBase).Admits before trace) :
      Step wire provider before (.deleteTxt handle) (.removed outcome)
        ((cloud wire provider.apiBase).after before trace)

/-- A sequence of calls of one provider against the store. -/
inductive Session (wire : Wire) (provider : CloudflareProvider) :
    CloudStore → List ProviderCall → CloudStore → Prop where
  | nil (store : CloudStore) : Session wire provider store [] store
  | cons {before middle after : CloudStore} {call : ProviderCall} {outcome : CallOutcome}
      {later : List ProviderCall} (step : Step wire provider before call outcome middle)
      (rest : Session wire provider middle later after) :
      Session wire provider before (call :: later) after

/-- The zones of a static map have identifiers that are one segment of a path. -/
def CloudflareProvider.Plain (provider : CloudflareProvider) : Prop :=
  ∀ zones, provider.lookup = .static zones → ∀ entry ∈ zones, '/' ∉ entry.2.toList

end Acme.Cloudflare
