import Acme.Encoding.Utf8
import Acme.Proofs.CloudStore

/-! A service that keeps records: what it is asked, what it answers, and what it is left with. -/

namespace Acme.Cloudflare

open Interaction Dns

/-- Whatever is asked of a service, it answers from what happened before. -/
abbrev Service : Type := Trace calls → (call : Call) → call.Reply

variable {wire : Wire} {provider : CloudflareProvider} {start : CloudStore} {answer : Service}

/-- The store that a history has led to. -/
def storeAfter (wire : Wire) (provider : CloudflareProvider) (start : CloudStore)
    (history : Trace calls) : CloudStore :=
  (cloud wire provider.apiBase).after start history

/-- What happens next starts from there. -/
theorem storeAfter_append (wire : Wire) (provider : CloudflareProvider) (start : CloudStore)
    (history later : Trace calls) :
    storeAfter wire provider start (history ++ later)
      = (cloud wire provider.apiBase).after (storeAfter wire provider start history) later :=
  World.after_append

/-- The service answers as the store does. -/
def Backed (wire : Wire) (provider : CloudflareProvider) (start : CloudStore)
    (answer : Service) : Prop :=
  ∀ history call, (cloud wire provider.apiBase).Allows (storeAfter wire provider start history)
    ⟨call, answer history call⟩

/-- Publishing a record through such a service is a step of its store. -/
theorem Backed.upsert (backed : Backed wire provider start answer) (history : Trace calls)
    (name value : String) (ttlSeconds : UInt32) :
    Step wire provider (storeAfter wire provider start history) (.upsertTxt name value ttlSeconds)
      (.published ((upsertTxt wire provider name value ttlSeconds).run.play answer history).2)
      (storeAfter wire provider start
        (history ++ ((upsertTxt wire provider name value ttlSeconds).run.play answer history).1)) := by
  -- The store moves on by the calls of this one operation.
  rw [storeAfter_append]
  exact .upsert (Program.play_returns answer _ history) (World.play_admits backed _ history)

/-- So is removing one. -/
theorem Backed.delete (backed : Backed wire provider start answer) (history : Trace calls)
    (handle : RecordHandle) :
    Step wire provider (storeAfter wire provider start history) (.deleteTxt handle)
      (.removed ((deleteTxt wire provider handle).run.play answer history).2)
      (storeAfter wire provider start
        (history ++ ((deleteTxt wire provider handle).run.play answer history).1)) := by
  rw [storeAfter_append]
  exact .delete (Program.play_returns answer _ history) (World.play_admits backed _ history)

/-- What stands in front of the identifier in an answer about a record. -/
def recordFront : Bytes :=
  Utf8.bytes "\x7b\"success\":true,\"errors\":[],\"result\":\x7b\"id\":\""

/-- What stands behind it. -/
def recordBack : Bytes := Utf8.bytes "\"\x7d\x7d"

/-- An identifier of some length. -/
def recordId (length : Nat) : String := String.ofList (List.replicate length 'r')

/-- The answer about the record with such an identifier. -/
def recordText (length : Nat) : Bytes := recordFront ++ List.replicate length 114 ++ recordBack

/-- The answer about a record that was removed. -/
def removedText : Bytes := Utf8.bytes "\x7b\"success\":true,\"errors\":[],\"result\":null\x7d"

/-- The answer about a record that is not there. -/
def missingText : Bytes :=
  Utf8.bytes ("\x7b\"success\":false,\"errors\":[\x7b\"code\":81044,\"message\":" ++
    "\"Record does not exist.\"\x7d],\"result\":null\x7d")

/-- The answer that lists one zone. -/
def zonesText : Bytes :=
  Utf8.bytes ("\x7b\"success\":true,\"errors\":[],\"result\":[\x7b\"id\":\"zone-abcd\"," ++
    "\"name\":\"a.example\"\x7d]\x7d")

/-- Deserializers that know these answers. -/
def storeWire : Wire where
  zones body :=
    if body = zonesText then .ok ⟨true, [], [⟨"zone-abcd"⟩]⟩
    else .error "expected value at line 1 column 1"
  record body :=
    match recordFront.isPrefixOf? body with
    | some rest =>
      if rest.dropWhile (· = 114) = recordBack then
        .ok ⟨true, [], some ⟨recordId (rest.takeWhile (· = 114)).length⟩⟩
      else .error "expected value at line 1 column 1"
    | none =>
      if body = removedText then .ok ⟨true, [], none⟩
      else .error "expected value at line 1 column 1"

/-- The answer about a record is read. -/
theorem record_recordText (length : Nat) :
    storeWire.record (recordText length) = .ok ⟨true, [], some ⟨recordId length⟩⟩ := by
  have front : recordFront.isPrefixOf? (recordText length)
      = some (List.replicate length 114 ++ recordBack) :=
    List.isPrefixOf?_eq_some_iff_append_eq.mpr (List.append_assoc ..).symm
  have letters : ∀ byte ∈ List.replicate length (114 : UInt8), decide (byte = 114) = true := by
    intro byte member
    exact decide_eq_true (List.eq_of_mem_replicate member)
  -- The identifier ends where the quotation mark stands.
  have identifier : (List.replicate length 114 ++ recordBack).takeWhile (· = 114)
      = List.replicate length 114 := by
    rw [List.takeWhile_append_of_pos letters, show recordBack.takeWhile (· = 114) = [] by decide,
      List.append_nil]
  -- What stands behind it is always the same.
  have rest : (List.replicate length 114 ++ recordBack).dropWhile (· = 114) = recordBack := by
    rw [List.dropWhile_append_of_pos letters]
    decide
  -- So the text is read as a success with that identifier.
  simp [storeWire, front, identifier, rest]

/-- The answer about a removal is read. -/
theorem record_removedText : storeWire.record removedText = .ok ⟨true, [], none⟩ := by
  have other : recordFront.isPrefixOf? removedText = none := by decide +kernel
  simp [storeWire, other]

/-- The length of the longest identifier that was given out. -/
def longestId (issued : List (ZoneId × String)) : Nat :=
  issued.foldr (fun key longest => max key.2.toList.length longest) 0

/-- None of them is longer. -/
theorem length_le_longestId {issued : List (ZoneId × String)} {zone : ZoneId} {id : String}
    (member : (zone, id) ∈ issued) : id.toList.length ≤ longestId issued := by
  induction issued with
  | nil => exact absurd member List.not_mem_nil
  | cons key rest ih =>
    rw [longestId, List.foldr_cons]
    -- It is the first one, or among the later ones.
    rcases List.mem_cons.mp member with rfl | later
    · exact Nat.le_max_left _ _
    · exact Nat.le_trans (ih later) (Nat.le_max_right _ _)

/-- An identifier that is longer than all of them was not given out. -/
theorem recordId_not_mem (issued : List (ZoneId × String)) (zone : ZoneId) :
    (zone, recordId (longestId issued + 1)) ∉ issued := by
  intro member
  -- An identifier longer than all of them is none of them.
  have bound := length_le_longestId member
  rw [recordId, String.toList_ofList, List.length_replicate] at bound
  omega

/-- What a service that keeps records replies, and that has one zone. -/
def storeReply (store : CloudStore) : StoreRequest → Except TransportError HttpResponse
  | .create _ => .ok ⟨200, [], recordText (longestId store.issued + 1)⟩
  | .remove zone id =>
    if ∃ record ∈ store.live, record.key = (zone, id) then .ok ⟨200, [], removedText⟩
    else .ok ⟨404, [], missingText⟩
  | .other => .ok ⟨200, [], zonesText⟩

/-- It replies as the store does. -/
theorem storeReply_answers (store : CloudStore) (wanted : StoreRequest) :
    store.Answers storeWire (storeReply store wanted) wanted := by
  cases wanted with
  | create zone =>
    -- The new record gets an identifier that is longer than all that were given out.
    have named : createdId storeWire (storeReply store (.create zone))
        = some (recordId (longestId store.issued + 1)) := by
      simp [createdId, storeReply, record_recordText]
    exact ⟨_, named, recordId_not_mem store.issued zone⟩
  | remove zone id =>
    rw [CloudStore.Answers, storeReply]
    -- A removal says whether there was such a record.
    by_cases present : ∃ record ∈ store.live, record.key = (zone, id)
    · rw [if_pos present, if_pos present]
      exact ⟨_, _, rfl, rfl, record_removedText, rfl⟩
    · rw [if_neg present, if_neg present]
      exact ⟨_, rfl, rfl⟩
  | other =>
    -- The one zone that is listed has no slash in its identifier.
    intro resp zones same read zone member
    obtain rfl := Except.ok.inj same
    have listed : storeWire.zones zonesText = .ok ⟨true, [], [⟨"zone-abcd"⟩]⟩ := by
      simp [storeWire]
    obtain rfl := Except.ok.inj (listed.symm.trans read)
    rw [List.mem_singleton.mp member]
    decide

/-- Such a service from some store on, and the cache of the provider. -/
def storeService (provider : CloudflareProvider) (start : CloudStore) : Service :=
  fun history call => match call with
    | .request method url _ _ =>
      storeReply (storeAfter storeWire provider start history)
        (readRequest provider.apiBase method url)
    | .cacheGet apex =>
      ((storeAfter storeWire provider start history).cache.lookup apex).map ZoneId.text
    | .cacheInsert _ _ => ()

/-- It answers as the store does. -/
theorem storeService_backed (provider : CloudflareProvider) (start : CloudStore) :
    Backed storeWire provider start (storeService provider start) := by
  intro history call
  cases call with
  -- Each request is answered from the store as it stands.
  | request => exact storeReply_answers _ _
  | cacheGet apex => rfl
  | cacheInsert apex id => trivial

end Acme.Cloudflare
