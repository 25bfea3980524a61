import Acme.Encoding.Percent
import Acme.Encoding.Uri
import Acme.Proofs.ZoneCache

/-! The URL that asks for a zone: whatever the record is called, it has one parameter, the apex. -/

namespace Acme.Cloudflare

open Interaction

/-- How one byte is written. -/
def spell (byte : UInt8) : List Char :=
  if isUnreserved byte then [Char.ofNat byte.toNat] else '%' :: upperHex byte

/-- A text is written byte by byte. -/
theorem urlencodingEncode_toList (text : String) :
    (urlencodingEncode text).toList = (Utf8.bytes text).flatMap spell :=
  String.toList_ofList

/-- The digits are in upper case, and each of them reads back as its own value. -/
theorem upperDigit {value : Nat} (small : value < 16) :
    Percent.IsUpperHex (Nat.digitChar value).toUpper ∧
      Json.hexValue (Nat.digitChar value).toUpper = some value := by
  -- There are sixteen digits.
  have table : ∀ index : Fin 16, Percent.IsUpperHex (Nat.digitChar index).toUpper ∧
      Json.hexValue (Nat.digitChar index).toUpper = some index.val := by decide
  exact table ⟨value, small⟩

/-- The bytes that are kept are the unreserved characters. -/
theorem kept_unreserved {byte : UInt8} (kept : isUnreserved byte = true) :
    Uri.isUnreserved (Char.ofNat byte.toNat) = true ∧
      String.utf8EncodeChar (Char.ofNat byte.toNat) = [byte] := by
  -- Each of the bytes can be looked at.
  have table : ∀ index : Fin 256, isUnreserved (UInt8.ofNat index) = true →
      Uri.isUnreserved (Char.ofNat index) = true ∧
        String.utf8EncodeChar (Char.ofNat index) = [UInt8.ofNat index] := by decide +kernel
  have looked := table ⟨byte.toNat, byte.toNat_lt⟩
  rw [UInt8.ofNat_toNat] at looked
  exact looked kept

/-- A byte is written as an unreserved character, or as an escape. -/
theorem spell_escaped (byte : UInt8) :
    Percent.Escaped (fun char => Uri.isUnreserved char = true) (spell byte) := by
  have bound := byte.toNat_lt
  unfold spell
  split
  -- What is kept is unreserved.
  case isTrue kept => exact .plain (kept_unreserved kept).1 .nil
  -- Anything else is two upper-case digits.
  case isFalse reserved =>
    exact .escape (upperDigit (by omega)).1 (upperDigit (by omega)).1 .nil

/-- What is written for a byte stands for that byte. -/
theorem decode_spell (byte : UInt8) : Percent.decode (spell byte) = some [byte] := by
  have bound := byte.toNat_lt
  unfold spell
  split
  case isTrue kept =>
    obtain ⟨unreserved, alone⟩ := kept_unreserved kept
    -- A percent sign is not unreserved.
    have other : Char.ofNat byte.toNat ≠ '%' := by
      intro same
      rw [same] at unreserved
      exact absurd unreserved (by decide)
    rw [Percent.decode_plain other, alone]
    rfl
  case isFalse reserved =>
    -- The two digits are the upper and the lower half of the byte.
    have halves : byte.toNat / 16 * 16 + byte.toNat % 16 = byte.toNat := by omega
    rw [upperHex, Percent.decode_escape (upperDigit (by omega)).2 (upperDigit (by omega)).2, halves,
      UInt8.ofNat_toNat]

/-- An encoded text has unreserved characters and escapes in it, and nothing else. -/
theorem urlencoding_escaped (text : String) :
    Percent.Escaped (fun char => Uri.isUnreserved char = true) (urlencodingEncode text).toList := by
  rw [urlencodingEncode_toList]
  exact .flatMap spell_escaped _

/-- An encoded text stands for the bytes of the text. -/
theorem decode_urlencoding (text : String) :
    Percent.decode (urlencodingEncode text).toList = some (Utf8.bytes text) := by
  rw [urlencodingEncode_toList]
  exact Percent.decode_flatMap decode_spell _

/-- A URL whose query has one parameter, the name of the zone. -/
structure ZoneUrl (apiBase : String) (apex : String) (url : String) : Prop where
  /-- What is put behind the base of the API is a path and such a query. -/
  single : ∃ query, url.toList = apiBase.toList ++ "/zones".toList ++ '?' :: query ∧
    '#' ∉ query ∧ Percent.parameters query = some [(Utf8.bytes "name", Utf8.bytes apex)]
  /-- So it is read, when the base is a URL that has no query and no fragment of its own. -/
  read : ∀ base : Uri.Reference, base.text = apiBase.toList → base.query = none →
    base.fragment = none → ∃ query,
      Uri.read url.toList = some
        { scheme := base.scheme
          authority := base.authority
          path := base.path ++ "/zones".toList
          query := some query
          fragment := none } ∧
      Percent.parameters query = some [(Utf8.bytes "name", Utf8.bytes apex)]

/-- The query that asks for the zone of an apex. -/
def zoneQuery (apex : String) : List Char :=
  "name".toList ++ '=' :: (urlencodingEncode apex).toList

/-- It has one parameter. -/
theorem parameters_zoneQuery (apex : String) :
    Percent.parameters (zoneQuery apex) = some [(Utf8.bytes "name", Utf8.bytes apex)] := by
  have escaped := urlencoding_escaped apex
  -- No separator and no plus sign is left in an encoded text.
  have noAnd : '&' ∉ (urlencodingEncode apex).toList :=
    escaped.not_mem (by decide) (by decide) (by decide)
  have noPlus : '+' ∉ (urlencodingEncode apex).toList :=
    escaped.not_mem (by decide) (by decide) (by decide)
  exact Percent.parameters_single (by decide) ⟨noAnd, noPlus⟩ (by decide +kernel)
    (decode_urlencoding apex)

/-- No number sign cuts it short. -/
theorem zoneQuery_whole (apex : String) : '#' ∉ zoneQuery apex := by
  have escaped : '#' ∉ (urlencodingEncode apex).toList :=
    (urlencoding_escaped apex).not_mem (by decide) (by decide) (by decide)
  simp [zoneQuery, escaped]

/-- The URL of a zone request is a base with a path and a query behind it. -/
theorem zoneUrl_toList (apiBase apex : String) :
    (apiBase ++ "/zones?name=" ++ urlencodingEncode apex).toList =
      apiBase.toList ++ "/zones".toList ++ '?' :: zoneQuery apex := by
  simp [zoneQuery]

/-- A URL without a query, a longer path, and a query behind that. -/
def asking (base : Uri.Reference) (query : List Char) (whole : '#' ∉ query) : Uri.Reference where
  scheme := base.scheme
  authority := base.authority
  path := base.path ++ "/zones".toList
  query := some query
  fragment := none
  schemeFormed := base.schemeFormed
  authorityFormed := base.authorityFormed
  pathRooted := by
    right
    rcases base.pathRooted with empty | slash
    · rw [empty]
      rfl
    · rw [List.head?_append, slash]
      rfl
  pathFormed := by
    obtain ⟨question, number⟩ := base.pathFormed
    simp [question, number]
  queryFormed := by
    rintro _ ⟨⟩
    exact whole

/-- The URL of a zone request has one parameter, the apex. -/
theorem zoneUrl_single (apiBase apex : String) :
    ZoneUrl apiBase apex (apiBase ++ "/zones?name=" ++ urlencodingEncode apex) where
  single := ⟨zoneQuery apex, zoneUrl_toList apiBase apex, zoneQuery_whole apex,
    parameters_zoneQuery apex⟩
  read base based unasked whole := by
    refine ⟨zoneQuery apex, ?_, parameters_zoneQuery apex⟩
    -- It is the text of the URL with a longer path and the query.
    have text : (asking base (zoneQuery apex) (zoneQuery_whole apex)).text =
        (apiBase ++ "/zones?name=" ++ urlencodingEncode apex).toList := by
      rw [zoneUrl_toList, ← based]
      simp [asking, Uri.Parts.text, Uri.Parts.tail, Split.marked, unasked, whole]
    rw [← text, Uri.read_text]
    rfl

/-- Every request for the zone of a record name is a request for its apex. -/
theorem resolve_requests {wire : Wire} {provider : CloudflareProvider} {recordName : String}
    {trace : Trace calls} {outcome : Except CloudflareError String}
    (ends : (resolveZoneId wire provider recordName).Ends trace outcome) :
    ∀ event ∈ trace, isRequest event = true →
      event.call = zoneRequest provider (apexFromRecordName recordName) := by
  simp only [resolveZoneId] at ends
  cases found : provider.lookup with
  | static zones =>
    -- A map is looked up without any call.
    simp only [found] at ends
    obtain ⟨rfl, _⟩ := Fallible.ends_ofExcept.mp ends
    simp
  | byName =>
    simp only [found, cacheGet, Fallible.ends_ask_bind] at ends
    obtain ⟨cached, later, rfl, rest⟩ := ends
    cases cached with
    | some id =>
      -- A zone from the cache is not asked for.
      obtain ⟨rfl, _⟩ := Fallible.ends_pure.mp rest
      simp [isRequest]
    | none =>
      -- Around the one request there are calls of the cache alone.
      obtain ⟨reply, _, remembered, rfl, either⟩ := fetch_trace rest
      rcases either with ⟨id, _, rfl⟩ | ⟨failure, _, rfl⟩ <;> simp [isRequest]

/-- The base of the public API. -/
def publicBase : Uri.Reference where
  scheme := "https".toList
  authority := "api.cloudflare.com".toList
  path := "/client/v4".toList
  query := none
  fragment := none
  schemeFormed := Uri.isScheme_https
  authorityFormed := by decide
  pathRooted := .inr rfl
  pathFormed := by decide
  queryFormed := Uri.queryFormed_none

/-- Encoded texts are well formed and stand for their bytes, so a request for a zone has one
parameter, the apex, whatever is in the record name. -/
theorem zone_lookup_encoded :
    (∀ text : String,
      Percent.Escaped (fun char => Uri.isUnreserved char = true) (urlencodingEncode text).toList ∧
        Percent.decode (urlencodingEncode text).toList = some (Utf8.bytes text)) ∧
    (∀ wire provider recordName trace outcome,
      (resolveZoneId wire provider recordName).Ends trace outcome →
      ∀ event ∈ trace, ∀ method url body headers, event.call = .request method url body headers →
        ZoneUrl provider.apiBase (apexFromRecordName recordName) url) ∧
    ∀ token lookup, ∃ base : Uri.Reference,
      base.text = (CloudflareProvider.new token lookup).apiBase.toList ∧ base.query = none ∧
        base.fragment = none := by
  have base : publicBase.text = cloudflareApiBase.toList := by decide +kernel
  refine ⟨fun text => ⟨urlencoding_escaped text, decode_urlencoding text⟩, ?_,
    fun token lookup => ⟨publicBase, base, rfl, rfl⟩⟩
  intro wire provider recordName trace outcome ends event member method url body headers same
  -- The request is the one for the apex, so its URL is known.
  have asks : isRequest event = true := by simp [isRequest, same]
  have request := resolve_requests ends event member asks
  rw [same] at request
  obtain ⟨_, rfl, _, _⟩ := Call.request.inj request
  exact zoneUrl_single _ _

/-- A record name with separators, a space and a letter outside ASCII in its apex. -/
def oddName : String := "_acme-challenge.a&b=c#d.é +x"

/-- The calls that find its zone. -/
def oddLookup : Trace calls × Except CloudflareError String :=
  (resolveZoneId listingWire (CloudflareProvider.new "token" .byName) oddName).run.play
    (zoneReplies listingAnswers) []

/-- The request that is sent for it. -/
def oddRequest : Call :=
  .request .get "https://api.cloudflare.com/client/v4/zones?name=a%26b%3Dc%23d.%C3%A9%20%2Bx" []
    (CloudflareProvider.new "token" .byName).authHeaders

/-- One request is sent, whose one parameter is the apex. -/
theorem oddLookup_encoded : (oddLookup.1.filter isRequest).map Event.call = [oddRequest] ∧
    ZoneUrl cloudflareApiBase "a&b=c#d.é +x"
      "https://api.cloudflare.com/client/v4/zones?name=a%26b%3Dc%23d.%C3%A9%20%2Bx" := by
  have sent : (oddLookup.1.filter isRequest).map Event.call = [oddRequest] := by decide +kernel
  have apex : apexFromRecordName oddName = "a&b=c#d.é +x" := by decide +kernel
  refine ⟨sent, ?_⟩
  -- The request is one of the trace, so the theorem speaks of it.
  obtain ⟨event, member, same⟩ := List.mem_map.mp (sent ▸ List.mem_singleton_self oddRequest)
  rw [← apex]
  exact zone_lookup_encoded.2.1 listingWire (CloudflareProvider.new "token" .byName) oddName _ _
    (Program.play_returns _ _ _) event (List.mem_of_mem_filter member) _ _ _ _ same

end Acme.Cloudflare
