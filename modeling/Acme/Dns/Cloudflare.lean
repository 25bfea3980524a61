import Acme.Core.Jws
import Acme.Dns.Provider
import Acme.Encoding.Split

/-! The Cloudflare DNS provider: zone resolution, publishing and removing TXT records. -/

namespace Acme.Cloudflare

open Interaction Dns

/-- The verbs the provider uses. -/
inductive HttpMethod where
  | get
  | post
  | delete
  deriving DecidableEq

/-- Why the transport failed. -/
inductive TransportError where
  | http (message : String)
  | misuse (message : String)
  deriving DecidableEq

/-- The text of a transport failure. -/
def TransportError.text : TransportError → String
  | .http message => "http transport failure: " ++ message
  | .misuse message => "http transport misuse: " ++ message

/-- Every failure of the provider. -/
inductive CloudflareError where
  | transport (failure : TransportError)
  | api (message : String)
  | noZone (apex : String)
  | badResponse (message : String)
  deriving DecidableEq

/-- The failure as the provider trait reports it. -/
def CloudflareError.toProvider : CloudflareError → DnsProviderError
  | .transport failure => .transport failure.text
  | .api message => .rejected message
  | .noZone apex => .zoneNotFound apex
  | .badResponse message => .rejected message

/-- An error inside a response. -/
structure CfError where
  /-- Its number. -/
  code : Int
  /-- Its text. -/
  message : String
  deriving DecidableEq

/-- A zone inside a response. -/
structure CfZone where
  /-- Its identifier. -/
  id : String
  deriving DecidableEq

/-- A record inside a response. -/
structure CfDnsRecord where
  /-- Its identifier. -/
  id : String
  deriving DecidableEq

/-- A response that lists zones. -/
structure CfListResponse where
  /-- The request was carried out. -/
  success : Bool
  /-- Why it was not. -/
  errors : List CfError
  /-- The zones. -/
  result : List CfZone

/-- A response about one record. -/
structure CfSingleResponse where
  /-- The request was carried out. -/
  success : Bool
  /-- Why it was not. -/
  errors : List CfError
  /-- The record. -/
  result : Option CfDnsRecord

/-- The deserializers of the two responses, each with its explanation of a failure. -/
structure Wire where
  /-- Deserialize a list of zones. -/
  zones : Bytes → Except String CfListResponse
  /-- Deserialize a single record. -/
  record : Bytes → Except String CfSingleResponse

/-- How the zone of a name is found: in a map, or by asking and remembering. -/
inductive ZoneLookup where
  | static (zones : List (String × String))
  | byName

/-- The provider's settings. -/
structure CloudflareProvider where
  /-- The API token. -/
  token : String
  /-- How zones are found. -/
  lookup : ZoneLookup
  /-- What every URL begins with. -/
  apiBase : String

/-- The public API. -/
def cloudflareApiBase : String := "https://api.cloudflare.com/client/v4"

/-- A provider for the public API. -/
def CloudflareProvider.new (token : String) (lookup : ZoneLookup) : CloudflareProvider :=
  { token, lookup, apiBase := cloudflareApiBase }

/-- The same provider for another API. -/
def CloudflareProvider.withApiBase (provider : CloudflareProvider) (base : String) :
    CloudflareProvider :=
  { provider with apiBase := base }

/-- One call to the transport or to the zone cache. -/
inductive Call where
  /-- Send a request. -/
  | request (method : HttpMethod) (url : String) (body : Bytes) (headers : List (String × String))
  /-- Look an apex up in the cache. -/
  | cacheGet (apex : String)
  /-- Remember the zone of an apex. -/
  | cacheInsert (apex id : String)
  deriving DecidableEq

/-- What each call may be answered. -/
abbrev Call.Reply : Call → Type
  | .request _ _ _ _ => Except TransportError HttpResponse
  | .cacheGet _ => Option String
  | .cacheInsert _ _ => Unit

/-- The provider's calls and their replies. -/
abbrev calls : Signature where
  Call := Call
  Reply := Call.Reply

/-- An operation of the provider's own. -/
abbrev Lookup := Fallible calls CloudflareError

/-- An operation of the provider trait. -/
abbrev Operation := Fallible calls DnsProviderError

/-- The headers of every request. -/
def CloudflareProvider.authHeaders (provider : CloudflareProvider) : List (String × String) :=
  [("Authorization", "Bearer " ++ provider.token), ("Content-Type", "application/json"),
    ("Accept", "application/json")]

/-- The labels of a name. -/
def labels (name : String) : List (List Char) :=
  name.toList.splitOn '.'

/-- The last two labels of a name. -/
def apexFromRecordName (name : String) : String :=
  -- A name of two labels or fewer is its own apex.
  if (labels name).length ≤ 2 then name
  else String.ofList (['.'].intercalate ((labels name).drop ((labels name).length - 2)))

/-- A byte as two upper-case hexadecimal digits. -/
def upperHex (byte : UInt8) : List Char :=
  [(Nat.digitChar (byte.toNat / 16)).toUpper, (Nat.digitChar (byte.toNat % 16)).toUpper]

/-- The bytes a query keeps as they are. -/
def isUnreserved (byte : UInt8) : Bool :=
  (65 ≤ byte && byte ≤ 90) || (97 ≤ byte && byte ≤ 122) || (48 ≤ byte && byte ≤ 57) ||
    byte = 45 || byte = 95 || byte = 46 || byte = 126

/-- A text for use in a query. -/
def urlencodingEncode (text : String) : String :=
  String.ofList ((Utf8.bytes text).flatMap fun byte =>
    if isUnreserved byte then [Char.ofNat byte.toNat] else '%' :: upperHex byte)

/-- The rejection a response reports. -/
def cfApiError (errors : List CfError) : CloudflareError :=
  if errors = [] then .api "unknown error (success: false with no error detail)"
  else .api ("; ".intercalate (errors.map fun error => toString error.code ++ ": " ++ error.message))

/-- A transport failure as the provider's own. -/
def ofTransport {α : Type} (outcome : Except TransportError α) : Except CloudflareError α :=
  outcome.mapError .transport

/-- A failed deserialization as the provider's own. -/
def ofSerde {α : Type} (outcome : Except String α) : Except CloudflareError α :=
  outcome.mapError .badResponse

/-- A failure of the provider's own as the trait reports it. -/
def flatten {α : Type} (outcome : Except CloudflareError α) : Except DnsProviderError α :=
  outcome.mapError CloudflareError.toProvider

/-- Look an apex up in the cache. -/
def cacheGet (apex : String) : Lookup (Option String) :=
  Fallible.ask (S := calls) (.cacheGet apex) .ok

/-- Remember the zone of an apex. -/
def cacheInsert (apex id : String) : Lookup Unit :=
  Fallible.ask (S := calls) (.cacheInsert apex id) .ok

/-- The zone a list response names first. -/
def firstZone (apex : String) (zones : CfListResponse) : Except CloudflareError String :=
  if zones.success = false then .error (cfApiError zones.errors)
  -- The first zone is taken, whatever it is called.
  else match zones.result with
    | [] => .error (.noZone apex)
    | zone :: _ => .ok zone.id

/-- Ask for the zone of an apex, and remember the answer. -/
def fetchZoneId (wire : Wire) (provider : CloudflareProvider) (apex : String) : Lookup String := do
  let url := provider.apiBase ++ "/zones?name=" ++ urlencodingEncode apex
  let resp ← Fallible.ask (S := calls) (.request .get url [] provider.authHeaders) ofTransport
  let zones ← Fallible.ofExcept (ofSerde (wire.zones resp.body))
  let id ← Fallible.ofExcept (firstZone apex zones)
  cacheInsert apex id
  pure id

/-- The zone of a record name. -/
def resolveZoneId (wire : Wire) (provider : CloudflareProvider) (recordName : String) :
    Lookup String :=
  let apex := apexFromRecordName recordName
  match provider.lookup with
  -- A map has to list the apex itself.
  | .static zones =>
    Fallible.ofExcept (match zones.lookup apex with
      | some id => .ok id
      | none => .error (.noZone apex))
  | .byName => do
    let cached ← cacheGet apex
    -- What is not remembered is asked for.
    match cached with
    | some id => pure id
    | none => fetchZoneId wire provider apex

/-- The time to live when the caller names none. -/
def defaultTtlSeconds : UInt32 := 60

/-- The body of a request for a new record. -/
def createTxtRequest (name value : String) (ttlSeconds : UInt32) : Bytes :=
  -- Zero stands for the default.
  let ttl := if ttlSeconds = 0 then defaultTtlSeconds else ttlSeconds
  toVec (.obj [("type", .str "TXT"), ("name", .str name), ("content", .str value),
    ("ttl", .num (toString ttl.toNat))])

/-- The URL of the records of a zone. -/
def CloudflareProvider.recordsUrl (provider : CloudflareProvider) (zoneId : String) : String :=
  provider.apiBase ++ "/zones/" ++ zoneId ++ "/dns_records"

/-- The record a response says was created. -/
def createdRecord (created : CfSingleResponse) : Except CloudflareError CfDnsRecord :=
  if created.success = false then .error (cfApiError created.errors)
  else match created.result with
    -- A success without a record cannot be turned into a handle.
    | none => .error (.badResponse "success: true but result missing")
    | some record => .ok record

/-- Publish a TXT record. -/
def upsertTxt (wire : Wire) (provider : CloudflareProvider) (name value : String)
    (ttlSeconds : UInt32) : Operation RecordHandle := do
  let zoneId ← Fallible.reporting CloudflareError.toProvider (resolveZoneId wire provider name)
  let resp ← Fallible.ask (S := calls) (.request .post (provider.recordsUrl zoneId)
    (createTxtRequest name value ttlSeconds) provider.authHeaders)
    fun reply => flatten (ofTransport reply)
  let created ← Fallible.ofExcept (flatten (ofSerde (wire.record resp.body)))
  let record ← Fallible.ofExcept (flatten (createdRecord created))
  -- The handle names the zone too, since a removal needs both.
  pure ⟨zoneId ++ "/" ++ record.id⟩

/-- A text in lower case, as far as ASCII letters go. -/
def toLowercase (text : String) : List Char :=
  text.toList.map Char.toLower

/-- Whether an error says that there is no such record. -/
def CfError.isNotFound (error : CfError) : Bool :=
  -- No character outside ASCII has a letter of the phrase as its lower case.
  (toLowercase error.message).tails.any ("not found".toList.isPrefixOf ·)

/-- What the answer to a removal means. -/
def removed (wire : Wire) (resp : HttpResponse) : Except CloudflareError Unit := do
  -- A record that is not there counts as removed.
  if resp.status = 404 then pure ()
  else
    let deleted ← ofSerde (wire.record resp.body)
    if deleted.success = false then
      -- So does one of which a message says that it was not found.
      if deleted.errors.any CfError.isNotFound then pure ()
      else throw (cfApiError deleted.errors)
    else pure ()

/-- Remove a published record. -/
def deleteTxt (wire : Wire) (provider : CloudflareProvider) (handle : RecordHandle) :
    Operation Unit :=
  match Split.splitOnce '/' handle.id.toList with
  -- A handle without a slash was not given out by this provider.
  | none => throw (.rejected ("malformed handle `" ++ handle.id ++ "`"))
  | some (zoneId, recordId) => do
    let url := provider.recordsUrl (String.ofList zoneId) ++ "/" ++ String.ofList recordId
    let resp ← Fallible.ask (S := calls) (.request .delete url [] provider.authHeaders)
      fun reply => flatten (ofTransport reply)
    Fallible.ofExcept (flatten (removed wire resp))

end Acme.Cloudflare
