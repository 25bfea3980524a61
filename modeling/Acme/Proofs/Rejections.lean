import Acme.Dns.CloudflareWire
import Acme.Proofs.ZoneCache
import Mathlib.Data.List.Basic

/-! What the provider reports when the API answers that a request was not carried out. -/

namespace Acme.Cloudflare

open Interaction Dns Serde

/-- A reader succeeds as expected, or fails with the expected text and the place it stopped at. -/
def Located {α : Type} (expected actual : Except String α) : Prop :=
  match expected with
  | .ok value => actual = .ok value
  | .error message => ∃ line column : Nat,
      actual = .error (message ++ " at line " ++ toString line ++ " column " ++ toString column)

/-- What is documented about the deserializers: bodies are read as the values they are texts of. -/
structure SerdeJson (wire : Wire) (parse : Bytes → Option Json) (describe : Json → String) :
    Prop where
  zones : ∀ body value, parse body = some value →
    Located (CfListResponse.read describe value) (wire.zones body)
  record : ∀ body value, parse body = some value →
    Located (CfSingleResponse.read describe value) (wire.record body)
  /-- How a null is named in a message. -/
  null : describe .null = "null"

/-- A response that was not carried out, with its errors and no result. -/
structure Failed (describe : Json → String) (given : List (String × Json))
    (errors : List CfError) : Prop where
  /-- None of the fields comes twice; other members may. -/
  distinct : ((given.map Prod.fst).filter fun name =>
    name ∈ ["success", "errors", "result"]).Nodup
  success : given.lookup "success" = some (.bool false)
  errors : given.lookup "errors" = none ∧ errors = [] ∨
    ∃ value, given.lookup "errors" = some value ∧ readErrors describe value = .ok errors
  result : given.lookup "result" = none ∨ given.lookup "result" = some .null

/-- A call ends with a rejection that names every error. -/
def Rejects {α : Type} (errors : List CfError) (outcome : Except DnsProviderError α) : Prop :=
  ∃ text, outcome = .error (.rejected text) ∧ ∀ error ∈ errors,
    (toString error.code ++ ": " ++ error.message).toList <:+: text.toList

/-- A request of a kind was answered by a response. -/
def Answered (method : HttpMethod) (resp : HttpResponse) (trace : Trace calls) : Prop :=
  ∃ url body headers, ⟨.request method url body headers, .ok resp⟩ ∈ trace

/-- What the response to a request for a new record says. -/
def readCreated (wire : Wire) (resp : HttpResponse) : Except CloudflareError CfDnsRecord := do
  let created ← ofSerde (wire.record resp.body)
  createdRecord created

variable {wire : Wire} {parse : Bytes → Option Json} {describe : Json → String}
  {given : List (String × Json)} {errors : List CfError} {provider : CloudflareProvider}

/-- The fields of a response are found under their names. -/
theorem find_responseFields {ρ : Type} {defaults : Bool} {readResult : Json → Except String ρ}
    (name : String) :
    (responseFields describe defaults readResult).find? (fun field => field.name = name) =
      if name = "success" then some (.of "success" false (readBool describe))
      else if name = "errors" then some (.of "errors" true (readErrors describe))
      else if name = "result" then some (.of "result" defaults readResult)
      else none := by
  -- The three names are compared in the order of the fields.
  simp only [responseFields, Field.of, List.find?_cons, List.find?_nil, eq_comm (a := name)]
  by_cases success : "success" = name
  · simp [success]
  · by_cases errors : "errors" = name
    · simp [success, errors]
    · by_cases result : "result" = name <;> simp [success, errors, result]

/-- Only the three fields of a response are known. -/
theorem known_responseFields {ρ : Type} {defaults : Bool} {readResult : Json → Except String ρ} :
    known (responseFields describe defaults readResult) given
      = (given.map Prod.fst).filter fun name => name ∈ ["success", "errors", "result"] := by
  refine List.filter_congr fun name _ => ?_
  rw [find_responseFields]
  -- Three names are known, and they differ from one another.
  by_cases success : name = "success"
  · simp [success]
  · by_cases errors : name = "errors"
    · simp [errors]
    · by_cases result : name = "result" <;> simp [success, errors, result]

/-- In a failed response, success and errors pass their checks. -/
theorem Failed.checks {ρ : Type} {defaults : Bool} {readResult : Json → Except String ρ}
    (failed : Failed describe given errors) {name : String} {value : Json} {field : Field}
    (member : (name, value) ∈ given) (other : name ≠ "result")
    (found : (responseFields describe defaults readResult).find? (fun field => field.name = name)
      = some field) : field.check value = .ok () := by
  have distinct : (known (responseFields describe defaults readResult) given).Nodup := by
    rw [known_responseFields]
    exact failed.distinct
  have looked := lookup_of_mem distinct member found
  -- The field that is found is told by its name.
  rw [find_responseFields] at found
  by_cases success : name = "success"
  · rw [if_pos success] at found
    obtain rfl := Option.some.inj found
    -- The value that is found under the name is the Boolean.
    rw [success, failed.success] at looked
    obtain rfl := Option.some.inj looked
    rfl
  · -- The errors are missing, or they are the list that was read.
    by_cases named : name = "errors"
    · rw [if_neg success, if_pos named] at found
      obtain rfl := Option.some.inj found
      rw [named] at looked
      rcases failed.errors with ⟨missing, _⟩ | ⟨list, present, read⟩
      · rw [missing] at looked
        cases looked
      · rw [present] at looked
        obtain rfl := Option.some.inj looked
        simp [Field.of, read, Except.map]
    · rw [if_neg success, if_neg named, if_neg other] at found
      cases found

/-- Success and errors of a failed response are read as they are. -/
theorem Failed.read {ρ α : Type} {name : String} {defaults : Bool} {missing result : ρ}
    {readResult : Json → Except String ρ} {build : Bool → List CfError → ρ → α}
    (failed : Failed describe given errors)
    (passes : ∀ value, given.lookup "result" = some value → readResult value = .ok result)
    (absent : given.lookup "result" = none → missing = result) :
    readResponse describe name defaults missing readResult build (.obj given)
      = .ok (build false errors result) := by
  have distinct : (known (responseFields describe defaults readResult) given).Nodup := by
    rw [known_responseFields]
    exact failed.distinct
  -- All three fields pass their checks, so each of them is looked up and read.
  have accepted : accept (responseFields describe defaults readResult) [] given = .ok () := by
    refine accept_eq_ok.mpr ⟨distinct, by simp, ?_⟩
    intro member inside field found
    by_cases other : member.1 = "result"
    · have looked := lookup_of_mem distinct inside found
      rw [other] at looked found
      rw [find_responseFields] at found
      obtain rfl := Option.some.inj found
      simp [Field.of, passes _ looked, Except.map]
    · exact failed.checks inside other found
  -- The errors are those of the document.
  have listed : defaulted "errors" [] (readErrors describe) given = .ok errors := by
    unfold defaulted
    rcases failed.errors with ⟨none, rfl⟩ | ⟨list, present, read⟩
    · rw [none]
    · rw [present]
      exact read
  -- The result is the one that was read, or its default.
  have taken : defaulted "result" missing readResult given = .ok result := by
    unfold defaulted
    cases looked : given.lookup "result" with
    | none => exact congrArg Except.ok (absent looked)
    | some value => exact passes value looked
  simp [readResponse, members, accepted, required, failed.success, readBool, listed, taken, bind,
    Except.bind]

/-- A failed response without a result is read as a list of no zones. -/
theorem Failed.zones_absent (failed : Failed describe given errors)
    (absent : given.lookup "result" = none) :
    CfListResponse.read describe (.obj given) = .ok ⟨false, errors, []⟩ :=
  failed.read (fun value present => by simp [absent] at present) fun _ => rfl

/-- A failed response whose result is null is no list of zones, as a null is no sequence. -/
theorem Failed.zones_null (failed : Failed describe given errors)
    (null : given.lookup "result" = some .null) :
    CfListResponse.read describe (.obj given)
      = .error (invalidType describe .null "a sequence") := by
  have distinct : (known (responseFields describe true (readVec describe (CfZone.read describe)))
      given).Nodup := by
    rw [known_responseFields]
    exact failed.distinct
  -- The null stands among the members.
  obtain ⟨before, after, split, _⟩ := List.lookup_eq_some_iff.mp null
  have member : ("result", Json.null) ∈ given := by simp [split]
  -- The other two fields pass, so the message is that about the result.
  have refused : accept (responseFields describe true (readVec describe (CfZone.read describe)))
      [] given = .error (invalidType describe .null "a sequence") :=
    accept_single_error distinct member (find_responseFields "result") rfl
      fun other inside differs field found => failed.checks inside differs found
  simp [CfListResponse.read, readResponse, members, refused, bind, Except.bind]

/-- A failed response is read as one about no record, whether its result is absent or null. -/
theorem Failed.record (failed : Failed describe given errors) :
    CfSingleResponse.read describe (.obj given) = .ok ⟨false, errors, none⟩ := by
  -- A null is read as no record.
  refine failed.read (fun value present => ?_) fun _ => rfl
  rcases failed.result with absent | null
  · simp [absent] at present
  · rw [null] at present
    obtain rfl := Option.some.inj present
    rfl

/-- Each of the texts is in the text they are joined to. -/
theorem infix_intercalate {between text : String} {texts : List String} (member : text ∈ texts) :
    text.toList <:+: (between.intercalate texts).toList := by
  -- The first text is a prefix, and all others are in what the rest is joined to.
  induction texts with
  | nil => cases member
  | cons first rest ih =>
    cases rest with
    | nil => simp [List.mem_singleton.mp member]
    | cons next others =>
      rw [String.intercalate_cons_cons, String.toList_append]
      rcases List.mem_cons.mp member with rfl | later
      · exact ⟨[], between.toList ++ (between.intercalate (next :: others)).toList, by simp⟩
      · exact (ih later).trans (List.suffix_append _ _).isInfix

/-- The rejection that is made of a list of errors names each of them. -/
theorem rejects_cfApiError {α : Type} (errors : List CfError) :
    Rejects errors (.error (cfApiError errors).toProvider : Except DnsProviderError α) := by
  -- An empty list has a text of its own.
  unfold cfApiError
  by_cases none : errors = []
  · rw [if_pos none]
    exact ⟨_, rfl, by simp [none]⟩
  · rw [if_neg none]
    exact ⟨_, rfl, fun error member => infix_intercalate (List.mem_map_of_mem member)⟩

/-- A number is written in digits only. -/
theorem isDigit_of_mem_toString {number : Nat} {char : Char}
    (member : char ∈ (toString number).toList) : char.isDigit = true := by
  rw [Nat.toString_eq_ofList_toDigits, String.toList_ofList] at member
  exact Nat.isDigit_of_mem_toDigits (by decide) (by decide) member

/-- An integer is written with a digit at its end. -/
theorem toString_int_digit (number : Int) :
    ∃ front digit, (toString number).toList = front ++ [digit] ∧ digit.isDigit = true := by
  -- Behind the sign stands a number, which is not empty.
  have natural : ∀ size : Nat, ∃ front digit,
      (toString size).toList = front ++ [digit] ∧ digit.isDigit = true := by
    intro size
    have some : (toString size).toList ≠ [] := by
      rw [Nat.toString_eq_ofList_toDigits, String.toList_ofList]
      exact Nat.toDigits_ne_nil
    refine ⟨_, _, (List.dropLast_append_getLast some).symm, ?_⟩
    exact isDigit_of_mem_toString (List.getLast_mem some)
  cases number with
  | ofNat size => exact natural size
  | negSucc size =>
    -- The sign comes first, and the digits are those of the number behind it.
    obtain ⟨front, digit, split, last⟩ := natural (size + 1)
    have signed : (toString (Int.negSucc size)).toList = '-' :: (toString (size + 1)).toList := by
      have text : toString (Int.negSucc size) = "-" ++ toString (size + 1) := rfl
      simp [text]
    exact ⟨'-' :: front, digit, by rw [signed, split]; rfl, last⟩

/-- What is said about a null names no error, as its only colon stands behind a letter. -/
theorem null_names_nothing (error : CfError) (line column : Nat) :
    ¬ (toString error.code ++ ": " ++ error.message).toList <:+:
      ("invalid type: null, expected a sequence" ++ " at line " ++ toString line ++ " column " ++
        toString column).toList := by
  rintro ⟨front, back, same⟩
  obtain ⟨digits, digit, number, decimal⟩ := toString_int_digit error.code
  -- Numbers have no colon.
  have place : ∀ size : Nat, ':' ∉ (toString size).toList := by
    intro size member
    exact absurd (isDigit_of_mem_toString member) (by decide)
  -- The message has one colon.
  have colon : "invalid type: null, expected a sequence".toList
      = "invalid type".toList ++ ':' :: " null, expected a sequence".toList := by decide
  -- An error is named with a colon behind its code, so that it would be this one.
  have unique : "invalid type".toList ++ ':' :: (" null, expected a sequence".toList ++
      (" at line ".toList ++ ((toString line).toList ++ (" column ".toList ++
        (toString column).toList))))
      = (front ++ digits ++ [digit]) ++ ':' :: (' ' :: (error.message.toList ++ back)) := by
    simp only [String.toList_append, number, colon, List.append_assoc] at same
    simpa using same.symm
  rw [List.append_cons_inj_of_notMem (by decide)] at unique
  · -- What stands before the colon would end with a digit.
    have last := congrArg List.getLast? unique.1
    rw [List.getLast?_concat] at last
    obtain rfl : 'e' = digit := Option.some.inj last
    exact absurd decimal (by decide)
  · -- Behind the first colon there is none.
    simp only [List.mem_append, place, not_or]
    decide

/-- A zone is asked for by a GET, and what its answer says is what is found. -/
theorem resolve_answered {name : String} {trace : Trace calls} {method : HttpMethod}
    {resp : HttpResponse} {outcome : Except CloudflareError String}
    (ends : (resolveZoneId wire provider name).Ends trace outcome)
    (answered : Answered method resp trace) :
    method = .get ∧ outcome = readZone wire (apexFromRecordName name) (.ok resp) := by
  obtain ⟨url, body, headers, member⟩ := answered
  unfold resolveZoneId at ends
  cases way : provider.lookup with
  | static zones =>
    -- A map is looked at without a call.
    simp only [way] at ends
    obtain ⟨rfl, _⟩ := Fallible.ends_ofExcept.mp ends
    cases member
  | byName =>
    simp only [way, cacheGet, Fallible.ends_ask_bind] at ends
    obtain ⟨cached, later, rfl, ends⟩ := ends
    cases cached with
    | some id =>
      -- A zone that is cached is not asked for.
      obtain ⟨rfl, _⟩ := Fallible.ends_pure.mp ends
      simp at member
    | none =>
      obtain ⟨reply, found, remembered, rfl, kept⟩ := fetch_trace ends
      -- The one request is that for the zone; what is remembered is no request.
      have only : (⟨.request method url body headers, .ok resp⟩ : Event calls)
          = ⟨zoneRequest provider (apexFromRecordName name), reply⟩ := by
        rcases kept with ⟨id, _, rfl⟩ | ⟨failure, _, rfl⟩ <;> simpa using member
      cases only
      exact ⟨rfl, found⟩

/-- Reading the answer to a request for a record is no call, and fails as the answer does. -/
theorem created_run {zoneId : String} {resp : HttpResponse} {last : Trace calls}
    {outcome : Except DnsProviderError RecordHandle}
    (ends : Fallible.Ends (do
      let created ← Fallible.ofExcept (flatten (ofSerde (wire.record resp.body)))
      let record ← Fallible.ofExcept (flatten (createdRecord created))
      pure (⟨zoneId ++ "/" ++ record.id⟩ : RecordHandle)) last outcome) :
    last = [] ∧ ∀ failure, readCreated wire resp = .error failure →
      outcome = .error failure.toProvider := by
  -- The steps of the function are the steps of reading the response.
  unfold readCreated
  simp only [Fallible.ends_ofExcept_bind, flatten] at ends
  cases read : ofSerde (wire.record resp.body) with
  -- The response cannot be read.
  | error failure =>
    simp only [read, Except.mapError] at ends
    obtain ⟨rfl, rfl⟩ := ends
    exact ⟨rfl, fun other same => by rw [Except.error.inj same]⟩
  | ok created =>
    simp only [read, Except.mapError] at ends
    cases chosen : createdRecord created with
    | error failure =>
      simp only [chosen] at ends
      obtain ⟨rfl, rfl⟩ := ends
      refine ⟨rfl, fun other same => ?_⟩
      rw [Except.error.inj (chosen.symm.trans same)]
    -- There is a record, and no failure is read.
    | ok record =>
      simp only [chosen] at ends
      obtain ⟨rfl, rfl⟩ := Fallible.ends_pure.mp ends
      refine ⟨rfl, fun other same => ?_⟩
      cases chosen.symm.trans same

/-- Publishing asks for a zone by a GET and a record by a POST, and fails as their answers do. -/
theorem upsert_answered {name value : String} {ttlSeconds : UInt32} {trace : Trace calls}
    {method : HttpMethod} {resp : HttpResponse} {outcome : Except DnsProviderError RecordHandle}
    (ends : (upsertTxt wire provider name value ttlSeconds).Ends trace outcome)
    (answered : Answered method resp trace) :
    (method = .get ∧ ∀ failure,
        readZone wire (apexFromRecordName name) (.ok resp) = .error failure →
          outcome = .error failure.toProvider) ∨
      method = .post ∧ ∀ failure, readCreated wire resp = .error failure →
        outcome = .error failure.toProvider := by
  unfold upsertTxt at ends
  rcases Fallible.ends_bind.mp ends with
    ⟨zoneId, earlier, later, rfl, resolved, asks⟩ | ⟨failure, resolved, rfl⟩
  · -- The zone was found first, and the answer is that for the zone or for the record.
    obtain ⟨original, resolved, view⟩ := Fallible.ends_reporting.mp resolved
    obtain ⟨url, body, headers, member⟩ := answered
    rcases List.mem_append.mp member with early | late
    · -- The zone was found, so its answer was no failure.
      obtain ⟨rfl, found⟩ := resolve_answered resolved ⟨url, body, headers, early⟩
      refine .inl ⟨rfl, fun failure failed => ?_⟩
      rw [found, failed] at view
      cases view
    · simp only [Fallible.ends_ask_bind] at asks
      obtain ⟨reply, last, rfl, reads⟩ := asks
      cases reply with
      | error failure =>
        -- The request for the record was not answered.
        obtain ⟨rfl, rfl⟩ := reads
        simp at late
      | ok other =>
        simp only [flatten, ofTransport, Except.mapError] at reads
        obtain ⟨rfl, fails⟩ := created_run reads
        -- The one request that follows is that for the record.
        cases List.mem_singleton.mp late
        exact .inr ⟨rfl, fails⟩
  · -- No zone was found, and nothing else is sent.
    obtain ⟨original, resolved, view⟩ := Fallible.ends_reporting.mp resolved
    obtain ⟨rfl, found⟩ := resolve_answered resolved answered
    refine .inl ⟨rfl, fun failure failed => ?_⟩
    rw [found, failed] at view
    exact congrArg Except.error (Except.error.inj view)

/-- Removing sends one DELETE, and its answer decides. -/
theorem delete_answered {handle : RecordHandle} {trace : Trace calls} {method : HttpMethod}
    {resp : HttpResponse} {outcome : Except DnsProviderError Unit}
    (ends : (deleteTxt wire provider handle).Ends trace outcome)
    (answered : Answered method resp trace) :
    method = .delete ∧ outcome = flatten (removed wire resp) := by
  obtain ⟨url, body, headers, member⟩ := answered
  unfold deleteTxt at ends
  cases split : Split.splitOnce '/' handle.id.toList with
  -- A handle without a slash asks for nothing.
  | none =>
    simp only [split] at ends
    obtain ⟨rfl, _⟩ := Fallible.ends_throw.mp ends
    cases member
  | some parts =>
    obtain ⟨zone, id⟩ := parts
    simp only [split, Fallible.ends_ask_bind] at ends
    obtain ⟨reply, last, rfl, ends⟩ := ends
    cases reply with
    -- No response has come.
    | error failure =>
      obtain ⟨rfl, rfl⟩ := ends
      simp at member
    | ok other =>
      simp only [flatten, ofTransport, Except.mapError] at ends
      obtain ⟨rfl, rfl⟩ := Fallible.ends_ofExcept.mp ends
      -- The run is this one request, so it is the one that was answered.
      cases List.mem_singleton.mp member
      exact ⟨rfl, rfl⟩

/-- The lookup of a zone reports the errors of a failed response, unless its result is null. -/
theorem Failed.lookup_rejects_iff {α : Type} {resp : HttpResponse} {apex : String}
    (serde : SerdeJson wire parse describe) (read : parse resp.body = some (.obj given))
    (failed : Failed describe given errors) :
    ∃ failure, readZone wire apex (.ok resp) = .error failure ∧
      (Rejects errors (.error failure.toProvider : Except DnsProviderError α) ↔
        given.lookup "result" = none ∨ errors = []) := by
  have located := serde.zones _ _ read
  rcases failed.result with absent | null
  · -- The list of zones is read, and its flag decides.
    rw [failed.zones_absent absent] at located
    refine ⟨cfApiError errors, ?_, iff_of_true (rejects_cfApiError errors) (.inl absent)⟩
    have parsed : wire.zones resp.body = .ok ⟨false, errors, []⟩ := located
    simp [readZone, ofTransport, Except.mapError, ofSerde, parsed, firstZone, bind, Except.bind]
  · -- Nothing is read, and what is said about the null takes the place of the errors.
    have message : invalidType describe .null "a sequence"
        = "invalid type: null, expected a sequence" :=
      calc "invalid type: " ++ describe .null ++ ", expected " ++ "a sequence"
          = "invalid type: " ++ "null" ++ ", expected " ++ "a sequence" := by rw [serde.null]
        _ = "invalid type: null, expected a sequence" := by decide +kernel
    rw [failed.zones_null null, message] at located
    obtain ⟨line, column, parsed⟩ := located
    refine ⟨.badResponse ("invalid type: null, expected a sequence" ++ " at line " ++
      toString line ++ " column " ++ toString column), ?_, ?_⟩
    · -- The message of the reader is the failure of the lookup.
      simp only [readZone, ofTransport, Except.mapError, ofSerde, parsed, bind, Except.bind]
    · rw [null]
      constructor
      · rintro ⟨text, same, named⟩
        obtain rfl := DnsProviderError.rejected.inj (Except.error.inj same)
        -- An error in the list would have to be named.
        right
        cases errors with
        | nil => rfl
        | cons error others =>
          exact absurd (named error (.head _)) (null_names_nothing error line column)
      · rintro (absent | rfl)
        · cases absent
        · -- With no errors to be named, any rejection will do.
          exact ⟨_, rfl, by simp⟩

/-- The creation of a record reports the errors of a failed response. -/
theorem Failed.create_rejects {resp : HttpResponse} (serde : SerdeJson wire parse describe)
    (read : parse resp.body = some (.obj given)) (failed : Failed describe given errors) :
    readCreated wire resp = .error (cfApiError errors) := by
  -- A record is optional in the document, and is missing in this one.
  have located := serde.record _ _ read
  rw [failed.record] at located
  have parsed : wire.record resp.body = .ok ⟨false, errors, none⟩ := located
  simp [readCreated, ofSerde, Except.mapError, parsed, createdRecord, bind, Except.bind]

/-- The removal of a record takes it for done when it is missing, and reports the errors else. -/
theorem Failed.delete_rejects {resp : HttpResponse} (serde : SerdeJson wire parse describe)
    (read : parse resp.body = some (.obj given)) (failed : Failed describe given errors) :
    removed wire resp = if resp.status = 404 ∨ errors.any CfError.isNotFound then .ok ()
      else .error (cfApiError errors) := by
  have located := serde.record _ _ read
  rw [failed.record] at located
  have parsed : wire.record resp.body = .ok ⟨false, errors, none⟩ := located
  -- The status is looked at first, and the messages only when the flag is not set.
  unfold removed
  by_cases missing : resp.status = 404
  · simp [missing, pure, Except.pure]
  · by_cases named : errors.any CfError.isNotFound <;>
      simp [missing, named, ofSerde, Except.mapError, parsed, bind, Except.bind, pure, Except.pure,
        throw, throwThe, MonadExceptOf.throw]

/-- A failed response is reported with its errors by all three calls, but for a null to a lookup. -/
theorem failed_responses_reported_iff {resp : HttpResponse}
    (serde : SerdeJson wire parse describe) (read : parse resp.body = some (.obj given))
    (failed : Failed describe given errors) :
    (∀ name value ttlSeconds trace outcome,
      (upsertTxt wire provider name value ttlSeconds).Ends trace outcome →
      Answered .get resp trace →
      (Rejects errors outcome ↔ given.lookup "result" = none ∨ errors = [])) ∧
    (∀ name value ttlSeconds trace outcome,
      (upsertTxt wire provider name value ttlSeconds).Ends trace outcome →
      Answered .post resp trace → Rejects errors outcome) ∧
    ∀ handle trace outcome, (deleteTxt wire provider handle).Ends trace outcome →
      Answered .delete resp trace →
      if resp.status = 404 ∨ errors.any CfError.isNotFound then outcome = .ok ()
      else Rejects errors outcome := by
  -- The kind of the request tells which of the three calls was answered.
  refine ⟨?_, ?_, ?_⟩
  · intro name value ttlSeconds trace outcome ends answered
    rcases upsert_answered ends answered with ⟨_, fails⟩ | ⟨impossible, _⟩
    · obtain ⟨failure, shows, reports⟩ := failed.lookup_rejects_iff serde read
      rw [fails failure shows]
      exact reports
    · -- A GET is answered, so it is not the request for the record.
      cases impossible
  · intro name value ttlSeconds trace outcome ends answered
    rcases upsert_answered ends answered with ⟨impossible, _⟩ | ⟨_, fails⟩
    · cases impossible
    · -- The answer to the POST is read as it is by a create.
      rw [fails _ (failed.create_rejects serde read)]
      exact rejects_cfApiError errors
  · intro handle trace outcome ends answered
    obtain ⟨_, rfl⟩ := delete_answered ends answered
    rw [failed.delete_rejects serde read]
    split
    · rfl
    · exact rejects_cfApiError errors

/-- Deserializers that read a body as the value it is the text of. -/
def readingWire (parse : Bytes → Option Json) (describe : Json → String) : Wire where
  zones body := match parse body with
    | some value => (CfListResponse.read describe value).mapError (· ++ " at line 1 column 1")
    | none => .error "expected value at line 1 column 1"
  record body := match parse body with
    | some value => (CfSingleResponse.read describe value).mapError (· ++ " at line 1 column 1")
    | none => .error "expected value at line 1 column 1"

/-- Such deserializers do what is documented. -/
theorem readingWire_serde (null : describe .null = "null") :
    SerdeJson (readingWire parse describe) parse describe := by
  -- A message is followed by the place, which is always the first one here.
  have place : ∀ {α : Type} (expected : Except String α),
      Located expected (expected.mapError (· ++ " at line 1 column 1")) := by
    intro α expected
    cases expected with
    | ok value => rfl
    | error message => exact ⟨1, 1, by simp [Except.mapError, String.append_assoc]; rfl⟩
  exact
    { zones := fun body value read => by
        simp only [readingWire, read]
        exact place _
      record := fun body value read => by
        simp only [readingWire, read]
        exact place _
      null }

/-- A response that refuses a token. -/
def deniedMembers : List (String × Json) :=
  [("success", .bool false),
    ("errors", .arr [.obj [("code", .num "9109"), ("message", .str "Invalid access token")]]),
    ("result", .null)]

/-- Its bytes. -/
def deniedBody : Bytes :=
  Utf8.bytes (String.ofList (Json.obj deniedMembers).render)

/-- The values that bodies are texts of, as far as this one goes. -/
def deniedParse (body : Bytes) : Option Json :=
  if body = deniedBody then some (.obj deniedMembers) else none

/-- How a value is named, as far as a null goes. -/
def sampleDescribe : Json → String
  | .null => "null"
  | _ => "value"

/-- The error that the response lists. -/
def deniedError : CfError := ⟨9109, "Invalid access token"⟩

/-- The response was not carried out. -/
theorem denied_failed : Failed sampleDescribe deniedMembers [deniedError] where
  distinct := by decide
  success := rfl
  -- The list has the one error in it.
  errors := .inr ⟨_, rfl, by decide +kernel⟩
  -- The result is there, and it is null.
  result := .inr rfl

/-- Every request is answered by that response, and no zone is remembered. -/
def denying (_ : Trace calls) : (call : Call) → call.Reply
  | .request _ _ _ _ => .ok ⟨403, [], deniedBody⟩
  | .cacheGet _ => none
  | .cacheInsert _ _ => ()

/-- The deserializers of such runs. -/
def deniedWire : Wire := readingWire deniedParse sampleDescribe

/-- A record that is to be published by a provider that looks its zone up. -/
def deniedLookup : Trace calls × Except DnsProviderError RecordHandle :=
  (upsertTxt deniedWire ⟨"token", .byName, "https://api"⟩ "_acme-challenge.example.com" "text"
    60).run.play denying []

/-- A record that is to be published by a provider that knows its zone. -/
def deniedCreate : Trace calls × Except DnsProviderError RecordHandle :=
  (upsertTxt deniedWire ⟨"token", .static [("example.com", "zone-1")], "https://api"⟩
    "_acme-challenge.example.com" "text" 60).run.play denying []

/-- A record that is to be removed. -/
def deniedDelete : Trace calls × Except DnsProviderError Unit :=
  (deleteTxt deniedWire ⟨"token", .byName, "https://api"⟩ ⟨"zone-1/rec-1"⟩).run.play denying []

/-- In each of the three runs the request is answered by the response. -/
theorem denied_answered :
    Answered .get ⟨403, [], deniedBody⟩ deniedLookup.1 ∧
      Answered .post ⟨403, [], deniedBody⟩ deniedCreate.1 ∧
      Answered .delete ⟨403, [], deniedBody⟩ deniedDelete.1 :=
  ⟨⟨_, _, _, .tail _ (.head _)⟩, ⟨_, _, _, .head _⟩, ⟨_, _, _, .head _⟩⟩

/-- The body of the response is read as what it says. -/
theorem denied_read : deniedParse deniedBody = some (.obj deniedMembers) :=
  if_pos rfl

/-- The creation and the removal report that the token is invalid, and the lookup does not. -/
theorem denied_reported :
    (Rejects [deniedError] deniedLookup.2 ↔
      deniedMembers.lookup "result" = none ∨ [deniedError] = []) ∧
      Rejects [deniedError] deniedCreate.2 ∧ Rejects [deniedError] deniedDelete.2 := by
  have serde : SerdeJson deniedWire deniedParse sampleDescribe := readingWire_serde rfl
  obtain ⟨gets, posts, deletes⟩ := denied_answered
  have removal := (@failed_responses_reported_iff deniedWire deniedParse sampleDescribe
    deniedMembers [deniedError] ⟨"token", .byName, "https://api"⟩ ⟨403, [], deniedBody⟩ serde
    denied_read denied_failed).2.2 _ _ _ (Program.play_returns _ _ _) deletes
  -- The status is another one than 404, and the message does not speak of anything not found.
  have plain : ¬ ((403 : UInt16) = 404 ∨ [deniedError].any CfError.isNotFound = true) := by
    decide +kernel
  rw [if_neg plain] at removal
  -- Each of the three runs has its answer in it.
  exact ⟨(failed_responses_reported_iff serde denied_read denied_failed).1 _ _ _ _ _
      (Program.play_returns _ _ _) gets,
    (failed_responses_reported_iff serde denied_read denied_failed).2.1 _ _ _ _ _
      (Program.play_returns _ _ _) posts, removal⟩

/-- The lookup of a zone reports a null in place of the invalid token. -/
theorem null_hides_rejection :
    deniedLookup.2
        = .error (.rejected "invalid type: null, expected a sequence at line 1 column 1") ∧
      ¬ ∀ wire parse describe given errors provider resp name value ttlSeconds trace outcome,
        SerdeJson wire parse describe → parse resp.body = some (.obj given) →
        Failed describe given errors →
        (upsertTxt wire provider name value ttlSeconds).Ends trace outcome →
        Answered .get resp trace → Rejects errors outcome := by
  -- The outcome speaks of the place of the null, and not of the error.
  have outcome : deniedLookup.2
      = .error (.rejected "invalid type: null, expected a sequence at line 1 column 1") := by
    decide +kernel
  refine ⟨outcome, fun reported => ?_⟩
  have rejects : Rejects [deniedError] deniedLookup.2 :=
    reported deniedWire deniedParse sampleDescribe deniedMembers [deniedError] _ _ _ _ _ _ _
      (readingWire_serde rfl) denied_read denied_failed (Program.play_returns _ _ _)
      denied_answered.1
  rw [outcome] at rejects
  obtain ⟨text, same, named⟩ := rejects
  obtain rfl := DnsProviderError.rejected.inj (Except.error.inj same)
  -- That text would have to name the error, and it does not.
  exact null_names_nothing deniedError 1 1 (named deniedError (.head _))

end Acme.Cloudflare
