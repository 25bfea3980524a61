import Acme.Dns.Cloudflare
import Acme.Interaction.Memo
import Acme.Interaction.World

/-! The zone cache: what a provider with one answers, and when it asks. -/

namespace Acme.Cloudflare

open Interaction

/-- An API that answers every URL in one way, and the zone cache of the provider. -/
def zoneApi (answers : String → Except TransportError HttpResponse) :
    World calls (Memo.Cache String String) where
  Allows cache
    | ⟨.request _ url _ _, reply⟩ => reply = answers url
    | ⟨.cacheGet apex, reply⟩ => reply = cache apex
    | ⟨.cacheInsert _ _, _⟩ => True
  next cache
    | ⟨.request _ _ _ _, _⟩ => cache
    | ⟨.cacheGet _, _⟩ => cache
    | ⟨.cacheInsert apex id, _⟩ => Function.update cache apex (some id)

section Events

variable {answers : String → Except TransportError HttpResponse} {cache : Memo.Cache String String}

@[simp] theorem zoneApi_allows_request {method : HttpMethod} {url : String} {body : Bytes}
    {headers : List (String × String)} {reply : Except TransportError HttpResponse} :
    (zoneApi answers).Allows cache ⟨.request method url body headers, reply⟩ ↔
      reply = answers url := Iff.rfl

@[simp] theorem zoneApi_next_request {method : HttpMethod} {url : String} {body : Bytes}
    {headers : List (String × String)} {reply : Except TransportError HttpResponse} :
    (zoneApi answers).next cache ⟨.request method url body headers, reply⟩ = cache := rfl

@[simp] theorem zoneApi_allows_cacheGet {apex : String} {reply : Option String} :
    (zoneApi answers).Allows cache ⟨.cacheGet apex, reply⟩ ↔ reply = cache apex := Iff.rfl

@[simp] theorem zoneApi_next_cacheGet {apex : String} {reply : Option String} :
    (zoneApi answers).next cache ⟨.cacheGet apex, reply⟩ = cache := rfl

@[simp] theorem zoneApi_allows_cacheInsert {apex id : String} {reply : Unit} :
    (zoneApi answers).Allows cache ⟨.cacheInsert apex id, reply⟩ ↔ True := Iff.rfl

@[simp] theorem zoneApi_next_cacheInsert {apex id : String} {reply : Unit} :
    (zoneApi answers).next cache ⟨.cacheInsert apex id, reply⟩ =
      Function.update cache apex (some id) := rfl

end Events

/-- The request that asks for the zone of an apex. -/
abbrev zoneRequest (provider : CloudflareProvider) (apex : String) : Call :=
  .request .get (provider.apiBase ++ "/zones?name=" ++ urlencodingEncode apex) []
    provider.authHeaders

/-- What the reply to that request says. -/
def readZone (wire : Wire) (apex : String) (reply : Except TransportError HttpResponse) :
    Except CloudflareError String := do
  let resp ← ofTransport reply
  let zones ← ofSerde (wire.zones resp.body)
  firstZone apex zones

/-- The zone of a record name as a provider without a cache finds it: by asking every time. -/
def uncachedZoneId (wire : Wire) (provider : CloudflareProvider) (recordName : String) :
    Lookup String :=
  Fallible.ask (S := calls) (zoneRequest provider (apexFromRecordName recordName))
    (readZone wire (apexFromRecordName recordName))

/-- What the API says about an apex. -/
def zoneSource (wire : Wire) (provider : CloudflareProvider)
    (answers : String → Except TransportError HttpResponse) (apex : String) :
    Except CloudflareError String :=
  readZone wire apex (answers (provider.apiBase ++ "/zones?name=" ++ urlencodingEncode apex))

/-- Against such an API, the provider without a cache finds what the API says. -/
theorem ends_uncached_iff {wire : Wire} {provider : CloudflareProvider}
    {answers : String → Except TransportError HttpResponse} {name : String}
    {outcome : Except CloudflareError String} :
    (∃ trace, (uncachedZoneId wire provider name).Ends trace outcome ∧
        (zoneApi answers).Admits Memo.empty trace) ↔
      outcome = zoneSource wire provider answers (apexFromRecordName name) := by
  -- It makes one request, which the API answers in one way.
  simp only [uncachedZoneId, zoneRequest, Fallible.ends_ask]
  constructor
  · rintro ⟨trace, ⟨reply, same, read⟩, fair⟩
    subst same
    have given : reply = answers _ := fair.1
    rw [read, given]
    rfl
  · intro same
    exact ⟨_, ⟨_, rfl, same⟩, rfl, trivial⟩

/-- Asking for a zone is one request; the zone is remembered when the reply names one. -/
theorem fetch_trace {wire : Wire} {provider : CloudflareProvider} {apex : String}
    {trace : Trace calls} {outcome : Except CloudflareError String}
    (ends : (fetchZoneId wire provider apex).Ends trace outcome) :
    ∃ reply : Except TransportError HttpResponse, outcome = readZone wire apex reply ∧
      ∃ remembered, trace = ⟨zoneRequest provider apex, reply⟩ :: remembered ∧
        ((∃ id, outcome = .ok id ∧ remembered = [⟨.cacheInsert apex id, ()⟩]) ∨
          ∃ failure, outcome = .error failure ∧ remembered = []) := by
  simp only [fetchZoneId, cacheInsert, Fallible.ends_ask_bind] at ends
  obtain ⟨reply, later, rfl, ends⟩ := ends
  refine ⟨reply, ?_⟩
  -- The steps of the function are the steps of reading the reply.
  cases reply with
  -- There is no response, or it cannot be read, or it has no zone.
  | error failure =>
    obtain ⟨rfl, rfl⟩ := ends
    exact ⟨rfl, [], rfl, .inr ⟨_, rfl, rfl⟩⟩
  | ok resp =>
    simp only [ofTransport, Except.mapError, Fallible.ends_ofExcept_bind] at ends
    simp only [readZone, ofTransport, Except.mapError, Bind.bind, Except.bind]
    cases read : ofSerde (wire.zones resp.body) with
    | error failure =>
      simp only [read] at ends
      obtain ⟨rfl, rfl⟩ := ends
      exact ⟨rfl, [], rfl, .inr ⟨failure, rfl, rfl⟩⟩
    | ok zones =>
      simp only [read] at ends
      cases chosen : firstZone apex zones with
      | error failure =>
        simp only [chosen] at ends
        obtain ⟨rfl, rfl⟩ := ends
        exact ⟨chosen.symm, [], rfl, .inr ⟨failure, rfl, rfl⟩⟩
      | ok id =>
        -- Only a zone that was found is remembered.
        simp only [chosen, Fallible.ends_ask_bind] at ends
        -- The cache is the last thing that is called.
        obtain ⟨_, last, rfl, ends⟩ := ends
        obtain ⟨rfl, rfl⟩ := Fallible.ends_pure.mp ends
        exact ⟨chosen.symm, _, rfl, .inl ⟨id, rfl, rfl⟩⟩

/-- A request that an event is. -/
def isRequest (event : Event calls) : Bool :=
  match event.call with
  | .request _ _ _ _ => true
  | _ => false

variable {wire : Wire} {provider : CloudflareProvider}
  {answers : String → Except TransportError HttpResponse} {cache : Memo.Cache String String}

/-- A call looks its apex up in the cache, and asks the API for what is not there. -/
theorem resolve_look {name : String} {trace : Trace calls}
    {outcome : Except CloudflareError String} (byName : provider.lookup = .byName)
    (ends : (resolveZoneId wire provider name).Ends trace outcome)
    (fair : (zoneApi answers).Admits cache trace) :
    outcome =
        (Memo.look (zoneSource wire provider answers) cache (apexFromRecordName name)).outcome ∧
      (zoneApi answers).after cache trace =
        (Memo.look (zoneSource wire provider answers) cache (apexFromRecordName name)).cache ∧
      trace.filter isRequest =
        if (Memo.look (zoneSource wire provider answers) cache (apexFromRecordName name)).asked
        then [⟨zoneRequest provider (apexFromRecordName name), answers (provider.apiBase ++
          "/zones?name=" ++ urlencodingEncode (apexFromRecordName name))⟩]
        else [] := by
  simp only [resolveZoneId, byName, cacheGet, Fallible.ends_ask_bind] at ends
  obtain ⟨cached, later, rfl, rest⟩ := ends
  rw [World.admits_cons, zoneApi_allows_cacheGet, zoneApi_next_cacheGet] at fair
  obtain ⟨known, fair⟩ := fair
  rw [World.after_cons, zoneApi_next_cacheGet]
  cases cached with
  | some id =>
    -- What is remembered is the answer.
    obtain ⟨rfl, rfl⟩ := Fallible.ends_pure.mp rest
    rw [Memo.look_known known.symm]
    exact ⟨rfl, rfl, rfl⟩
  | none =>
    -- What is not remembered is asked for, and the API answers in one way.
    obtain ⟨reply, read, remembered, rfl, either⟩ := fetch_trace rest
    have given : reply = answers _ := fair.1
    have source : outcome = zoneSource wire provider answers (apexFromRecordName name) := by
      rw [read, given]
      rfl
    simp only [Memo.look, ← known, ← source]
    rcases either with ⟨id, rfl, rfl⟩ | ⟨failure, rfl, rfl⟩
    · -- A zone is remembered, and a failure is not.
      exact ⟨rfl, rfl, by rw [given]; rfl⟩
    · exact ⟨rfl, rfl, by rw [given]; rfl⟩

/-- One call that finds the zone of a record name. -/
structure Visit (wire : Wire) (provider : CloudflareProvider) where
  /-- The record name. -/
  name : String
  /-- What was called and answered. -/
  trace : Trace calls
  /-- How the call ended. -/
  outcome : Except CloudflareError String
  /-- It is a run of the provider's function. -/
  ended : (resolveZoneId wire provider name).Ends trace outcome

/-- The apex a call is about. -/
def Visit.apex {wire : Wire} {provider : CloudflareProvider} (visit : Visit wire provider) :
    String :=
  apexFromRecordName visit.name

/-- What a row of calls called and was answered. -/
def tape {wire : Wire} {provider : CloudflareProvider} (visits : List (Visit wire provider)) :
    Trace calls :=
  visits.flatMap Visit.trace

/-- The requests a call sent. -/
def Visit.asked {wire : Wire} {provider : CloudflareProvider} (visit : Visit wire provider) :
    Trace calls :=
  visit.trace.filter isRequest

/-- What a call does, for a call of a row. -/
theorem Visit.look (byName : provider.lookup = .byName) (visit : Visit wire provider)
    (fair : (zoneApi answers).Admits cache visit.trace) :
    visit.outcome = (Memo.look (zoneSource wire provider answers) cache visit.apex).outcome ∧
      (zoneApi answers).after cache visit.trace =
        (Memo.look (zoneSource wire provider answers) cache visit.apex).cache ∧
      visit.asked =
        if (Memo.look (zoneSource wire provider answers) cache visit.apex).asked
        then [⟨zoneRequest provider visit.apex, answers (provider.apiBase ++ "/zones?name=" ++
          urlencodingEncode visit.apex)⟩]
        else [] :=
  resolve_look byName visit.ended fair

/-- A row of calls leaves the cache of a row of lookups. -/
theorem tape_after (byName : provider.lookup = .byName) {visits : List (Visit wire provider)}
    (fair : (zoneApi answers).Admits cache (tape visits)) :
    (zoneApi answers).after cache (tape visits) =
      Memo.after (zoneSource wire provider answers) cache (visits.map Visit.apex) := by
  -- By induction on the calls, each of which is one lookup.
  induction visits generalizing cache with
  | nil => rfl
  | cons visit rest ih =>
    have split : tape (visit :: rest) = visit.trace ++ tape rest := rfl
    rw [split, World.admits_append] at fair
    rw [split, World.after_append, ih fair.2, (visit.look byName fair.1).2.1]
    rfl

/-- A reply that names the zone of an apex. -/
def isFound (wire : Wire) (apex : String) (event : Event calls) : Bool :=
  match event with
  | ⟨.request _ _ _ _, reply⟩ => (readZone wire apex reply).toBool
  | _ => false

/-- The successful requests that a row of calls sent for an apex. -/
def successes (visits : List (Visit wire provider)) (apex : String) : Trace calls :=
  (visits.filter (·.apex = apex)).flatMap fun visit => visit.asked.filter (isFound wire apex)

/-- One call for an apex succeeds at most once, and not at all when the apex is remembered. -/
theorem successes_le (byName : provider.lookup = .byName) {visits : List (Visit wire provider)}
    {apex : String} (fair : (zoneApi answers).Admits cache (tape visits)) :
    (successes visits apex).length ≤ if cache apex = none then 1 else 0 := by
  -- By induction on the calls; a success is remembered by the calls behind it.
  induction visits generalizing cache with
  | nil => exact Nat.zero_le _
  | cons visit rest ih =>
    have split : tape (visit :: rest) = visit.trace ++ tape rest := rfl
    rw [split, World.admits_append] at fair
    -- What the call remembers and asks is what the memo says.
    obtain ⟨_, remembered, asked⟩ := visit.look byName fair.1
    have later := ih fair.2
    rw [remembered] at later
    by_cases same : visit.apex = apex
    · have front : successes (visit :: rest) apex =
          visit.asked.filter (isFound wire apex) ++ successes rest apex := by
        simp [successes, same]
      rw [front, List.length_append, asked, same]
      rw [same] at later
      cases known : cache apex with
      | some id =>
        -- The call answers from the cache, and so do those behind it.
        rw [Memo.look_known known] at later ⊢
        simpa [known] using later
      | none =>
        -- The call sends one request; only a success of it is remembered.
        rw [if_pos (Memo.look_unknown known).1, if_pos rfl]
        cases answered : zoneSource wire provider answers apex with
        | error failure =>
          have missed := answered
          unfold zoneSource at missed
          have kept : (Memo.look (zoneSource wire provider answers) cache apex).cache = cache :=
            (Memo.look_failed ((Memo.look_unknown known).2.trans answered)).2
          rw [kept, known, if_pos rfl] at later
          simpa [isFound, missed, Except.toBool] using later
        | ok id =>
          have kept : (Memo.look (zoneSource wire provider answers) cache apex).cache apex =
              some id := Memo.look_cache_iff.mpr (.inr ⟨known, rfl, answered⟩)
          rw [kept, if_neg (Option.some_ne_none id)] at later
          exact Nat.add_le_add (List.length_filter_le _ _) later
    · -- The call is for another apex, and changes nothing about this one.
      have front : successes (visit :: rest) apex = successes rest apex := by
        simp [successes, same]
      rw [front]
      rwa [Memo.look_cache_ne (Ne.symm same)] at later

/-- A call sends a request when its apex is not remembered. -/
theorem Visit.asked_ne_nil_iff (byName : provider.lookup = .byName)
    (visit : Visit wire provider) (fair : (zoneApi answers).Admits cache visit.trace) :
    visit.asked ≠ [] ↔
      (Memo.look (zoneSource wire provider answers) cache visit.apex).asked = true := by
  rw [(visit.look byName fair).2.2]
  -- It asks once, or not at all.
  split
  · rename_i yes
    exact iff_of_true (List.cons_ne_nil _ _) yes
  · rename_i no
    exact iff_of_false (fun absent => absent rfl) no

/-- A call in a row finds the cache of the lookups before it. -/
theorem Visit.placed (byName : provider.lookup = .byName)
    {before behind : List (Visit wire provider)} {visit : Visit wire provider}
    (fair : (zoneApi answers).Admits Memo.empty (tape (before ++ visit :: behind))) :
    (zoneApi answers).after Memo.empty (tape before) =
        Memo.after (zoneSource wire provider answers) Memo.empty (before.map Visit.apex) ∧
      (zoneApi answers).Admits (Memo.after (zoneSource wire provider answers) Memo.empty
        (before.map Visit.apex)) visit.trace := by
  have split : tape (before ++ visit :: behind) = tape before ++ (visit.trace ++ tape behind) := by
    simp [tape]
  rw [split, World.admits_append, World.admits_append] at fair
  -- Before the visit the cache is what the earlier ones have left.
  have cache := tape_after byName fair.1
  exact ⟨cache, cache ▸ fair.2.1⟩

/-- A call in a row answers what the API says. -/
theorem Visit.outcome_eq (byName : provider.lookup = .byName)
    {visits : List (Visit wire provider)} {visit : Visit wire provider}
    (fair : (zoneApi answers).Admits Memo.empty (tape visits)) (member : visit ∈ visits) :
    visit.outcome = zoneSource wire provider answers visit.apex := by
  -- The cache it finds holds nothing but answers of the API.
  obtain ⟨before, behind, rfl⟩ := List.append_of_mem member
  rw [(visit.look byName (Visit.placed byName fair).2).1]
  exact (Memo.sound_after _).outcome

/-- The zone cache changes no answer; for each apex at most one request succeeds, failures leave
the cache as it is, and a call asks until a call for its apex has succeeded. -/
theorem zone_cache_transparent (wire : Wire) (token apiBase : String)
    (answers : String → Except TransportError HttpResponse)
    (visits : List (Visit wire ⟨token, .byName, apiBase⟩))
    (served : (zoneApi answers).Admits Memo.empty (tape visits)) :
    (∀ visit ∈ visits, ∀ outcome,
      (∃ trace, (uncachedZoneId wire ⟨token, .byName, apiBase⟩ visit.name).Ends trace outcome ∧
        (zoneApi answers).Admits Memo.empty trace) ↔ outcome = visit.outcome) ∧
    (∀ apex, (successes visits apex).length ≤ 1) ∧
    ∀ before visit behind, visits = before ++ visit :: behind →
      (∀ failure, visit.outcome = .error failure →
        (zoneApi answers).after Memo.empty (tape (before ++ [visit])) =
          (zoneApi answers).after Memo.empty (tape before)) ∧
      (visit.asked ≠ [] ↔ ∀ earlier ∈ before, earlier.apex = visit.apex →
        ∃ failure, earlier.outcome = .error failure) := by
  refine ⟨?_, ?_, ?_⟩
  · -- The answer is that of the source.
    intro visit member outcome
    rw [ends_uncached_iff, Visit.outcome_eq rfl served member]
    rfl
  · -- An apex that has been found is not asked for again.
    intro apex
    exact successes_le rfl served
  · -- A visit depends on those before it only through the cache.
    intro before visit behind split
    subst split
    obtain ⟨cache, fair⟩ := Visit.placed rfl served
    obtain ⟨answered, remembered, _⟩ := visit.look rfl fair
    constructor
    · intro failure failed
      -- After the visit the cache is what its lookup has left.
      have joined : tape (before ++ [visit]) = tape before ++ visit.trace := by simp [tape]
      rw [joined, World.after_append, cache, remembered]
      exact (Memo.look_failed (answered.symm.trans failed)).2
    · -- It asks when its apex is not remembered, that is when no earlier call was told its zone.
      rw [visit.asked_ne_nil_iff rfl fair, Memo.asked_after_iff]
      have earlier_eq : ∀ earlier ∈ before, earlier.outcome =
          zoneSource wire ⟨token, .byName, apiBase⟩ answers earlier.apex :=
        fun earlier member => Visit.outcome_eq rfl served (List.mem_append_left _ member)
      constructor
      · -- An earlier call for its apex would be remembered, had it succeeded.
        intro silent earlier member same
        rw [earlier_eq earlier member]
        cases answered : zoneSource wire ⟨token, .byName, apiBase⟩ answers earlier.apex with
        | error failure => exact ⟨failure, rfl⟩
        | ok id =>
          rw [same] at answered
          exact absurd (List.mem_map.mpr ⟨earlier, member, same⟩) (silent id answered)
      · -- An earlier call for its apex has failed, but the source gives the same answer now.
        intro failed id answered member
        obtain ⟨earlier, member, same⟩ := List.mem_map.mp member
        obtain ⟨failure, unanswered⟩ := failed earlier member same
        rw [earlier_eq earlier member, same, answered] at unanswered
        cases unanswered

/-- Answer requests as the API does, and the cache as it stands after a history. -/
def zoneReplies (answers : String → Except TransportError HttpResponse) (history : Trace calls) :
    (call : Call) → call.Reply
  | .request _ url _ _ => answers url
  | .cacheGet apex => (zoneApi answers).after Memo.empty history apex
  | .cacheInsert _ _ => ()

/-- The calls for a row of names, one after the other. -/
def playVisits (wire : Wire) (provider : CloudflareProvider)
    (answers : String → Except TransportError HttpResponse) :
    Trace calls → List String → List (Visit wire provider)
  | _, [] => []
  | history, name :: rest =>
    let played := (resolveZoneId wire provider name).run.play (zoneReplies answers) history
    ⟨name, played.1, played.2, Program.play_returns _ _ _⟩ ::
      playVisits wire provider answers (history ++ played.1) rest

/-- Played calls are answered by the API and the cache. -/
theorem playVisits_served (names : List String) (history : Trace calls) :
    (zoneApi answers).Admits ((zoneApi answers).after Memo.empty history)
      (tape (playVisits wire provider answers history names)) := by
  -- By induction on the names, with the history that has been played so far.
  induction names generalizing history with
  | nil => trivial
  | cons name rest ih =>
    have fair : (zoneApi answers).Admits ((zoneApi answers).after Memo.empty history)
        ((resolveZoneId wire provider name).run.play (zoneReplies answers) history).1 :=
      World.play_admits (fun history call => by cases call <;> simp [zoneReplies]) _ history
    have later := ih (history ++
      ((resolveZoneId wire provider name).run.play (zoneReplies answers) history).1)
    rw [World.after_append] at later
    exact World.admits_append.mpr ⟨fair, later⟩

/-- The body of an answer that lists one zone. -/
def listingBody : Bytes :=
  toVec (.obj [("success", .bool true), ("errors", .arr []),
    ("result", .arr [.obj [("id", .str "zone-1")]])])

/-- Deserializers that know this listing. -/
def listingWire : Wire where
  zones body :=
    if body = listingBody then .ok ⟨true, [], [⟨"zone-1"⟩]⟩
    else .error "expected value at line 1 column 1"
  record _ := .error "expected value at line 1 column 1"

/-- An API that knows one apex and fails for every other one. -/
def listingAnswers (url : String) : Except TransportError HttpResponse :=
  if url = "https://api/zones?name=example.com" then .ok ⟨200, [], listingBody⟩
  else .error (.http "connection reset")

/-- Calls for two names of the one apex, and twice for another name. -/
def sampleVisits : List (Visit listingWire ⟨"token", .byName, "https://api"⟩) :=
  playVisits listingWire ⟨"token", .byName, "https://api"⟩ listingAnswers []
    ["_acme-challenge.a.example.com", "b.example.com", "x.org", "x.org"]

/-- The second call is answered from the cache, and the failed lookup is tried again. -/
theorem sample_visits_transparent :
    sampleVisits.map (fun visit => (visit.outcome, visit.asked.length)) =
        [(.ok "zone-1", 1), (.ok "zone-1", 0),
          (.error (.transport (.http "connection reset")), 1),
          (.error (.transport (.http "connection reset")), 1)] ∧
      ∀ apex, (successes sampleVisits apex).length ≤ 1 :=
  ⟨by decide +kernel, (zone_cache_transparent listingWire "token" "https://api" listingAnswers
    sampleVisits (playVisits_served _ [])).2.1⟩

end Acme.Cloudflare
