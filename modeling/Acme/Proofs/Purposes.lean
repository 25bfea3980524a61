import Acme.Proofs.Outline

/-! What the POSTs of an issuance carry, and how a receiver tells the certificate request apart. -/

namespace Acme

open Interaction

/-- A body is signed and carries a payload. -/
def Carries (body payload : Bytes) : Prop :=
  ∃ header, Says body header payload

/-- The certificate request in a payload: its `csr` member, decoded. -/
def submittedCsr (payload : Bytes) : Option Bytes :=
  ((readJson payload).bind (textMember "csr")).bind readB64url

/-- The certificate request that a POST submits, if it submits one. -/
def csrOf : Event calls → Option Bytes
  | ⟨.postJose _ body, _⟩ => (readJws body).bind fun request => submittedCsr request.payload
  | _ => none

/-- Every POST of a trace has an allowed target, and carries a payload allowed there. -/
def Sends (allowed : String → Bytes → Prop) (trace : History) : Prop :=
  ∀ url body answer, posted url body answer ∈ trace →
    ∃ payload, Carries body payload ∧ allowed url payload

/-- What was learned from a successful POST-as-GET of a history. -/
def Saw {α : Type} (read : HttpResponse → Except AcmeError α) (history : History) (url : String)
    (value : α) : Prop :=
  ∃ body answer, posted url body (.ok answer) ∈ history ∧ Carries body [] ∧
    read answer = .ok value

variable {lib : Libraries} {account : Account} {trace : History}

/-- A body carries one payload only. -/
theorem Carries.unique {body payload other : Bytes} (first : Carries body payload)
    (second : Carries body other) : payload = other := by
  obtain ⟨_, states⟩ := first
  obtain ⟨_, again⟩ := second
  exact (states.unique again).2

/-- What a POST submits is decided by the payload it carries. -/
theorem csrOf_posted {url : String} {body payload : Bytes}
    {answer : Except AcmeError HttpResponse} (carries : Carries body payload) :
    csrOf (posted url body answer) = submittedCsr payload := by
  -- The payload is what is read from the body.
  obtain ⟨header, request, read, _, rfl⟩ := carries
  simp [csrOf, read]

/-- A member that is not among those an object was made of is not found in it. -/
theorem object_member_none {members : List (String × Json)} {name : String}
    (absent : ∀ pair ∈ members, pair.1 ≠ name) : (lib.object members).member name = none := by
  unfold Libraries.object
  -- Sorting adds no members.
  split <;> simpa [Json.member] using absent

/-- An object without a `csr` member submits nothing. -/
theorem submittedCsr_none {members : List (String × Json)}
    (formed : ∀ pair ∈ members, pair.2.WellFormed) (absent : ∀ pair ∈ members, pair.1 ≠ "csr") :
    submittedCsr (toVec (lib.object members)) = none := by
  simp [submittedCsr, readJson_toVec (object_wellFormed formed), textMember,
    object_member_none absent]

/-- A finalize request submits its certificate request. -/
theorem submittedCsr_csrPayload (lib : Libraries) (csrDer : Bytes) :
    submittedCsr (Certificate.csrPayload lib csrDer) = some csrDer := by
  -- The payload has one member, which is a text.
  have formed : (lib.object [("csr", .str (b64url csrDer))]).WellFormed :=
    object_wellFormed (by simp [Json.WellFormed])
  -- With one member there is nothing to sort.
  have single : lib.object [("csr", .str (b64url csrDer))] = .obj [("csr", .str (b64url csrDer))] := by
    unfold Libraries.object
    split <;> rfl
  rw [submittedCsr, Certificate.csrPayload, readJson_toVec formed, single]
  simp [textMember, Json.member, Json.text]

/-- Contacts are a list of texts. -/
theorem contacts_wellFormed (contact : List String) :
    (Json.arr (contact.map .str)).WellFormed := by
  show Json.WellFormedItems _
  -- Strings are well formed, one after the other.
  induction contact with
  | nil => trivial
  | cons first rest ih => exact ⟨trivial, ih⟩

/-- Identifiers are a list of objects. -/
theorem identifiers_wellFormed (lib : Libraries) (identifiers : List Identifier) :
    (Json.arr (identifiers.map (Identifier.toJson lib))).WellFormed := by
  show Json.WellFormedItems _
  -- Each identifier is an object of two strings.
  induction identifiers with
  | nil => trivial
  | cons first rest ih => exact ⟨object_wellFormed (by simp [Json.WellFormed]), ih⟩

/-- A `newAccount` request submits no certificate request. -/
theorem submittedCsr_newAccountPayload (lib : Libraries) (contact : List String)
    (termsAgreed onlyReturnExisting : Bool) :
    submittedCsr (Account.newAccountPayload lib contact termsAgreed onlyReturnExisting) = none := by
  -- None of the members is a certificate request.
  refine submittedCsr_none ?_ (by simp)
  simpa [Json.WellFormed] using contacts_wellFormed contact

/-- A `newOrder` request submits no certificate request. -/
theorem submittedCsr_newOrderPayload (lib : Libraries) (identifiers : List Identifier) :
    submittedCsr (Order.newOrderPayload lib identifiers) = none := by
  -- None of the members is a certificate request.
  refine submittedCsr_none ?_ (by simp)
  simpa [Json.WellFormed] using identifiers_wellFormed lib identifiers

/-- A `newAccount` request is no `newOrder` request. -/
theorem newAccountPayload_ne (lib : Libraries) {contact : List String}
    {termsAgreed onlyReturnExisting : Bool} {identifiers : List Identifier} :
    Account.newAccountPayload lib contact termsAgreed onlyReturnExisting
      ≠ Order.newOrderPayload lib identifiers := by
  intro same
  -- Both read back, and only an order has identifiers.
  have read := congrArg readJson same
  rw [Account.newAccountPayload, Order.newOrderPayload,
    readJson_toVec (object_wellFormed (by simpa [Json.WellFormed] using contacts_wellFormed contact)),
    readJson_toVec (object_wellFormed
      (by simpa [Json.WellFormed] using identifiers_wellFormed lib identifiers))] at read
  have members := congrArg (Json.member "identifiers") (Option.some.inj read)
  rw [object_member_none (by simp)] at members
  -- With one member there is nothing to sort.
  unfold Libraries.object at members
  split at members <;> simp [Json.member] at members

/-- Telling the authority to validate submits no certificate request. -/
theorem submittedCsr_kickPayload : submittedCsr Challenge.kickPayload = none := by
  decide +kernel

/-- A POST-as-GET submits no certificate request. -/
theorem submittedCsr_nil : submittedCsr [] = none := by
  decide +kernel

/-- More may be allowed. -/
theorem Sends.mono {allowed more : String → Bytes → Prop} (sends : Sends allowed trace)
    (implies : ∀ url payload, allowed url payload → more url payload) : Sends more trace := by
  intro url body answer member
  obtain ⟨payload, carries, permitted⟩ := sends url body answer member
  exact ⟨payload, carries, implies url payload permitted⟩

/-- Joined traces keep to what is allowed when both parts do. -/
theorem Sends.append {allowed : String → Bytes → Prop} {later : History}
    (first : Sends allowed trace) (second : Sends allowed later) :
    Sends allowed (trace ++ later) := by
  intro url body answer member
  -- Each request is in one of the two parts.
  rcases List.mem_append.mp member with early | late
  · exact first url body answer early
  · exact second url body answer late

/-- Nothing is sent in an empty trace. -/
theorem sends_nil {allowed : String → Bytes → Prop} : Sends allowed [] := nofun

/-- Calls that are no POSTs are always allowed. -/
theorem Sends.cons {allowed : String → Bytes → Prop} {event : Event calls}
    (other : isPost event = false) (rest : Sends allowed trace) :
    Sends allowed (event :: trace) := by
  intro url body answer member
  -- The first event is no request.
  rcases List.mem_cons.mp member with rfl | later
  · cases other
  · exact rest url body answer later

/-- A request in an account's name carries its payload to its URL. -/
theorem Reads.sends {α : Type} {store : ReplayNonceStore} {sign : String → Except Stop Bytes}
    {url : String} {payload : Bytes} {read : HttpResponse → Except AcmeError α}
    {outcome : Except Stop α}
    (carries : ∀ nonce body, sign nonce = .ok body → Carries body payload)
    (reads : Reads store sign url read trace outcome) :
    Sends (fun target content => target = url ∧ content = payload) trace := by
  intro target body answer member
  obtain ⟨exchanged, run, _⟩ := reads
  -- The request is the one POST of the trace, if there is one.
  have listed : posted target body answer ∈ posts trace := List.mem_filter.mpr ⟨member, rfl⟩
  rcases run.one_post with ⟨none, _⟩ | ⟨nonce, content, reply, signed, only, _⟩
  · rw [none] at listed
    cases listed
  · rw [only, List.mem_singleton] at listed
    cases listed
    exact ⟨payload, carries nonce body signed, rfl, rfl⟩

/-- A request in an account's name carries its payload to its URL. -/
theorem Asks.sends {α : Type} {url : String} {payload : Bytes}
    {read : HttpResponse → Except AcmeError α} {outcome : Except Stop α}
    (asks : Asks lib account url payload read trace outcome) :
    Sends (fun target content => target = url ∧ content = payload) trace :=
  Reads.sends (fun _ _ signed => ⟨_, says_kid signed⟩) asks

/-- A successful request is one POST, whose response was read. -/
theorem Asks.posts_ok {α : Type} {url : String} {payload : Bytes}
    {read : HttpResponse → Except AcmeError α} {value : α}
    (asks : Asks lib account url payload read trace (.ok value)) :
    ∃ body answer, posts trace = [posted url body (.ok answer)] ∧ Carries body payload ∧
      read answer = .ok value := by
  obtain ⟨exchanged, run, came⟩ := asks
  obtain ⟨answer, rfl, learned⟩ := bind_result_eq_ok.mp came.symm
  -- A value was read, so there was an answer, and so there was a request.
  rcases run.one_post with ⟨_, _, failed⟩ | ⟨nonce, body, reply, signed, only, answered⟩
  · cases failed
  · cases reply with
    | error failure => cases answered
    | ok response =>
      obtain rfl := Except.ok.inj answered
      exact ⟨body, answer, only, ⟨_, says_kid signed⟩, learned⟩

/-- A successful question teaches what was read. -/
theorem Asks.saw {α : Type} {url : String} {read : HttpResponse → Except AcmeError α} {value : α}
    (asks : Asks lib account url [] read trace (.ok value)) : Saw read trace url value := by
  obtain ⟨body, answer, only, carries, learned⟩ := asks.posts_ok
  -- The answer that was read is the one to the POST.
  have listed : posted url body (.ok answer) ∈ posts trace := by simp [only]
  exact ⟨body, answer, (List.mem_filter.mp listed).1, carries, learned⟩

/-- What was learned in a part of a history was learned in the whole. -/
theorem Saw.mono {α : Type} {read : HttpResponse → Except AcmeError α} {url : String} {value : α}
    {whole : History} (saw : Saw read trace url value) (part : ∀ event ∈ trace, event ∈ whole) :
    Saw read whole url value := by
  obtain ⟨body, answer, member, rest⟩ := saw
  exact ⟨body, answer, part _ member, rest⟩

/-- A polling loop sends what its questions send. -/
theorem Polling.sends {α β : Type} {poll : Poll α β} {pause : Duration} {deadline : Instant}
    {outcome : Except Stop β} {allowed : String → Bytes → Prop}
    (asked : ∀ {trace outcome}, poll.ask.Ends trace outcome → Sends allowed trace)
    (polling : Polling poll pause deadline trace outcome) : Sends allowed trace := by
  -- Letting a handle go sends nothing.
  have left : Sends allowed (lettingGo poll.handle) := by
    cases poll.handle with
    | none => exact sends_nil
    | some ready => exact .cons rfl sends_nil
  -- By induction on the rounds, of which only the questions send.
  induction polling with
  | failed question => exact (asked question).append left
  | settled question => exact (asked question).append left
  | expired question => exact (asked question).append (.cons rfl left)
  | again question _ _ _ ih => exact (asked question).append (.cons rfl (.cons rfl ih))
  | cut => exact sends_nil

/-- What may be sent to a challenge: the word to validate, or nothing. -/
def ToChallenge (url target : String) (content : Bytes) : Prop :=
  target = url ∧ (content = Challenge.kickPayload ∨ content = [])

/-- Seeing a challenge through sends the challenge's URL the word to validate, and then nothing. -/
theorem DriveRun.sends {url : String} {ready : Handle} {timeout pause : Duration}
    {outcome : Except Stop Unit} (run : DriveRun lib url account ready timeout pause trace outcome) :
    Sends (ToChallenge url) trace := by
  -- The first request says to validate the challenge.
  have kicked : ∀ {trace outcome},
      Asks lib account url Challenge.kickPayload (HttpResponse.accepted lib) trace outcome →
      Sends (ToChallenge url) trace :=
    fun asked => asked.sends.mono fun _ _ sent => ⟨sent.1, .inl sent.2⟩
  cases run with
  | unseen failure => exact .cons rfl (.cons rfl sends_nil)
  | unkicked asked => exact .cons rfl ((kicked asked).append (.cons rfl sends_nil))
  | endless asked => exact .cons rfl ((kicked asked).append (.cons rfl (.cons rfl sends_nil)))
  | polled asked _ polling =>
    -- Those after it ask for its status.
    have polls : Sends (ToChallenge url) _ := polling.sends fun question =>
      (asks_run question).sends.mono fun _ _ sent => ⟨sent.1, .inr sent.2⟩
    exact .cons rfl ((kicked asked).append (.cons rfl polls))

/-- An authorization takes POST-as-GETs and the word to validate. -/
theorem SessionRun.sends {solvers : List ChallengeKind} {timeout : Duration} {url : String}
    {outcome : Except Stop Unit} (run : SessionRun lib account solvers timeout url trace outcome) :
    Sends (fun _ content => content = Challenge.kickPayload ∨ content = []) trace := by
  -- Fetching the authorization is asked with the empty payload.
  cases run with
  | unfetched asked | valid asked | unmatched asked | tokenless asked =>
    exact asked.sends.mono fun _ _ sent => .inr sent.2
  | unarmed failure asked =>
    exact (asked.sends.mono fun _ _ sent => .inr sent.2).append (.cons rfl sends_nil)
  | driven asked _ _ _ driven =>
    exact (asked.sends.mono fun _ _ sent => .inr sent.2).append
      (.cons rfl (driven.sends.mono fun _ _ sent => sent.2))

/-- A list of authorizations takes POST-as-GETs and the word to validate. -/
theorem SessionsRun.sends {solvers : List ChallengeKind} {timeout : Duration}
    {urls : List String} {sessions : List History} {outcome : Except Stop Unit}
    (run : SessionsRun lib account solvers timeout urls sessions outcome) :
    Sends (fun _ content => content = Challenge.kickPayload ∨ content = []) sessions.flatten := by
  -- The sessions follow each other.
  induction run with
  | done => exact sends_nil
  | stopped session => simpa using session.sends
  | next session _ ih => exact session.sends.append ih

/-- A trace in which no payload holds a certificate request submits none. -/
theorem Sends.unsubmitted {allowed : String → Bytes → Prop} (sends : Sends allowed trace)
    (without : ∀ url payload, allowed url payload → submittedCsr payload = none) :
    ∀ event ∈ trace, csrOf event = none := by
  intro event member
  obtain ⟨call, answer⟩ := event
  -- Only a POST can carry a certificate request, and its payload carries none.
  cases call with
  | postJose url body =>
    obtain ⟨payload, carries, permitted⟩ := sends url body answer member
    rw [csrOf_posted carries, without url payload permitted]
  | _ => rfl

/-- No authorization submits a certificate request. -/
theorem SessionsRun.unsubmitted {solvers : List ChallengeKind} {timeout : Duration}
    {urls : List String} {sessions : List History} {outcome : Except Stop Unit}
    (run : SessionsRun lib account solvers timeout urls sessions outcome) :
    ∀ event ∈ sessions.flatten, csrOf event = none := by
  refine run.sends.unsubmitted fun _ payload permitted => ?_
  -- The sessions only say to validate, or ask.
  rcases permitted with rfl | rfl
  · exact submittedCsr_kickPayload
  · exact submittedCsr_nil

end Acme
