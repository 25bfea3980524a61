import Acme.Proofs.Asking
import Acme.Proofs.HonestAuthority
import Acme.Proofs.IssueRun
import Acme.Proofs.ScriptedAuthority
import Acme.Proofs.Selection

/-! An issuance that deals with an authority which keeps to the protocol. -/

namespace Acme

open Interaction

/-- What a client has to bring for a dealing to succeed. -/
structure Dealing.Equipped (dealing : Dealing) : Prop where
  /-- The authority is looked for where it is. -/
  found : dealing.request.directoryUrl = dealing.site.directoryUrl
  /-- The account key can sign. -/
  signs : ∀ message, ∃ signature,
    dealing.lib.sign dealing.request.accountKey message = some signature
  /-- A certificate request can be built. -/
  csr : ∃ der, Csr.buildCsr dealing.lib dealing.request.certKey dealing.request.identifiers
    = .ok der
  /-- The budgets can be added to every time that the clock shows. -/
  challengeClock :
    dealing.latest + dealing.request.challengeTimeout.nanos ≤ dealing.lib.instantMax
  finalizeClock :
    dealing.latest + dealing.request.finalizeTimeout.nanos ≤ dealing.lib.instantMax
  /-- There is a solver for each authorization that is not valid yet. -/
  solvers : ∀ index offer, dealing.site.offers[index]? = some offer →
    index ∉ dealing.site.reused →
      ∃ entry ∈ offer.challenges, ChallengeKind.fromType entry.1 ∈ dealing.request.solvers

/-- Every nonce in the pool can be used. -/
def Desk.Sound (desk : Desk) : Prop :=
  (desk.queue : Multiset String) ≤ desk.unused

variable {dealing : Dealing} {desk : Desk}

/-- A document that reads as something is one. -/
theorem readsAs_iff {α : Type} {document : Except String α} {kind : α → Prop} :
    ReadsAs document kind ↔ ∃ value, document = .ok value ∧ kind value := by
  cases document <;> simp [ReadsAs]

/-- A reply that succeeds is a response. -/
theorem succeeds_iff {reply : Except AcmeError HttpResponse} {kind : HttpResponse → Prop} :
    Dealing.Succeeds reply kind ↔
      ∃ response, reply = .ok response ∧ response.isSuccess = true ∧ kind response := by
  cases reply <;> simp [Dealing.Succeeds]

/-- A place is found at its address. -/
theorem Site.locate_address {site : Site} {place : Place} (there : place ∈ places site.offers) :
    site.locate (site.address place) = some place := by
  -- Something is found there, as the place itself has that address.
  have found : (site.locate (site.address place)).isSome := by
    rw [Site.locate, List.find?_isSome]
    exact ⟨place, there, by simp⟩
  obtain ⟨other, same⟩ := Option.isSome_iff_exists.mp found
  rw [same]
  -- Whatever is found has the same address, so it is the same place.
  have address := List.find?_some same
  have member := List.mem_of_find?_eq_some same
  exact congrArg some (List.inj_on_of_nodup_map site.distinct member there (by simpa using address))

/-- Values that are added to the pool stand at its end. -/
theorem pushAll_keeps (values : List String) :
    Fallible.Keeps dealing.contract desk (ReplayNonceStore.pushAll values) fun outcome reached =>
      outcome = .ok () ∧ reached = { desk with queue := desk.queue ++ values } := by
  -- By induction on the values; each of them is appended to the queue.
  induction values generalizing desk with
  | nil => exact ⟨rfl, by simp⟩
  | cons value rest ih =>
    refine Fallible.keeps_bind.mpr ⟨trivial, fun _ _ => ?_⟩
    show Fallible.Keeps dealing.contract { desk with queue := desk.queue ++ [value] }
      (ReplayNonceStore.pushAll rest) _
    refine Program.Keeps.mono ih ?_
    rintro outcome reached ⟨rfl, rfl⟩
    exact ⟨rfl, by simp⟩

/-- A nonce can be obtained, which is good for a request, and everything in the pool still is. -/
theorem get_keeps (sound : desk.Sound) :
    Fallible.Keeps dealing.contract desk
      ({ newNonceUrl := dealing.site.newNonce } : ReplayNonceStore).get fun outcome reached =>
        ∃ nonce, outcome = .ok nonce ∧ reached.docket = desk.docket ∧
          nonce ::ₘ (reached.queue : Multiset String) ≤ reached.unused := by
  refine Fallible.keeps_bind.mpr ⟨trivial, fun reply taken => ?_⟩
  obtain ⟨queue, unused, docket⟩ := desk
  cases queue with
  -- The pool has a nonce, and takes its oldest one.
  | cons nonce rest =>
    obtain rfl : reply = some nonce := taken
    exact ⟨nonce, rfl, rfl, sound⟩
  | nil =>
    obtain rfl : reply = none := taken
    -- The authority is asked for nonces.
    refine Fallible.keeps_bind.mpr (Fallible.keeps_bind.mpr ⟨rfl, fun reply answered => ?_⟩)
    obtain ⟨response, rfl, success, some⟩ := succeeds_iff.mp answered
    show Fallible.Keeps dealing.contract { queue := [], unused := unused + response.nonces, docket }
      (if response.isSuccess = true then _ else _) _
    rw [if_pos success]
    refine Fallible.keeps_bind.mpr (Program.Keeps.mono (pushAll_keeps response.nonces) ?_)
    rintro _ _ ⟨rfl, rfl⟩
    cases nonces : response.nonces with
    -- The authority has promised at least one.
    | nil => exact absurd nonces some
    | cons nonce rest =>
      refine Fallible.keeps_bind.mpr ⟨trivial, fun empty looked => ?_⟩
      -- What it has sent is in the pool now, and the first of it is taken.
      obtain rfl : empty = false := looked
      refine ⟨trivial, fun reply taken => ?_⟩
      obtain rfl : reply = Option.some nonce := taken
      exact ⟨nonce, rfl, rfl, Multiset.le_add_left _ _⟩

/-- What a request has to be, apart from its nonce and its signature. -/
structure Dealing.Proper (dealing : Dealing) (docket : Docket) (place : Place) (payload : Bytes)
    (jwk : Option Json) (kid : Option String) : Prop where
  there : place ∈ places dealing.site.offers
  accepts : dealing.Accepts docket payload place
  formed : ∀ value ∈ jwk, value.WellFormed
  sender : if place = .newAccount then
      jwk = some (dealing.request.accountKey.publicJwk dealing.lib) ∧ kid = none
    else docket.registered = true ∧ jwk = none ∧ kid = some dealing.site.kid

/-- A request was granted, and the order has come so much further. -/
structure Dealing.Granted (dealing : Dealing) (docket : Docket) (place : Place) (payload : Bytes)
    (response : HttpResponse) (reached : Desk) : Prop where
  success : response.isSuccess = true
  grants : dealing.Grants docket payload response place
  sound : reached.Sound
  docket : reached.docket = dealing.advance docket payload response place

/-- A proper request is acceptable, and it is granted. -/
theorem exchange_keeps {place : Place} {payload : Bytes} {jwk : Option Json} {kid : Option String}
    {sign : String → Except Stop Bytes} (equipped : dealing.Equipped) (sound : desk.Sound)
    (proper : dealing.Proper desk.docket place payload jwk kid)
    (signs : ∀ nonce, sign nonce = signJwsInner dealing.lib payload (dealing.site.address place)
      nonce jwk kid dealing.request.accountKey) :
    Fallible.Keeps dealing.contract desk
      (exchange { newNonceUrl := dealing.site.newNonce } sign (dealing.site.address place))
      fun outcome reached => ∃ response, outcome = .ok response ∧
        dealing.Granted desk.docket place payload response reached := by
  -- A nonce comes first, and it is one that may be used.
  refine Fallible.keeps_bind.mpr (Program.Keeps.mono (get_keeps sound) ?_)
  rintro _ middle ⟨nonce, rfl, docket, covered⟩
  -- The request can be signed, and says what was signed.
  obtain ⟨body, made⟩ : ∃ body, sign nonce = .ok body := by
    obtain ⟨signature, made⟩ := equipped.signs (Utf8.bytes (signingInput
      { alg := dealing.request.accountKey.alg, jwk, kid, nonce, url := dealing.site.address place }
      payload))
    rw [signs, signJwsInner, made]
    exact ⟨_, rfl⟩
  obtain ⟨signature, signed, read⟩ := readJws_signJwsInner proper.formed ((signs nonce) ▸ made)
  -- The authority recognises the address.
  have located := Site.locate_address proper.there
  refine Fallible.keeps_bind.mpr (Fallible.keeps_ofExcept.mpr ?_)
  rw [made]
  refine Fallible.keeps_bind.mpr ⟨⟨_, read, ?_⟩, fun reply answered => ?_⟩
  · -- What the authority reads in the body is all that it asks of a request.
    exact
      { target := rfl
        alg := rfl
        signed
        nonce := Multiset.mem_of_le covered (Multiset.mem_cons_self _ _)
        sender := by simpa [located, docket] using proper.sender
        place := ⟨place, located, docket ▸ proper.accepts⟩ }
  · obtain ⟨response, rfl, success, grants⟩ :=
      succeeds_iff.mp (answered _ read place located)
    -- The nonce is used up, and those of the response can be used now.
    have after : dealing.contract.next middle
        ⟨.postJose (dealing.site.address place) body, .ok response⟩
          = { middle with
              unused := middle.unused.erase nonce + response.nonces
              docket := dealing.advance middle.docket payload response place } := by
      simp only [Dealing.contract, Dealing.next, Dealing.settle, read, located]
    show Fallible.Keeps dealing.contract (dealing.contract.next middle
      ⟨.postJose (dealing.site.address place) body, .ok response⟩) _ _
    rw [after]
    refine Fallible.keeps_bind.mpr (Program.Keeps.mono (pushAll_keeps response.nonces) ?_)
    rintro _ _ ⟨rfl, rfl⟩
    refine ⟨response, rfl, success, docket ▸ grants, ?_, by rw [docket]⟩
    -- What is in the pool did not need the nonce that was used.
    have left : (middle.queue : Multiset String) ≤ middle.unused.erase nonce := by
      simpa using Multiset.erase_le_erase nonce covered
    rw [Desk.Sound, ← Multiset.coe_add]
    exact add_le_add left le_rfl

/-- A directory that leads to the places of the authority. -/
structure Dealing.Guides (dealing : Dealing) (directory : Directory) : Prop where
  newNonce : directory.newNonce = dealing.site.newNonce
  newAccount : directory.newAccount = dealing.site.address .newAccount
  newOrder : directory.newOrder = dealing.site.address .newOrder

/-- An account that the authority knows. -/
structure Dealing.Knows (dealing : Dealing) (account : Account) : Prop where
  kid : account.kid = dealing.site.kid
  key : account.key = dealing.request.accountKey
  nonce : account.nonce = { newNonceUrl := dealing.site.newNonce }
  directory : dealing.Guides account.directory

/-- The directory is fetched. -/
theorem fetch_keeps :
    Fallible.Keeps dealing.contract desk
      (Directory.fetch dealing.lib dealing.site.directoryUrl) fun outcome reached =>
        reached = desk ∧ ∃ directory, outcome = .ok directory ∧ dealing.Guides directory := by
  rw [Directory.fetch_eq]
  refine Fallible.keeps_bind.mpr ⟨rfl, fun reply answered => ?_⟩
  obtain ⟨response, rfl, success, document⟩ := succeeds_iff.mp answered
  obtain ⟨directory, parsed, newNonce, newAccount, newOrder⟩ := readsAs_iff.mp document
  -- The document can be read, as the authority has promised.
  have read : Directory.read dealing.lib response = .ok directory := by
    simp [Directory.read, HttpResponse.ok, success, Directory.parse, parsed, bind, Except.bind,
      Except.mapError]
  show desk = desk ∧ ∃ directory, result (Directory.read dealing.lib response) = .ok directory ∧ _
  rw [read]
  exact ⟨rfl, directory, rfl, newNonce, newAccount, newOrder⟩

/-- The account is created. -/
theorem create_keeps {directory : Directory} (equipped : dealing.Equipped) (sound : desk.Sound)
    (guides : dealing.Guides directory) (contact : List String) :
    Fallible.Keeps dealing.contract desk
      (Account.create dealing.lib directory contact true dealing.request.accountKey)
      fun outcome reached => ∃ account, outcome = .ok account ∧ dealing.Knows account ∧
        reached.Sound ∧ reached.docket = { desk.docket with registered := true } := by
  unfold Account.create
  rw [createWithOptions_eq]
  -- The first request brings its key along, as there is no account yet.
  have proper : dealing.Proper desk.docket .newAccount
      (Account.newAccountPayload dealing.lib contact true false)
      (some (dealing.request.accountKey.publicJwk dealing.lib)) none :=
    { there := by simp [places]
      accepts := ⟨contact, rfl⟩
      formed := by simpa using publicJwk_wellFormed _ _
      sender := by simp }
  rw [guides.newNonce, guides.newAccount]
  refine Fallible.keeps_bind.mpr (Program.Keeps.mono
    (exchange_keeps equipped sound proper fun nonce => ?_) ?_)
  · -- It is signed by that key.
    simp [signNewAccount, signJwsWithJwk, guides.newAccount]
  · -- The response names the account, and says what the authority has noted of it.
    rintro _ reached ⟨response, rfl, granted⟩
    obtain ⟨location, document⟩ := granted.grants
    obtain ⟨record, parsed, _⟩ := readsAs_iff.mp document
    have made : Account.created dealing.lib directory dealing.request.accountKey response = .ok
        { record
          kid := dealing.site.kid
          key := dealing.request.accountKey
          nonce := { newNonceUrl := directory.newNonce }
          directory } := by
      simp [Account.created, HttpResponse.ok, granted.success, location, parsed, bind, Except.bind,
        Except.mapError]
    show ∃ account, result (Account.created dealing.lib directory dealing.request.accountKey
      response) = .ok account ∧ _
    rw [made]
    exact ⟨_, rfl, ⟨rfl, rfl, by rw [guides.newNonce], guides⟩, granted.sound, granted.docket⟩

/-- A question in the name of the account is granted. -/
theorem asks_keeps {α : Type} {account : Account} {place : Place} {payload : Bytes}
    {read : HttpResponse → Except AcmeError α} (equipped : dealing.Equipped) (sound : desk.Sound)
    (knows : dealing.Knows account) (registered : desk.docket.registered = true)
    (there : place ∈ places dealing.site.offers) (old : place ≠ .newAccount)
    (accepts : dealing.Accepts desk.docket payload place) :
    Fallible.Keeps dealing.contract desk
      (account.postKid dealing.lib (dealing.site.address place) payload >>=
        fun answer => lift (read answer))
      fun outcome reached => ∃ response, outcome = result (read response) ∧
        dealing.Granted desk.docket place payload response reached := by
  -- The request names the account, and not its key.
  have proper : dealing.Proper desk.docket place payload none (some dealing.site.kid) :=
    { there
      accepts
      formed := by simp
      sender := by simp [old, registered] }
  have signs (nonce : String) : signFor dealing.lib account (dealing.site.address place) payload
      nonce = signJwsInner dealing.lib payload (dealing.site.address place) nonce none
        (some dealing.site.kid) dealing.request.accountKey := by
    simp [signFor, signJwsWithKid, knows.kid, knows.key]
  have exchanged := exchange_keeps equipped sound proper signs
  rw [← knows.nonce] at exchanged
  refine Fallible.keeps_bind.mpr (Program.Keeps.mono exchanged ?_)
  rintro _ reached ⟨response, rfl, granted⟩
  exact ⟨response, rfl, granted⟩

/-- The reasons to stop that are left, all of them for want of patience or of turns. -/
inductive Dealing.Excused (dealing : Dealing) (fuel : Nat) : Stop → Prop where
  /-- The run was cut short before the authority had decided. -/
  | cut (slow : dealing.prompt = false ∨ fuel = 0) : Excused dealing fuel .unfinished
  /-- The time was up before the authority had decided. -/
  | late (slow : dealing.prompt = false) (message : String) :
      Excused dealing fuel (.error (.timeout message))

/-- A handle, if any, belongs to something that is deployed. -/
def Desk.Holds (desk : Desk) (handle : Option Handle) : Prop :=
  ∀ ready ∈ handle, ready ∈ desk.docket.deployed.map Deployment.ready

/-- A handle, if any, is let go. -/
def Desk.without (desk : Desk) (handle : Option Handle) : Desk :=
  match handle with
  | some ready =>
    { desk with docket.deployed := desk.docket.deployed.filter (·.ready ≠ ready) }
  | none => desk

/-- How a resource is polled that gets settled well, if at all. -/
structure Dealing.Polls {α β : Type} (dealing : Dealing) (poll : Poll α β)
    (before : Desk → Prop) (settled : β → Desk → Prop) : Prop where
  asks : ∀ desk, before desk → Fallible.Keeps dealing.contract desk poll.ask
    fun outcome reached => ∃ value, outcome = .ok value ∧
      ((∃ found, poll.verdict value = some (.ok found) ∧ settled found reached) ∨
        poll.verdict value = none ∧ dealing.prompt = false ∧ before reached)
  late : ∀ value, ∃ message, poll.late value = .timeout message
  held : ∀ desk, (before desk ∨ ∃ found, settled found desk) → desk.Holds poll.handle

/-- Letting go of a handle is all right when it is held. -/
theorem letGo_keeps {handle : Option Handle} (holds : desk.Holds handle) :
    Fallible.Keeps dealing.contract desk (letGo handle) fun outcome reached =>
      outcome = .ok () ∧ reached = desk.without handle := by
  cases handle with
  | none => exact ⟨rfl, rfl⟩
  | some ready => exact ⟨holds ready rfl, fun _ _ => ⟨rfl, rfl⟩⟩

/-- A question that is always answered does not touch the handle. -/
theorem guarding_keeps {α : Type} {handle : Option Handle} {program : Client α}
    {post : α → Desk → Prop}
    (keeps : Fallible.Keeps dealing.contract desk program fun outcome reached =>
      ∃ value, outcome = .ok value ∧ post value reached) :
    Fallible.Keeps dealing.contract desk (guarding handle program) fun outcome reached =>
      ∃ value, outcome = .ok value ∧ post value reached := by
  cases handle with
  | none => exact keeps
  -- The handle is dropped on a failure only, and there is none.
  | some ready =>
    refine Fallible.keeps_cleaning.mpr (Program.Keeps.mono keeps ?_)
    rintro _ reached ⟨value, rfl, ends⟩
    exact ⟨value, rfl, ends⟩

/-- Such a loop ends well, or there is no waiting any longer. -/
theorem Dealing.Polls.loop {α β : Type} {poll : Poll α β} {before : Desk → Prop}
    {settled : β → Desk → Prop} (polls : dealing.Polls poll before settled) (pause : Duration)
    (deadline : Instant) (fuel : Nat) (start : before desk) :
    Fallible.Keeps dealing.contract desk (poll.loop pause deadline fuel) fun outcome reached =>
      match outcome with
      | .ok found => ∃ last, settled found last ∧ reached = last.without poll.handle
      | .error stop => dealing.Excused fuel stop ∧
          (stop ≠ .unfinished → ∃ last, before last ∧ reached = last.without poll.handle) := by
  -- By induction on the rounds; each of them asks, and waits when the resource is not settled.
  induction fuel generalizing desk with
  -- There is no turn left, and the authority has not decided.
  | zero => exact ⟨.cut (.inr rfl), fun ended => absurd rfl ended⟩
  | succ fuel ih =>
    refine Fallible.keeps_bind.mpr (Program.Keeps.mono (guarding_keeps (polls.asks desk start)) ?_)
    rintro _ middle ⟨value, rfl, ⟨found, verdict, done⟩ | ⟨verdict, slow, again⟩⟩
    · -- It is settled: what is deployed for it is let go, and the loop is over.
      simp only [verdict]
      have held := polls.held middle (.inr ⟨found, done⟩)
      refine Fallible.keeps_bind.mpr (Program.Keeps.mono (letGo_keeps held) ?_)
      rintro _ _ ⟨rfl, rfl⟩
      exact ⟨middle, done, rfl⟩
    · simp only [verdict]
      refine Fallible.keeps_bind.mpr ⟨trivial, fun time _ => ?_⟩
      show Fallible.Keeps dealing.contract middle (if deadline ≤ time then _ else _) _
      split
      · -- The deadline has passed.
        obtain ⟨message, late⟩ := polls.late value
        have held := polls.held middle (.inl again)
        refine Fallible.keeps_bind.mpr (Program.Keeps.mono (letGo_keeps held) ?_)
        rintro _ _ ⟨rfl, rfl⟩
        refine ⟨?_, fun _ => ⟨middle, again, rfl⟩⟩
        rw [late]
        exact .late slow message
      · refine Fallible.keeps_bind.mpr ⟨trivial, fun _ _ => ?_⟩
        show Fallible.Keeps dealing.contract middle (poll.loop pause deadline fuel) _
        refine Program.Keeps.mono (ih again) ?_
        rintro (stop | found) reached ends
        · refine ⟨?_, ends.2⟩
          -- What excuses the rest excuses the whole.
          cases ends.1 with
          | cut => exact .cut (.inl slow)
          | late _ message => exact .late slow message
        · exact ends

/-- The authority looks at one of the challenges that it offers for an authorization. -/
structure Dealing.Offered (dealing : Dealing) (index position : Nat) (offer : Offer)
    (type token : String) : Prop where
  authorized : dealing.site.offers[index]? = some offer
  listed : offer.challenges[position]? = some (type, token)

/-- An offered authorization has a place. -/
theorem authorization_mem_places {offers : List Offer} {index : Nat}
    (small : index < offers.length) : .authorization index ∈ places offers := by
  refine List.mem_append_right _ (List.mem_flatMap.mpr ⟨(offers[index], index), ?_, .head _⟩)
  -- It stands in the list of offers with its number.
  rw [List.mem_zipIdx_iff_getElem?]
  exact List.getElem?_eq_getElem small

/-- An offered challenge has a place. -/
theorem Dealing.Offered.there {index position : Nat} {offer : Offer} {type token : String}
    (offered : dealing.Offered index position offer type token) :
    .challenge index position ∈ places dealing.site.offers := by
  refine List.mem_append_right _ (List.mem_flatMap.mpr ⟨(offer, index), ?_, .tail _ ?_⟩)
  · -- Its authorization has a place, and the challenge has one behind it.
    rw [List.mem_zipIdx_iff_getElem?]
    exact offered.authorized
  · have small := (List.getElem?_eq_some_iff.mp offered.listed).1
    exact List.mem_map.mpr ⟨position, List.mem_range.mpr small, rfl⟩

/-- A docket with one response deployed, to a challenge that is offered. -/
structure Dealing.Showing (dealing : Dealing) (docket : Docket) (ready : Handle)
    (index position : Nat) (offer : Offer) (type token : String) : Prop where
  registered : docket.registered = true
  ordered : docket.ordered = true
  offered : dealing.Offered index position offer type token
  shown : dealing.Shown docket offer type token
  only : docket.deployed.map Deployment.ready = [ready]

/-- A challenge whose response is deployed is polled until it is valid. -/
theorem challenge_polls {account : Account} {docket : Docket} {ready : Handle}
    {index position : Nat} {offer : Offer} {type token : String} (equipped : dealing.Equipped)
    (knows : dealing.Knows account)
    (showing : dealing.Showing docket ready index position offer type token)
    (accepted : (index, position) ∈ docket.accepted) (timeout : Duration) :
    dealing.Polls (Challenge.poll dealing.lib (dealing.site.address (.challenge index position))
      account ready timeout) (fun desk => desk.Sound ∧ desk.docket = docket)
      fun _ desk => desk.Sound ∧
        desk.docket = { docket with validated := index :: docket.validated } where
  asks := by
    rintro desk ⟨sound, rfl⟩
    -- The authority was told to look, so that it may be asked now.
    have accepts : dealing.Accepts desk.docket [] (.challenge index position) :=
      ⟨showing.ordered, offer, type, token, showing.offered.authorized, showing.offered.listed,
        showing.shown, .inr ⟨rfl, accepted⟩⟩
    -- It answers with the challenge, whatever its state is.
    refine Program.Keeps.mono (asks_keeps equipped sound knows showing.registered
      showing.offered.there (by simp) accepts) ?_
    rintro _ reached ⟨response, rfl, granted⟩
    obtain ⟨challenge, parsed, fine, decided⟩ := readsAs_iff.mp (granted.grants rfl)
    have read : Challenge.read dealing.lib response = .ok challenge := by
      simp [Challenge.read, HttpResponse.ok, granted.success, parsed, bind, Except.bind,
        Except.mapError]
    have docket := granted.docket
    simp only [Dealing.advance, if_true, parsed, Dealing.reads] at docket
    refine ⟨challenge, by rw [read]; rfl, ?_⟩
    by_cases valid : challenge.statusEnum = .valid
    · -- The authority has found the response.
      refine .inl ⟨(), by simp [Challenge.poll, Challenge.verdict, valid], granted.sound, ?_⟩
      simpa [valid] using docket
    · refine .inr ⟨?_, ?_, granted.sound, by simpa [valid] using docket⟩
      · -- It was not found yet; the authority does not find it wrong, so it is asked again.
        cases status : challenge.statusEnum with
        | valid => exact absurd status valid
        | invalid => exact absurd status fine
        | pending | processing | unknown => simp [Challenge.poll, Challenge.verdict, status]
      · exact Bool.eq_false_iff.mpr fun prompt => valid (decided prompt)
  late _ := ⟨_, rfl⟩
  held := by
    -- The response is deployed all the time.
    rintro desk (⟨_, same⟩ | ⟨_, _, same⟩) _ ⟨⟩
    all_goals
      show ready ∈ desk.docket.deployed.map Deployment.ready
      rw [same]
      exact showing.only ▸ .head _

/-- What makes the time of a deadline representable. -/
theorem deadline_representable {lib : Libraries} {time latest : Instant} {timeout : Duration}
    (early : time ≤ latest) (clock : latest + timeout.nanos ≤ lib.instantMax) :
    deadlineAfter lib time timeout = .ok (time + timeout.nanos) := by
  unfold deadlineAfter
  exact if_pos ((Nat.add_le_add_right early _).trans clock)

/-- The authority is told to look, and a deadline is set. -/
theorem prepare_keeps {account : Account} {ready : Handle} {index position : Nat} {offer : Offer}
    {type token : String} {timeout : Duration} (equipped : dealing.Equipped) (sound : desk.Sound)
    (knows : dealing.Knows account)
    (showing : dealing.Showing desk.docket ready index position offer type token)
    (clock : dealing.latest + timeout.nanos ≤ dealing.lib.instantMax) :
    Fallible.Keeps dealing.contract desk (Challenge.prepare dealing.lib
      (dealing.site.address (.challenge index position)) account ready timeout)
      fun outcome reached => ∃ deadline, outcome = .ok deadline ∧ reached.Sound ∧
        reached.docket = { desk.docket with
          accepted := (index, position) :: desk.docket.accepted } := by
  -- The solver checks what it has deployed.
  have held : ready ∈ desk.docket.deployed.map Deployment.ready := showing.only ▸ .head _
  refine Fallible.keeps_bind.mpr ⟨held, ?_⟩
  rintro _ rfl
  -- The authority may be told to look, as the response is deployed.
  have accepts : dealing.Accepts desk.docket Challenge.kickPayload (.challenge index position) :=
    ⟨showing.ordered, offer, type, token, showing.offered.authorized, showing.offered.listed,
      showing.shown, .inl rfl⟩
  show Fallible.Keeps dealing.contract desk (_ >>= _) _
  refine Fallible.keeps_bind.mpr (Program.Keeps.mono (asks_keeps equipped sound knows
    showing.registered showing.offered.there (by simp) accepts) ?_)
  rintro _ reached ⟨response, rfl, granted⟩
  have read : HttpResponse.accepted dealing.lib response = .ok () := by
    simp [HttpResponse.accepted, HttpResponse.ok, granted.success, Except.map]
  rw [read]
  refine Fallible.keeps_bind.mpr ⟨trivial, fun time early => ?_⟩
  -- The clock is not as late as its end.
  have set : deadlineAfter dealing.lib time timeout = .ok (time + timeout.nanos) :=
    deadline_representable early clock
  refine ⟨_, set, granted.sound, granted.docket.trans ?_⟩
  rw [Dealing.advance, if_neg (by decide)]

/-- A docket that is between two authorizations, the first of which are valid. -/
structure Dealing.Between (dealing : Dealing) (docket : Docket) (count : Nat) : Prop where
  registered : docket.registered = true
  ordered : docket.ordered = true
  idle : docket.deployed = []
  reused : ∀ index ∈ dealing.site.reused, index ∈ docket.validated
  validated : ∀ index < count, index ∈ docket.validated

/-- A part of an issuance ends well, or there is no waiting any longer and nothing is deployed. -/
def Dealing.Manages {α : Type} (dealing : Dealing) (fuel : Nat) (done : α → Desk → Prop)
    (outcome : Except Stop α) (reached : Desk) : Prop :=
  match outcome with
  | .ok value => done value reached
  | .error stop => dealing.Excused fuel stop ∧
    (stop ≠ .unfinished → reached.docket.deployed = [])

/-- A part that goes on with another one manages when both do. -/
theorem Dealing.Manages.bind {α β : Type} {fuel : Nat} {first : Client α} {rest : α → Client β}
    {middle : α → Desk → Prop} {done : β → Desk → Prop}
    (keeps : Fallible.Keeps dealing.contract desk first (dealing.Manages fuel middle))
    (later : ∀ value reached, middle value reached →
      Fallible.Keeps dealing.contract reached (rest value) (dealing.Manages fuel done)) :
    Fallible.Keeps dealing.contract desk (first >>= rest) (dealing.Manages fuel done) := by
  refine Fallible.keeps_bind.mpr (Program.Keeps.mono keeps ?_)
  -- When the first part stops, the other one is not begun.
  rintro (stop | value) reached ends
  · exact ends
  · exact later value reached ends

/-- A part ends well when the authority decides at once. -/
theorem Dealing.Manages.certain {α : Type} {fuel : Nat} {done : α → Desk → Prop}
    {outcome : Except Stop α} {reached : Desk}
    (ends : dealing.Manages fuel done outcome reached) (prompt : dealing.prompt = true)
    (turns : 0 < fuel) : ∃ value, outcome = .ok value ∧ done value reached := by
  cases outcome with
  | ok value => exact ⟨value, rfl, ends⟩
  | error stop =>
    -- There is no excuse left.
    exfalso
    cases ends.1 with
    | cut slow =>
      rcases slow with slow | none
      · simp [prompt] at slow
      · omega
    | late slow => simp [prompt] at slow

/-- A challenge whose response is deployed is driven until it is valid. -/
theorem pollChallenge_keeps {account : Account} {ready : Handle} {index position : Nat}
    {offer : Offer} {type token : String} {timeout : Duration} (fuel : Nat)
    (equipped : dealing.Equipped) (sound : desk.Sound) (knows : dealing.Knows account)
    (showing : dealing.Showing desk.docket ready index position offer type token)
    (clock : dealing.latest + timeout.nanos ≤ dealing.lib.instantMax) :
    Fallible.Keeps dealing.contract desk (Challenge.pollChallenge dealing.lib fuel
      (dealing.site.address (.challenge index position)) account ready timeout)
      (dealing.Manages fuel fun _ reached => reached.Sound ∧ reached.docket =
        { desk.docket with
          accepted := (index, position) :: desk.docket.accepted
          validated := index :: desk.docket.validated
          deployed := [] }) := by
  unfold Challenge.pollChallenge
  rw [pollChallengeWithInterval_eq]
  -- It is prepared first, and what is deployed is still deployed after that.
  refine Fallible.keeps_bind.mpr (Program.Keeps.mono
    (guarding_keeps (prepare_keeps equipped sound knows showing clock)) ?_)
  rintro _ middle ⟨deadline, rfl, fine, docket⟩
  have still : dealing.Showing middle.docket ready index position offer type token := by
    rw [docket]
    exact ⟨showing.registered, showing.ordered, showing.offered, showing.shown, showing.only⟩
  -- The authority knows that it may look.
  have told : (index, position) ∈ middle.docket.accepted := by
    rw [docket]
    exact .head _
  -- What is deployed is taken down when the loop ends.
  have empty {last : Desk} (same : last.docket.deployed = desk.docket.deployed) :
      (last.without (some ready)).docket.deployed = [] := by
    show last.docket.deployed.filter (·.ready ≠ ready) = []
    rw [same, List.filter_eq_nil_iff]
    intro deployment member
    have found : deployment.ready ∈ desk.docket.deployed.map Deployment.ready :=
      List.mem_map_of_mem member
    rw [showing.only, List.mem_singleton] at found
    simp [found]
  -- From here on it is a loop, which asks for the challenge.
  have polls := challenge_polls equipped knows still told timeout
  refine Program.Keeps.mono (polls.loop _ deadline fuel ⟨fine, rfl⟩) ?_
  rintro (stop | ⟨⟩) reached ends
  · -- The loop was left for an excuse.
    obtain ⟨excused, left⟩ := ends
    refine ⟨excused, fun ended => ?_⟩
    obtain ⟨last, ⟨_, same⟩, rfl⟩ := left ended
    exact empty (by rw [same, docket])
  · -- The challenge is valid, and its response is gone.
    obtain ⟨last, ⟨good, same⟩, rfl⟩ := ends
    have down := @empty last (by rw [same, docket])
    refine ⟨good, ?_⟩
    show ({ last.docket with deployed := last.docket.deployed.filter (·.ready ≠ ready) } : Docket)
      = _
    rw [show last.docket.deployed.filter (·.ready ≠ ready) = [] from down, same, docket]

/-- A challenge of a documented authorization is one that is offered. -/
theorem documented_challenge {docket : Docket} {index : Nat} {offer : Offer}
    {authz : Authorization} {challenge : Challenge}
    (authorized : dealing.site.offers[index]? = some offer)
    (documents : dealing.Documents docket index offer authz)
    (member : challenge ∈ authz.challenges) :
    ∃ position token, dealing.Offered index position offer challenge.type token ∧
      challenge.url = dealing.site.address (.challenge index position) ∧
      challenge.token = some token := by
  -- It stands at the same position in the document and in the offer.
  obtain ⟨position, found⟩ := List.getElem?_of_mem member
  have same := congrArg (·[position]?) documents.2.2
  simp only [List.getElem?_map, List.getElem?_mapIdx, found, Option.map_some] at same
  cases listed : offer.challenges[position]? with
  | none => simp [listed] at same
  | some entry =>
    simp only [listed, Option.map_some, Option.some.injEq, Prod.mk.injEq] at same
    obtain ⟨type, url, token⟩ := same
    exact ⟨position, entry.2, ⟨authorized, by rw [type]; exact listed⟩, url, token⟩

/-- There is a solver for an authorization that is not valid yet. -/
theorem documented_solver {docket : Docket} {index : Nat} {offer : Offer} {authz : Authorization}
    (equipped : dealing.Equipped) (authorized : dealing.site.offers[index]? = some offer)
    (reused : ∀ index ∈ dealing.site.reused, index ∈ docket.validated)
    (documents : dealing.Documents docket index offer authz) (open_ : authz.statusEnum ≠ .valid) :
    ∃ solver challenge, Selected authz.challenges dealing.request.solvers solver challenge ∧
      pickSolverAndChallenge dealing.lib authz dealing.request.solvers = .ok (solver, challenge) := by
  rcases picked_cases dealing.lib authz dealing.request.solvers with picked | ⟨unmatched, _⟩
  · exact picked
  · -- The solver that was brought for the offer fits to a challenge in the document.
    have fresh : index ∉ dealing.site.reused := fun valid =>
      open_ (documents.2.1.mpr (reused index valid))
    obtain ⟨entry, listed, handled⟩ := equipped.solvers index offer authorized fresh
    obtain ⟨position, found⟩ := List.getElem?_of_mem listed
    have same := congrArg (·[position]?) documents.2.2
    simp only [List.getElem?_map, List.getElem?_mapIdx, found, Option.map_some] at same
    obtain ⟨challenge, there, written⟩ := Option.map_eq_some_iff.mp same
    -- The challenge is of the type that the solver handles.
    have type : challenge.type = entry.1 := congrArg Prod.fst written
    refine absurd ?_ (unmatched _ handled challenge (List.mem_of_getElem? there))
    rw [Challenge.kind, type]

/-- An authorization is seen through until it is valid. -/
theorem runOne_keeps {account : Account} {index : Nat} (fuel : Nat) (equipped : dealing.Equipped)
    (sound : desk.Sound) (knows : dealing.Knows account)
    (small : index < dealing.site.offers.length) (between : dealing.Between desk.docket index) :
    Fallible.Keeps dealing.contract desk (runOneAuthorization dealing.lib fuel
      (dealing.site.address (.authorization index)) account dealing.request.solvers
      dealing.request.challengeTimeout)
      (dealing.Manages fuel fun _ reached => reached.Sound ∧
        dealing.Between reached.docket (index + 1)) := by
  have authorized : dealing.site.offers[index]? = some dealing.site.offers[index] :=
    List.getElem?_eq_getElem small
  unfold runOneAuthorization
  -- The authorization is fetched, and the authority documents how it stands.
  rw [Authorization.fetch_eq]
  refine Fallible.keeps_bind.mpr (Program.Keeps.mono (asks_keeps equipped sound knows
    between.registered (authorization_mem_places small) (by simp) ⟨rfl, between.ordered⟩) ?_)
  rintro _ reached ⟨response, rfl, granted⟩
  obtain ⟨authz, parsed, documents⟩ := readsAs_iff.mp (granted.grants _ authorized)
  have read : Authorization.read dealing.lib response = .ok authz := by
    simp [Authorization.read, HttpResponse.ok, granted.success, parsed, bind, Except.bind,
      Except.mapError]
  have docket : reached.docket = desk.docket := granted.docket
  rw [← docket] at between documents
  rw [read]
  show Fallible.Keeps dealing.contract reached (if authz.statusEnum = .valid then pure ()
    else lift _ >>= _) _
  -- A valid authorization is left as it is, and any other one gets a solver.
  by_cases valid : authz.statusEnum = .valid
  · -- It is valid from an earlier order.
    rw [if_pos valid]
    refine ⟨granted.sound, between.registered, between.ordered, between.idle, between.reused, ?_⟩
    -- The earlier ones are still valid, and this one is said to be.
    intro other before
    rcases Nat.lt_succ_iff_lt_or_eq.mp before with earlier | rfl
    · exact between.validated other earlier
    · exact documents.2.1.mp valid
  · rw [if_neg valid]
    -- A challenge is picked, which is one of those that were offered.
    obtain ⟨solver, challenge, selected, picked⟩ :=
      documented_solver equipped authorized between.reused documents valid
    obtain ⟨front, behind, split, _⟩ := selected.first
    obtain ⟨position, token, offered, url, named⟩ :=
      documented_challenge authorized documents (show challenge ∈ _ by simp [split])
    rw [picked, lift_ok_bind]
    simp only [named]
    -- Its solver works, and the handle is a new one.
    refine Fallible.keeps_bind.mpr ⟨trivial, fun reply worked => ?_⟩
    rcases reply with failure | ready
    · exact worked.elim
    -- The response is deployed while the challenge is driven.
    let armed : Desk := { reached with docket.deployed :=
      { ready
        solver
        identifier := authz.identifier
        keyAuthorization := computeKeyAuthorization dealing.lib token account.key } ::
          reached.docket.deployed }
    have stillSound : armed.Sound := granted.sound
    -- It is the only one, for the challenge that was picked.
    have showing : dealing.Showing armed.docket ready index position dealing.site.offers[index]
        challenge.type token :=
      { registered := between.registered
        ordered := between.ordered
        offered
        shown := ⟨_, .head _, selected.fits, documents.1, by rw [knows.key]⟩
        only := by
          show ready :: reached.docket.deployed.map Deployment.ready = [ready]
          rw [between.idle]
          rfl }
    rw [url]
    show Fallible.Keeps dealing.contract armed (Challenge.pollChallenge dealing.lib fuel
      (dealing.site.address (.challenge index position)) account ready
      dealing.request.challengeTimeout) _
    -- When the challenge is valid, so is its authorization.
    refine Program.Keeps.mono (pollChallenge_keeps fuel equipped stillSound knows showing
      equipped.challengeClock) ?_
    rintro (stop | ⟨⟩) last ends
    · exact ends
    · obtain ⟨good, same⟩ := ends
      refine ⟨good, ?_⟩
      rw [same]
      refine ⟨between.registered, between.ordered, rfl, ?_, ?_⟩
      · -- Those of earlier orders stay valid.
        exact fun other old => .tail _ (between.reused other old)
      · intro other before
        rcases Nat.lt_succ_iff_lt_or_eq.mp before with earlier | rfl
        · exact .tail _ (between.validated other earlier)
        · exact .head _

/-- The authorizations of an order are seen through, one after the other. -/
theorem runAuthorizations_keeps {account : Account} (fuel : Nat) (equipped : dealing.Equipped)
    (knows : dealing.Knows account) (count start : Nat)
    (fits : start + count = dealing.site.offers.length) (sound : desk.Sound)
    (between : dealing.Between desk.docket start) :
    Fallible.Keeps dealing.contract desk (runAuthorizations dealing.lib fuel account
      dealing.request.solvers dealing.request.challengeTimeout
      ((List.range' start count).map fun index => dealing.site.address (.authorization index)))
      (dealing.Manages fuel fun _ reached => reached.Sound ∧
        dealing.Between reached.docket dealing.site.offers.length) := by
  -- By induction on how many are left.
  induction count generalizing desk start with
  -- None is left, and all of them are valid.
  | zero =>
    obtain rfl : start = dealing.site.offers.length := fits
    exact ⟨sound, between⟩
  -- The next one is seen through, and then those behind it.
  | succ count ih =>
    refine Dealing.Manages.bind (runOne_keeps fuel equipped sound knows (by omega) between) ?_
    rintro ⟨⟩ reached ⟨fine, further⟩
    exact ih (start + 1) (by omega) fine further

/-- What a created order says. -/
structure Dealing.Describes (dealing : Dealing) (order : Order) : Prop where
  url : order.url = dealing.site.address .order
  identifiers : order.identifiers = dealing.request.identifiers
  authorizations : order.authorizations = (List.range dealing.site.offers.length).map
    fun index => dealing.site.address (.authorization index)
  finalize : order.finalize = dealing.site.address .finalize

/-- The order is created. -/
theorem order_keeps {account : Account} (equipped : dealing.Equipped) (sound : desk.Sound)
    (knows : dealing.Knows account) (registered : desk.docket.registered = true) :
    Fallible.Keeps dealing.contract desk
      (Order.create dealing.lib account dealing.request.identifiers) fun outcome reached =>
        ∃ order, outcome = .ok order ∧ dealing.Describes order ∧ reached.Sound ∧
          reached.docket = { desk.docket with ordered := true } := by
  rw [Order.create_eq, knows.directory.newOrder]
  refine Program.Keeps.mono (asks_keeps equipped sound knows registered
    (show Place.newOrder ∈ _ by simp [places]) (by simp) rfl) ?_
  rintro _ reached ⟨response, rfl, granted⟩
  -- The response says where the order is and what it is for.
  obtain ⟨location, document⟩ := granted.grants
  obtain ⟨order, parsed, identifiers, authorizations, finalize⟩ := readsAs_iff.mp document
  have read : Order.created dealing.lib response
      = .ok { order with url := dealing.site.address .order } := by
    simp [Order.created, Order.parse, HttpResponse.ok, granted.success, location, parsed, bind,
      Except.bind, Except.mapError]
  exact ⟨{ order with url := dealing.site.address .order }, by rw [read]; rfl,
    ⟨rfl, identifiers, authorizations, finalize⟩, granted.sound, granted.docket⟩

/-- A valid order with a certificate is settled. -/
theorem Certificate.verdict_valid {order : Order} {certificate : String}
    (status : order.statusEnum = .valid) (there : order.certificate = some certificate) :
    Certificate.verdict order = some (.ok order) := by
  simp [Certificate.verdict, status, there]

/-- An order that is neither valid nor invalid is not settled. -/
theorem Certificate.verdict_open {order : Order} (early : order.statusEnum ≠ .valid)
    (fine : order.statusEnum ≠ .invalid) : Certificate.verdict order = none := by
  unfold Certificate.verdict
  -- In every other state the order is asked for again.
  cases status : order.statusEnum with
  | valid => exact absurd status early
  | invalid => exact absurd status fine
  | pending | ready | processing | unknown => rfl

/-- A finalized order is polled until it is valid. -/
theorem order_polls (docket : Docket) {account : Account} {order : Order}
    (equipped : dealing.Equipped) (knows : dealing.Knows account)
    (describes : dealing.Describes order) (registered : docket.registered = true)
    (ordered : docket.ordered = true) (finalized : docket.finalized = true)
    (timeout : Duration) :
    dealing.Polls (Certificate.poll dealing.lib order account timeout)
      (fun desk => desk.Sound ∧ desk.docket = docket) fun found desk => desk.Sound ∧
        desk.docket = { docket with issued := true } ∧
        found.certificate = some (dealing.site.address .certificate) where
  asks := by
    rintro desk ⟨sound, rfl⟩
    show Fallible.Keeps dealing.contract desk (question dealing.lib account order.url
      (Order.refreshed dealing.lib order.url)) _
    rw [describes.url]
    -- The order is asked for at its own address.
    refine Program.Keeps.mono (asks_keeps equipped sound knows registered
      (show Place.order ∈ _ by simp [places]) (by simp) ⟨rfl, ordered⟩) ?_
    rintro _ reached ⟨response, rfl, granted⟩
    obtain ⟨refreshed, parsed, fine, certified, decided⟩ := readsAs_iff.mp granted.grants
    have read : Order.refreshed dealing.lib (dealing.site.address .order) response
        = .ok { refreshed with url := dealing.site.address .order } := by
      simp [Order.refreshed, Order.parse, HttpResponse.ok, granted.success, parsed, bind,
        Except.bind, Except.mapError]
    have docket := granted.docket
    simp only [Dealing.advance, parsed, Dealing.reads] at docket
    refine ⟨{ refreshed with url := dealing.site.address .order }, by rw [read]; rfl, ?_⟩
    by_cases valid : refreshed.statusEnum = .valid
    · -- The certificate has been issued.
      have there := (certified valid).2
      exact .inl ⟨_, Certificate.verdict_valid valid there, granted.sound,
        by simpa [valid] using docket, there⟩
    · -- It is not issued yet, and it is not refused either.
      exact .inr ⟨Certificate.verdict_open valid fine,
        Bool.eq_false_iff.mpr fun prompt => valid (decided prompt finalized), granted.sound,
        by simpa [valid] using docket⟩
  late _ := ⟨_, rfl⟩
  held := by
    -- No handle goes with an order.
    rintro _ _ _ ⟨⟩

/-- An order whose authorizations are valid is finalized, and its certificate downloaded. -/
theorem closing_keeps {account : Account} {order : Order} (fuel : Nat)
    (equipped : dealing.Equipped) (sound : desk.Sound) (knows : dealing.Knows account)
    (describes : dealing.Describes order)
    (between : dealing.Between desk.docket dealing.site.offers.length) :
    Fallible.Keeps dealing.contract desk
      (finalizeAndDownload dealing.lib fuel dealing.request account order)
      (dealing.Manages fuel fun chain reached => chain = dealing.site.chain ∧
        reached.docket.deployed = [] ∧ reached.docket.issued = true) := by
  obtain ⟨der, built⟩ := equipped.csr
  -- The order is finalized with the request that was built, and polled.
  have finalizing : Fallible.Keeps dealing.contract desk (Certificate.finalizeWithDeadline
      dealing.lib fuel order dealing.request.certKey account dealing.request.finalizeTimeout)
      (dealing.Manages fuel fun found reached => reached.Sound ∧
        reached.docket = { desk.docket with finalized := true, issued := true } ∧
        found.certificate = some (dealing.site.address .certificate)) := by
    unfold Certificate.finalizeWithDeadline Certificate.finalizeWithIntervals
    rw [if_neg (describes.url ▸ dealing.site.named), describes.identifiers, built, lift_ok_bind,
      post_accepted_bind, describes.finalize]
    -- The request is for the order, and its authorizations are valid.
    have accepts : dealing.Accepts desk.docket (Certificate.csrPayload dealing.lib der) .finalize :=
      ⟨between.ordered, between.validated, der, built, rfl⟩
    refine Fallible.keeps_bind.mpr (Program.Keeps.mono (asks_keeps equipped sound knows
      between.registered (by simp [places]) (by simp) accepts) ?_)
    rintro _ middle ⟨response, rfl, granted⟩
    have read : HttpResponse.accepted dealing.lib response = .ok () := by
      simp [HttpResponse.accepted, HttpResponse.ok, granted.success, Except.map]
    rw [read]
    refine Fallible.keeps_bind.mpr ⟨trivial, fun time early => ?_⟩
    have docket : middle.docket = { desk.docket with finalized := true } := granted.docket
    -- The clock is not as late as its end.
    have set : deadlineAfter dealing.lib time dealing.request.finalizeTimeout
        = .ok (time + dealing.request.finalizeTimeout.nanos) :=
      deadline_representable early equipped.finalizeClock
    show Fallible.Keeps dealing.contract middle (Fallible.ofExcept (deadlineAfter dealing.lib time
      dealing.request.finalizeTimeout) >>= _) _
    rw [set]
    show Fallible.Keeps dealing.contract middle (Certificate.pollUntil dealing.lib order account
      dealing.request.finalizeTimeout (Duration.fromSecs 2)
      (time + dealing.request.finalizeTimeout.nanos) fuel) _
    rw [Certificate.pollUntil_eq]
    -- From here on the order is asked for in a loop.
    have polls := order_polls middle.docket equipped knows describes
      (docket ▸ between.registered) (docket ▸ between.ordered) (docket ▸ rfl)
      dealing.request.finalizeTimeout
    refine Program.Keeps.mono (polls.loop _ _ fuel ⟨granted.sound, rfl⟩) ?_
    rintro (stop | found) reached ends
    · obtain ⟨excused, left⟩ := ends
      refine ⟨excused, fun ended => ?_⟩
      -- No handle is let go.
      obtain ⟨_, ⟨_, same⟩, rfl⟩ := left ended
      rw [same, docket]
      exact between.idle
    · -- The order is valid, and says where its certificate is.
      obtain ⟨_, ⟨good, same, there⟩, rfl⟩ := ends
      exact ⟨good, by rw [docket] at same; exact same, there⟩
  unfold finalizeAndDownload
  refine Dealing.Manages.bind finalizing ?_
  rintro found reached ⟨good, docket, there⟩
  rw [there]
  show Fallible.Keeps dealing.contract reached (Certificate.download dealing.lib
    (dealing.site.address .certificate) account) _
  rw [Certificate.download_eq]
  -- The certificate is there once the order is valid.
  refine Program.Keeps.mono (asks_keeps equipped good knows
    (by rw [docket]; exact between.registered)
    (show Place.certificate ∈ _ by simp [places]) (by simp) ⟨rfl, by rw [docket]⟩) ?_
  rintro _ last ⟨response, rfl, granted⟩
  have read : Certificate.read dealing.lib response = .ok response.body := by
    simp [Certificate.read, HttpResponse.ok, granted.success, bind, Except.bind]
  have chain : response.body = dealing.site.chain := granted.grants
  -- A download changes nothing.
  have same : last.docket = reached.docket := granted.docket
  rw [read, chain]
  refine ⟨rfl, ?_, ?_⟩
  · rw [same, docket]
    exact between.idle
  · rw [same, docket]

/-- An issuance keeps the contract, from the directory to the certificate. -/
theorem issue_keeps (fuel : Nat) (equipped : dealing.Equipped) :
    Fallible.Keeps dealing.contract dealing.opening
      (issueCertificateWithTimeouts dealing.lib fuel dealing.request)
      (dealing.Manages fuel fun chain reached => chain = dealing.site.chain ∧
        reached.docket.deployed = [] ∧ reached.docket.issued = true) := by
  have sound : dealing.opening.Sound := Multiset.zero_le _
  unfold issueCertificateWithTimeouts
  rw [equipped.found]
  -- The directory leads to the account, and the account to the order.
  refine Fallible.keeps_bind.mpr (Program.Keeps.mono fetch_keeps ?_)
  rintro _ _ ⟨rfl, directory, rfl, guides⟩
  refine Fallible.keeps_bind.mpr (Program.Keeps.mono
    (create_keeps equipped sound guides dealing.request.contact) ?_)
  rintro _ registered ⟨account, rfl, knows, fine, docket⟩
  refine Fallible.keeps_bind.mpr (Program.Keeps.mono
    (order_keeps equipped fine knows (by rw [docket])) ?_)
  rintro _ ordered ⟨order, rfl, describes, good, filed⟩
  -- No authorization is valid yet, except for those of earlier orders.
  have between : dealing.Between ordered.docket 0 := by
    rw [filed, docket]
    exact
      { registered := rfl
        ordered := rfl
        idle := rfl
        reused := fun _ member => member
        validated := fun _ impossible => absurd impossible (Nat.not_lt_zero _) }
  show Fallible.Keeps dealing.contract ordered (runAuthorizations dealing.lib fuel account
    dealing.request.solvers dealing.request.challengeTimeout order.authorizations >>= _) _
  rw [describes.authorizations, List.range_eq_range']
  -- Then the authorizations are seen through, from the first to the last.
  refine Dealing.Manages.bind
    (runAuthorizations_keeps fuel equipped knows _ 0 (Nat.zero_add _) good between) ?_
  rintro ⟨⟩ authorized ⟨still, complete⟩
  exact closing_keeps fuel equipped still knows describes complete

/--
Against an authority that keeps to the protocol, with solvers and a clock that work, every
request of an issuance is one that the authority has to fulfil: it is signed for its address
with a nonce that has not been used, by a sender the authority knows, and asks for what it
may ask for at that time. The issuance returns the certificate of the authority, unless it
is cut short or runs out of time before the authority has decided, and in the end nothing
is left deployed. When the authority decides promptly, the certificate is returned.
-/
theorem honest_authority_issues {dealing : Dealing} {fuel : Nat} {trace : History}
    {outcome : Except Stop Bytes} (equipped : dealing.Equipped)
    (run : (issueCertificateWithTimeouts dealing.lib fuel dealing.request).Ends trace outcome)
    (honest : dealing.contract.promising.Admits dealing.opening trace) :
    dealing.contract.demanding.Admits dealing.opening trace ∧
      dealing.Manages fuel (fun chain reached => chain = dealing.site.chain ∧
          reached.docket.deployed = [] ∧ reached.docket.issued = true)
        outcome (dealing.contract.promising.after dealing.opening trace) ∧
      (dealing.prompt = true → 0 < fuel → outcome = .ok dealing.site.chain) := by
  obtain ⟨demanded, ends⟩ := Program.Keeps.leads (issue_keeps fuel equipped) run honest
  refine ⟨demanded, ends, fun prompt turns => ?_⟩
  -- Without an excuse the run has come to its end.
  obtain ⟨chain, rfl, issued, _⟩ := ends.certain prompt turns
  rw [issued]

/-- The authority of concrete runs, which validates one challenge for one identifier. -/
def sampleSite : Site where
  directoryUrl := "ca/directory"
  newNonce := "ca/nonce"
  kid := "ca/acct/1"
  offers := [{ identifier := Identifier.dns "a.example", challenges := [("http-01", "tok")] }]
  reused := []
  address
    | .newAccount => "ca/account"
    | .newOrder => "ca/order"
    | .authorization _ => "ca/authz/1"
    | .challenge _ _ => "ca/chall/1"
    | .order => "ca/order/1"
    | .finalize => "ca/order/1/finalize"
    | .certificate => "ca/cert/1"
  chain := Utf8.bytes "chain"
  distinct := by decide
  named := by decide

/-- The text of the authorization once its challenge was found met. -/
def validAuthorizationText : String :=
  "\x7b\"identifier\":\x7b\"type\":\"dns\",\"value\":\"a.example\"\x7d,\"status\":\"valid\"," ++
  "\"challenges\":[" ++ challengeText "pending" ++ "]\x7d"

/-- A dealing with that authority, which decides at once. -/
def sampleDealing : Dealing where
  lib :=
    { sampleLibraries with
      parseAuthorization := readTable
        [(authorizationText "a.example", sampleAuthorization "a.example"),
          (validAuthorizationText, { sampleAuthorization "a.example" with status := "valid" })] }
  request := sampleRequest
  site := sampleSite
  prompt := true
  latest := 0

/-- The client of concrete runs can deal with it. -/
theorem sampleDealing_equipped : sampleDealing.Equipped where
  found := rfl
  signs _ := ⟨_, rfl⟩
  csr := ⟨_, rfl⟩
  challengeClock := by decide +kernel
  finalizeClock := by decide +kernel
  solvers := by
    intro index offer there _
    cases index with
    -- There is one offer, and its challenge is for the solver that was brought.
    | zero =>
      obtain rfl := Option.some.inj there
      exact ⟨("http-01", "tok"), by simp, by decide⟩
    | succ index => simp [sampleDealing, sampleSite] at there

/-- What that authority answers to requests for a place. -/
def sampleGrant (docket : Docket) : Place → Except AcmeError HttpResponse
  | .newAccount => answering 201 "n" [("Location", "ca/acct/1")] "{}"
  | .newOrder => answering 201 "n" [("Location", "ca/order/1")] (orderText "pending" "a.example" "")
  | .authorization _ =>
    answering 200 "n" []
      (if 0 ∈ docket.validated then validAuthorizationText else authorizationText "a.example")
  | .challenge _ _ => answering 200 "n" [] (challengeText "valid")
  | .finalize => answering 200 "n" [] ""
  | .order =>
    answering 200 "n" []
      (if docket.finalized then orderText "valid" "a.example" certificateText
        else orderText "pending" "a.example" "")
  | .certificate => answering 200 "n" [] "chain"

/-- What that authority, a clock that stands still, and a queue answer. -/
def sampleReply (desk : Desk) : (call : Call) → call.Reply
  | .head _ => answering 200 "n" [] ""
  | .get _ => answering 200 "n" [] directoryText
  | .postJose url _ => match sampleSite.locate url with
    | some place => sampleGrant desk.docket place
    | none => .error (.transport "not found")
  | .popFront => desk.queue.head?
  | .isEmpty => desk.queue.isEmpty
  | .arm _ _ _ => .ok ((desk.docket.deployed.map Deployment.ready).max?.getD 0 + 1)
  | .selfCheck _ => .ok ()
  | .now => 0
  | .pushBack _ | .clear | .dropReady _ | .sleep _ => ()

/-- A document that is in a table is read. -/
theorem readTable_here {α : Type} (text : String) (value : α) (rest : List (String × α)) :
    readTable ((text, value) :: rest) (Utf8.bytes text) = .ok value := by
  simp [readTable]

/-- Another document is looked for behind it. -/
theorem readTable_later {α : Type} {other text : String} (value : α) (rest : List (String × α))
    (differs : Utf8.bytes other ≠ Utf8.bytes text) :
    readTable ((other, value) :: rest) (Utf8.bytes text) = readTable rest (Utf8.bytes text) := by
  simp [readTable, differs]

/-- The client reads the directory of that authority. -/
theorem reads_directory :
    sampleDealing.lib.parseDirectory (Utf8.bytes directoryText) = .ok sampleDirectory := by
  simp only [sampleDealing, sampleLibraries]
  exact readTable_here _ _ _

/-- It reads an order that waits. -/
theorem reads_pendingOrder :
    sampleDealing.lib.parseOrder (Utf8.bytes (orderText "pending" "a.example" ""))
      = .ok (sampleOrder "pending" "a.example" none) := by
  simp only [sampleDealing, sampleLibraries]
  exact readTable_here _ _ _

/-- It reads an order that is done. -/
theorem reads_validOrder :
    sampleDealing.lib.parseOrder (Utf8.bytes (orderText "valid" "a.example" certificateText))
      = .ok (sampleOrder "valid" "a.example" (some "ca/cert/1")) := by
  simp only [sampleDealing, sampleLibraries]
  rw [readTable_later _ _ (by decide +kernel), readTable_later _ _ (by decide +kernel)]
  exact readTable_here _ _ _

/-- It reads an authorization that waits. -/
theorem reads_pendingAuthorization :
    sampleDealing.lib.parseAuthorization (Utf8.bytes (authorizationText "a.example"))
      = .ok (sampleAuthorization "a.example") := by
  simp only [sampleDealing, sampleLibraries]
  exact readTable_here _ _ _

/-- It reads an authorization that is done. -/
theorem reads_validAuthorization :
    sampleDealing.lib.parseAuthorization (Utf8.bytes validAuthorizationText)
      = .ok { sampleAuthorization "a.example" with status := "valid" } := by
  simp only [sampleDealing, sampleLibraries]
  rw [readTable_later _ _ (by decide +kernel)]
  exact readTable_here _ _ _

/-- It reads a challenge that was found met. -/
theorem reads_validChallenge :
    sampleDealing.lib.parseChallenge (Utf8.bytes (challengeText "valid"))
      = .ok (sampleChallenge "valid") := by
  simp only [sampleDealing, sampleLibraries]
  rw [readTable_later _ _ (by decide +kernel)]
  exact readTable_here _ _ _

/-- It grants what it may be asked for. -/
theorem sampleGrant_grants {docket : Docket} {payload : Bytes} {place : Place}
    (there : place ∈ places sampleSite.offers) :
    Dealing.Succeeds (sampleGrant docket place) fun response =>
      sampleDealing.Grants docket payload response place := by
  simp [places, sampleSite, List.range_succ] at there
  obtain rfl | rfl | rfl | rfl | rfl | rfl | rfl := there
  · -- The account is always created.
    exact of_decide_eq_true rfl
  · -- A new order waits.
    refine ⟨rfl, rfl, ?_⟩
    show ReadsAs (sampleDealing.lib.parseOrder (Utf8.bytes _)) _
    rw [reads_pendingOrder]
    exact ⟨rfl, rfl, rfl⟩
  · -- An order becomes valid once it is finalized.
    cases finalized : docket.finalized with
    | true =>
      simp only [sampleGrant, finalized, if_true]
      refine ⟨rfl, ?_⟩
      simp only [Dealing.Grants, reads_validOrder]
      exact ⟨by decide, fun _ => ⟨finalized, rfl⟩, fun _ _ => by decide⟩
    | false =>
      simp only [sampleGrant, finalized, Bool.false_eq_true, if_false]
      refine ⟨rfl, ?_⟩
      simp only [Dealing.Grants, reads_pendingOrder]
      refine ⟨by decide, fun valid => absurd valid (by decide), fun _ done => ?_⟩
      rw [finalized] at done
      cases done
  · exact of_decide_eq_true rfl
  · exact of_decide_eq_true rfl
  · -- An authorization is pending until it is valid.
    by_cases valid : 0 ∈ docket.validated
    · simp only [sampleGrant, valid, if_true]
      refine ⟨rfl, fun offer there => ?_⟩
      obtain rfl := Option.some.inj there
      show ReadsAs (sampleDealing.lib.parseAuthorization (Utf8.bytes _)) _
      rw [reads_validAuthorization]
      exact ⟨rfl, iff_of_true rfl valid, rfl⟩
    · simp only [sampleGrant, valid, if_false]
      refine ⟨rfl, fun offer there => ?_⟩
      obtain rfl := Option.some.inj there
      show ReadsAs (sampleDealing.lib.parseAuthorization (Utf8.bytes _)) _
      rw [reads_pendingAuthorization]
      exact ⟨rfl, iff_of_false (of_decide_eq_true rfl) valid, rfl⟩
  · -- A challenge is found met at once.
    refine ⟨rfl, fun _ => ?_⟩
    show ReadsAs (sampleDealing.lib.parseChallenge (Utf8.bytes _)) _
    rw [reads_validChallenge]
    exact ⟨by decide, fun _ => by decide⟩

/-- It answers as promised whatever is demanded. -/
theorem sampleReply_promises {desk : Desk} {call : Call}
    (demanded : sampleDealing.Demands desk call) :
    sampleDealing.Promises desk ⟨call, sampleReply desk call⟩ := by
  cases call with
  -- There is always a nonce.
  | head url => exact of_decide_eq_true rfl
  -- The directory is the one that the site has.
  | get url =>
    refine ⟨rfl, ?_⟩
    show ReadsAs (sampleDealing.lib.parseDirectory (Utf8.bytes _)) _
    rw [reads_directory]
    exact ⟨rfl, rfl, rfl⟩
  -- The address of a place is enough to answer.
  | postJose url body =>
    intro message read place located
    have there : place ∈ places sampleSite.offers := List.mem_of_find?_eq_some located
    have found : sampleSite.locate url = some place := located
    simp only [sampleReply, found]
    exact sampleGrant_grants there
  -- The handle is larger than those that are in use.
  | arm solver identifier keyAuthorization =>
    intro taken
    have small := List.le_max?_getD_of_mem (k := 0) taken
    omega
  | now => exact Nat.le_refl 0
  | popFront | isEmpty | selfCheck ready => rfl
  | pushBack value | clear | dropReady ready | sleep time => trivial

/-- The trace and the outcome of an operation that is answered so. -/
def deal {α : Type} (operation : Client α) : History × Except Stop α :=
  operation.run.play (fun history => sampleReply
    (sampleDealing.contract.promising.after sampleDealing.opening history)) []

/-- Such an operation is one of its runs. -/
theorem deal_ends {α : Type} (operation : Client α) :
    operation.Ends (deal operation).1 (deal operation).2 :=
  Program.play_returns _ _ _

/-- An operation that meets the demands is answered as promised. -/
theorem deal_honest {α : Type} {operation : Client α} {post : Except Stop α → Desk → Prop}
    (keeps : Fallible.Keeps sampleDealing.contract sampleDealing.opening operation post) :
    sampleDealing.contract.promising.Admits sampleDealing.opening (deal operation).1 :=
  -- Each answer is as promised, since each call meets the demands.
  Program.Keeps.play_admits (fun _ _ => sampleReply_promises) [] keeps

-- The run is known by its laws, and nothing has to be evaluated.
attribute [irreducible] deal

/-- The sample issuance returns the certificate of that authority. -/
theorem sampleDealing_issues :
    (deal (issueCertificateWithTimeouts sampleDealing.lib 1 sampleDealing.request)).2
      = .ok sampleDealing.site.chain :=
  (honest_authority_issues sampleDealing_equipped (deal_ends _)
    (deal_honest (issue_keeps 1 sampleDealing_equipped))).2.2 rfl (by decide)

end Acme
