import Acme.Interaction.Contract
import Acme.Proofs.JwsReader
import Acme.Core.Issue
import Mathlib.Algebra.Order.Group.Multiset

/-! An authority that keeps to the protocol, and surroundings that work, as a contract. -/

namespace Acme

open Interaction

/-- What an authority is asked for by POST. -/
inductive Place where
  | newAccount
  | newOrder
  | authorization (index : Nat)
  | challenge (index position : Nat)
  | order
  | finalize
  | certificate
deriving DecidableEq

/-- How control over an identifier can be shown: by challenges, with their types and tokens. -/
structure Offer where
  identifier : Identifier
  challenges : List (String × String)
deriving DecidableEq

/-- All places of an authority that makes some offers for an order. -/
def places (offers : List Offer) : List Place :=
  [.newAccount, .newOrder, .order, .finalize, .certificate] ++
    offers.zipIdx.flatMap fun entry => .authorization entry.2 ::
      (List.range entry.1.challenges.length).map (.challenge entry.2)

/-- An authority: where it is found, what it offers for an order, and what it will issue. -/
structure Site where
  directoryUrl : String
  newNonce : String
  kid : String
  offers : List Offer
  /-- The authorizations that are valid from earlier orders. -/
  reused : List Nat
  address : Place → String
  chain : Bytes
  /-- No two places have the same address. -/
  distinct : ((places offers).map address).Nodup
  /-- An order has an address. -/
  named : address .order ≠ ""

/-- The place at an address. -/
def Site.locate (site : Site) (url : String) : Option Place :=
  (places site.offers).find? fun place => site.address place = url

/-- A challenge response that is deployed. -/
structure Deployment where
  ready : Handle
  solver : Nat
  identifier : Identifier
  keyAuthorization : String
deriving DecidableEq

/-- How far an order has come. -/
structure Docket where
  registered : Bool
  ordered : Bool
  /-- The responses that are deployed. -/
  deployed : List Deployment
  /-- The challenges that the authority was told to look at. -/
  accepted : List (Nat × Nat)
  /-- The authorizations that are valid. -/
  validated : List Nat
  finalized : Bool
  issued : Bool
deriving DecidableEq

/-- Where everything stands: the client's pool, the authority's nonces, and the order. -/
structure Desk where
  queue : List String
  unused : Multiset String
  docket : Docket

/-- A client and an authority, and the terms on which they deal. -/
structure Dealing where
  lib : Libraries
  request : IssueRequest
  site : Site
  /-- The authority has decided whenever it is asked. -/
  prompt : Bool
  /-- The clock never shows more. -/
  latest : Instant

/-- A document reads as something of a kind. -/
def ReadsAs {α : Type} (document : Except String α) (kind : α → Prop) : Prop :=
  match document with
  | .ok value => kind value
  | .error _ => False

instance {α : Type} (document : Except String α) (kind : α → Prop) [DecidablePred kind] :
    Decidable (ReadsAs document kind) :=
  match document with
  | .ok value => inferInstanceAs (Decidable (kind value))
  | .error _ => .isFalse id

namespace Dealing

variable (dealing : Dealing)

/-- The response to a challenge is deployed by a solver of its type. -/
def Shown (docket : Docket) (offer : Offer) (type token : String) : Prop :=
  ∃ deployment ∈ docket.deployed,
    dealing.request.solvers[deployment.solver]? = some (ChallengeKind.fromType type) ∧
    deployment.identifier = offer.identifier ∧
    deployment.keyAuthorization
      = computeKeyAuthorization dealing.lib token dealing.request.accountKey

/-- What may be asked of a place. -/
def Accepts (docket : Docket) (payload : Bytes) : Place → Prop
  -- The terms have to be agreed to.
  | .newAccount => ∃ contact,
    payload = Account.newAccountPayload dealing.lib contact true false
  | .newOrder => payload = Order.newOrderPayload dealing.lib dealing.request.identifiers
  | .authorization _ | .order => payload = [] ∧ docket.ordered = true
  -- The response has to be there when the authority is told to look, and until it has.
  | .challenge index position => docket.ordered = true ∧ ∃ offer type token,
    dealing.site.offers[index]? = some offer ∧
    offer.challenges[position]? = some (type, token) ∧ dealing.Shown docket offer type token ∧
    (payload = Challenge.kickPayload ∨ payload = [] ∧ (index, position) ∈ docket.accepted)
  -- An order is ready when all its authorizations are valid.
  | .finalize => docket.ordered = true ∧
    (∀ index < dealing.site.offers.length, index ∈ docket.validated) ∧
    ∃ der, Csr.buildCsr dealing.lib dealing.request.certKey dealing.request.identifiers = .ok der ∧
      payload = Certificate.csrPayload dealing.lib der
  | .certificate => payload = [] ∧ docket.issued = true

/-- What makes a request one that the authority has to fulfil. -/
structure Acceptable (desk : Desk) (url : String) (message : SignedRequest) : Prop where
  target : message.header.url = url
  alg : message.header.alg = dealing.request.accountKey.alg
  signed : dealing.lib.sign dealing.request.accountKey
    (Utf8.bytes (signingInput message.header message.payload)) = some message.signature
  nonce : message.header.nonce ∈ desk.unused
  /-- A new account comes with its key, and everything else from the account. -/
  sender : if dealing.site.locate url = some .newAccount then
      message.header.jwk = some (dealing.request.accountKey.publicJwk dealing.lib) ∧
        message.header.kid = none
    else desk.docket.registered = true ∧ message.header.jwk = none ∧
      message.header.kid = some dealing.site.kid
  place : ∃ place, dealing.site.locate url = some place ∧
    dealing.Accepts desk.docket message.payload place

/-- What may be called. -/
def Demands (desk : Desk) : calls.Call → Prop
  | .head url => url = dealing.site.newNonce
  | .get url => url = dealing.site.directoryUrl
  | .postJose url body => ∃ message, readJws body = some message ∧
    dealing.Acceptable desk url message
  | .selfCheck ready | .dropReady ready =>
    ready ∈ desk.docket.deployed.map Deployment.ready
  | _ => True

/-- An authorization document says what is offered, and whether it is valid. -/
def Documents (docket : Docket) (index : Nat) (offer : Offer) (authz : Authorization) : Prop :=
  authz.identifier = offer.identifier ∧
  (authz.statusEnum = .valid ↔ index ∈ docket.validated) ∧
  authz.challenges.map (fun challenge => (challenge.type, challenge.url, challenge.token))
    = offer.challenges.mapIdx fun position entry =>
      (entry.1, dealing.site.address (.challenge index position), some entry.2)

/-- What a place answers to a request that it accepts. -/
def Grants (docket : Docket) (payload : Bytes) (response : HttpResponse) : Place → Prop
  | .newAccount => response.header "Location" = some dealing.site.kid ∧
    ReadsAs (dealing.lib.parseAccountRecord response.body) fun _ => True
  | .newOrder => response.header "Location" = some (dealing.site.address .order) ∧
    ReadsAs (dealing.lib.parseOrder response.body) fun order =>
      order.identifiers = dealing.request.identifiers ∧
      order.authorizations = (List.range dealing.site.offers.length).map
        (fun index => dealing.site.address (.authorization index)) ∧
      order.finalize = dealing.site.address .finalize
  | .authorization index => ∀ offer ∈ dealing.site.offers[index]?,
    ReadsAs (dealing.lib.parseAuthorization response.body) (dealing.Documents docket index offer)
  -- The response is right, so the authority never finds it wrong.
  | .challenge _ _ => payload = [] →
    ReadsAs (dealing.lib.parseChallenge response.body) fun challenge =>
      challenge.statusEnum ≠ .invalid ∧
      (dealing.prompt = true → challenge.statusEnum = .valid)
  | .finalize => True
  | .order => ReadsAs (dealing.lib.parseOrder response.body) fun order =>
    order.statusEnum ≠ .invalid ∧
    (order.statusEnum = .valid → docket.finalized = true ∧
      order.certificate = some (dealing.site.address .certificate)) ∧
    (dealing.prompt = true → docket.finalized = true → order.statusEnum = .valid)
  | .certificate => response.body = dealing.site.chain

/-- A response is a success that meets a condition. -/
def Succeeds (reply : Except AcmeError HttpResponse) (kind : HttpResponse → Prop) : Prop :=
  match reply with
  | .ok response => response.isSuccess = true ∧ kind response
  | .error _ => False

instance {docket : Docket} {index : Nat} {offer : Offer} :
    DecidablePred (dealing.Documents docket index offer) :=
  fun _ => inferInstanceAs (Decidable (_ ∧ _))

instance {docket : Docket} {payload : Bytes} {response : HttpResponse} :
    (place : Place) → Decidable (dealing.Grants docket payload response place)
  | .newAccount | .newOrder => inferInstanceAs (Decidable (_ ∧ _))
  | .authorization _ => inferInstanceAs (Decidable (∀ _ ∈ _, ReadsAs _ _))
  | .challenge _ _ => inferInstanceAs (Decidable (_ → _))
  | .finalize => .isTrue trivial
  | .order => inferInstanceAs (Decidable (ReadsAs _ _))
  | .certificate => inferInstanceAs (Decidable (_ = _))

instance {reply : Except AcmeError HttpResponse} {kind : HttpResponse → Prop}
    [DecidablePred kind] : Decidable (Succeeds reply kind) :=
  match reply with
  | .ok response => inferInstanceAs (Decidable (response.isSuccess = true ∧ kind response))
  | .error _ => .isFalse id

/-- What is answered to a request that is acceptable. -/
def Fulfils (desk : Desk) (url : String) (message : SignedRequest)
    (reply : Except AcmeError HttpResponse) : Prop :=
  ∀ place ∈ dealing.site.locate url,
    Succeeds reply fun response => dealing.Grants desk.docket message.payload response place

instance {desk : Desk} {url : String} {message : SignedRequest}
    {reply : Except AcmeError HttpResponse} :
    Decidable (dealing.Fulfils desk url message reply) :=
  inferInstanceAs (Decidable (∀ _ ∈ _, _))

/-- What is answered to calls that may be made. -/
def Promises (desk : Desk) : Event calls → Prop
  | ⟨.head _, reply⟩ => Succeeds reply fun response => response.nonces ≠ []
  | ⟨.get _, reply⟩ => Succeeds reply fun response =>
    ReadsAs (dealing.lib.parseDirectory response.body) fun directory =>
      directory.newNonce = dealing.site.newNonce ∧
      directory.newAccount = dealing.site.address .newAccount ∧
      directory.newOrder = dealing.site.address .newOrder
  | ⟨.postJose url body, reply⟩ =>
    ∀ message ∈ readJws body, dealing.Fulfils desk url message reply
  -- The pool is a queue that nobody else uses.
  | ⟨.popFront, reply⟩ => reply = desk.queue.head?
  | ⟨.isEmpty, reply⟩ => reply = desk.queue.isEmpty
  | ⟨.arm _ _ _, reply⟩ => match reply with
    | .ok ready => ready ∉ desk.docket.deployed.map Deployment.ready
    | .error _ => False
  | ⟨.selfCheck _, reply⟩ => reply = .ok ()
  | ⟨.now, time⟩ => time ≤ dealing.latest
  | ⟨.pushBack _, _⟩ | ⟨.clear, _⟩ | ⟨.dropReady _, _⟩ | ⟨.sleep _, _⟩ => True

instance {desk : Desk} : (event : Event calls) → Decidable (dealing.Promises desk event)
  | ⟨.head _, _⟩ | ⟨.get _, _⟩ => inferInstanceAs (Decidable (Succeeds _ _))
  | ⟨.postJose _ _, _⟩ => inferInstanceAs (Decidable (∀ _ ∈ _, _))
  | ⟨.popFront, _⟩ | ⟨.isEmpty, _⟩ | ⟨.selfCheck _, _⟩ => inferInstanceAs (Decidable (_ = _))
  | ⟨.arm _ _ _, .ok _⟩ => inferInstanceAs (Decidable (_ ∉ _))
  | ⟨.arm _ _ _, .error _⟩ => .isFalse id
  | ⟨.now, _⟩ => inferInstanceAs (Decidable (_ ≤ _))
  | ⟨.pushBack _, _⟩ | ⟨.clear, _⟩ | ⟨.dropReady _, _⟩ | ⟨.sleep _, _⟩ => .isTrue trivial

/-- A document has a property, if it can be read. -/
def reads {α : Type} (document : Except String α) (kind : α → Bool) : Bool :=
  match document with
  | .ok value => kind value
  | .error _ => false

/-- What becomes of an order when a place answers. -/
def advance (docket : Docket) (payload : Bytes) (response : HttpResponse) : Place → Docket
  | .newAccount => { docket with registered := true }
  | .newOrder => { docket with ordered := true }
  | .authorization _ | .certificate => docket
  | .challenge index position =>
    if payload = [] then
      if reads (dealing.lib.parseChallenge response.body) (·.statusEnum = .valid) then
        { docket with validated := index :: docket.validated }
      else docket
    else { docket with accepted := (index, position) :: docket.accepted }
  | .finalize => { docket with finalized := true }
  | .order =>
    if reads (dealing.lib.parseOrder response.body) (·.statusEnum = .valid) then
      { docket with issued := true }
    else docket

/-- Where the answer to a request leads. -/
def settle (desk : Desk) (url : String) (message : SignedRequest) :
    Except AcmeError HttpResponse → Desk
  | .ok response => match dealing.site.locate url with
    | some place =>
      { desk with
        -- The nonce is used up, and the response may bring others.
        unused := desk.unused.erase message.header.nonce + response.nonces
        docket := dealing.advance desk.docket message.payload response place }
    | none => desk
  | .error _ => desk

/-- Where an event leads. -/
def next (desk : Desk) : Event calls → Desk
  | ⟨.head _, .ok response⟩ => { desk with unused := desk.unused + response.nonces }
  | ⟨.postJose url body, reply⟩ => match readJws body with
    | some message => dealing.settle desk url message reply
    | none => desk
  | ⟨.popFront, _⟩ => { desk with queue := desk.queue.tail }
  | ⟨.pushBack value, _⟩ => { desk with queue := desk.queue ++ [value] }
  | ⟨.clear, _⟩ => { desk with queue := [] }
  | ⟨.arm solver identifier keyAuthorization, .ok ready⟩ =>
    { desk with docket.deployed :=
        { ready, solver, identifier, keyAuthorization } :: desk.docket.deployed }
  | ⟨.dropReady ready, _⟩ =>
    { desk with docket.deployed := desk.docket.deployed.filter (·.ready ≠ ready) }
  | _ => desk

/-- Nothing has happened, except that some authorizations are valid already. -/
def opening : Desk where
  queue := []
  unused := 0
  docket :=
    { registered := false
      ordered := false
      deployed := []
      accepted := []
      validated := dealing.site.reused
      finalized := false
      issued := false }

/-- The terms of the dealing. -/
def contract : Contract calls Desk where
  Demands := dealing.Demands
  Promises := dealing.Promises
  next := dealing.next

end Dealing

end Acme
