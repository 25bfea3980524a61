import Acme.Core.Issue
import Acme.Proofs.Requests

/-! Operations that post one signed request and read its response. -/

namespace Acme

open Interaction

/-- What a response means to an operation that needs nothing but a success. -/
def HttpResponse.accepted (lib : Libraries) (answer : HttpResponse) : Except AcmeError Unit :=
  (answer.ok lib).map fun _ => ()

/-- A response is accepted when its status is a success. -/
theorem HttpResponse.accepted_eq_ok {lib : Libraries} {answer : HttpResponse} :
    HttpResponse.accepted lib answer = .ok () ↔ answer.isSuccess = true := by
  -- Only the status is looked at.
  cases success : answer.isSuccess <;> simp [accepted, HttpResponse.ok, success, Except.map]

/-- What a response to `newOrder` means. -/
def Order.created (lib : Libraries) (answer : HttpResponse) : Except AcmeError Order :=
  match answer.header "Location" with
  | none => .error (.missingField "Location on newOrder response")
  | some url => do
    let answer ← answer.ok lib
    let order ← Order.parse lib answer.body
    .ok { order with url }

/-- What a response from the order at a URL means. -/
def Order.refreshed (lib : Libraries) (url : String) (answer : HttpResponse) :
    Except AcmeError Order := do
  let answer ← answer.ok lib
  let order ← Order.parse lib answer.body
  .ok { order with url }

/-- What a response from an authorization URL means. -/
def Authorization.read (lib : Libraries) (answer : HttpResponse) :
    Except AcmeError Authorization := do
  let answer ← answer.ok lib
  (lib.parseAuthorization answer.body).mapError .serialization

/-- What a response from a challenge URL means. -/
def Challenge.read (lib : Libraries) (answer : HttpResponse) : Except AcmeError Challenge := do
  let answer ← answer.ok lib
  (lib.parseChallenge answer.body).mapError .serialization

/-- What a response from a certificate URL means. -/
def Certificate.read (lib : Libraries) (answer : HttpResponse) : Except AcmeError Bytes := do
  let answer ← answer.ok lib
  .ok answer.body

/-- What a response from a directory URL means. -/
def Directory.read (lib : Libraries) (answer : HttpResponse) : Except AcmeError Directory := do
  let answer ← answer.ok lib
  Directory.parse lib answer.body

/-- How a request in an account's name is signed. -/
def signFor (lib : Libraries) (account : Account) (url : String) (payload : Bytes)
    (nonce : String) : Except Stop Bytes :=
  signJwsWithKid lib payload url nonce account.kid account.key

/-- One signed request in an account's name, whose response is read without further calls. -/
def Asks {α : Type} (lib : Libraries) (account : Account) (url : String) (payload : Bytes)
    (read : HttpResponse → Except AcmeError α) (trace : History) (outcome : Except Stop α) :
    Prop :=
  Reads account.nonce (signFor lib account url payload) url read trace outcome

variable {lib : Libraries} {account : Account} {trace : History}

/-- Posting a request and reading its response makes the calls of that request. -/
theorem asks_run {α : Type} {url : String} {payload : Bytes}
    {read : HttpResponse → Except AcmeError α} {outcome : Except Stop α}
    (run : (account.postKid lib url payload >>= fun answer => lift (read answer)).Ends trace
      outcome) :
    Asks lib account url payload read trace outcome :=
  reads_run run

/-- Creating an order is one request, and a look at its response. -/
theorem Order.create_eq (lib : Libraries) (account : Account) (identifiers : List Identifier) :
    Order.create lib account identifiers
      = account.postKid lib account.directory.newOrder (Order.newOrderPayload lib identifiers) >>=
        fun answer => lift (Order.created lib answer) := by
  unfold Order.create
  refine bind_congr fun answer => ?_
  -- The `Location` is looked up before the status is, and both may be missing.
  unfold Order.created
  cases answer.header "Location" with
  | none => rfl
  | some url =>
    simp only [← lift_bind_lift]
    rfl

/-- Refreshing an order is one request, and a look at its response. -/
theorem Order.refresh_eq (lib : Libraries) (account : Account) (url : String) :
    Order.refresh lib account url
      = account.postKid lib url [] >>= fun answer => lift (Order.refreshed lib url answer) := by
  unfold Order.refresh
  -- Behind the request nothing is called any more.
  refine bind_congr fun answer => ?_
  simp only [Order.refreshed, ← lift_bind_lift]
  rfl

/-- Fetching an authorization is one request, and a look at its response. -/
theorem Authorization.fetch_eq (lib : Libraries) (account : Account) (url : String) :
    Authorization.fetch lib account url
      = account.postKid lib url [] >>= fun answer => lift (Authorization.read lib answer) := by
  unfold Authorization.fetch
  -- Behind the request nothing is called any more.
  refine bind_congr fun answer => ?_
  simp only [Authorization.read, ← lift_bind_lift]

/-- Downloading a certificate is one request, and a look at its response. -/
theorem Certificate.download_eq (lib : Libraries) (account : Account) (url : String) :
    Certificate.download lib url account
      = account.postKid lib url [] >>= fun answer => lift (Certificate.read lib answer) := by
  unfold Certificate.download
  -- Behind the request nothing is called any more.
  refine bind_congr fun answer => ?_
  simp only [Certificate.read, ← lift_bind_lift]
  rfl

/-- Fetching a directory is one GET, and a look at its response. -/
theorem Directory.fetch_eq (lib : Libraries) (baseUrl : String) :
    Directory.fetch lib baseUrl
      = get baseUrl >>= fun answer => lift (Directory.read lib answer) := by
  unfold Directory.fetch
  -- Behind the request nothing is called any more.
  refine bind_congr fun answer => ?_
  simp only [Directory.read, ← lift_bind_lift]

end Acme
