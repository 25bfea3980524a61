import Acme.Core.Account

/-! Creating an order and reading its current state. -/

namespace Acme

/-- An identifier as a JSON value. -/
def Identifier.toJson (lib : Libraries) (identifier : Identifier) : Json :=
  lib.object [("type", .str identifier.kind), ("value", .str identifier.value)]

namespace Order

/-- The payload of a `newOrder` request. -/
def newOrderPayload (lib : Libraries) (identifiers : List Identifier) : Bytes :=
  toVec (lib.object [("identifiers", .arr (identifiers.map (Identifier.toJson lib)))])

/-- The order in a body. -/
def parse (lib : Libraries) (body : Bytes) : Except AcmeError Order :=
  (lib.parseOrder body).mapError .serialization

/-- POST `newOrder`; the order's URL is the `Location` of the response. -/
def create (lib : Libraries) (account : Account) (identifiers : List Identifier) :
    Client Order := do
  let payload := newOrderPayload lib identifiers
  let response ← account.postKid lib account.directory.newOrder payload
  -- The location is asked for before the status, so its lack hides what the status says.
  match response.header "Location" with
  | none => throw (.error (.missingField "Location on newOrder response"))
  | some url =>
    let response ← lift (response.ok lib)
    let order ← lift (parse lib response.body)
    -- The body does not contain the URL.
    pure { order with url }

/-- Read the order at a URL. -/
def refresh (lib : Libraries) (account : Account) (orderUrl : String) : Client Order := do
  let response ← account.postKid lib orderUrl []
  let response ← lift (response.ok lib)
  let order ← lift (parse lib response.body)
  -- The body does not contain the URL.
  pure { order with url := orderUrl }

end Order

end Acme
