import Acme.Core.Jws
import Acme.Core.Nonce

/-! Creating an account, and posting requests signed in its name. -/

namespace Acme

open Interaction

/-- A live account: its record, its URL, its key, its nonce source and its directory. -/
structure Account where
  record : AccountRecord
  kid : String
  key : AccountKey
  nonce : ReplayNonceStore
  directory : Directory

/-- POST a payload signed with the account's key and URL, and keep the nonces of the response. -/
def Account.postKid (lib : Libraries) (account : Account) (url : String) (payload : Bytes) :
    Client HttpResponse := do
  let nonce ← account.nonce.get
  let jws ← Fallible.ofExcept (signJwsWithKid lib payload url nonce account.kid account.key)
  let response ← postJose url jws
  -- The nonces are kept whatever the status says.
  ReplayNonceStore.absorb response
  pure response

namespace Account

/-- The payload of a `newAccount` request. -/
def newAccountPayload (lib : Libraries) (contact : List String)
    (termsAgreed onlyReturnExisting : Bool) : Bytes :=
  toVec (lib.object [("termsOfServiceAgreed", .bool termsAgreed),
    ("contact", .arr (contact.map .str)), ("onlyReturnExisting", .bool onlyReturnExisting)])

/-- POST `newAccount`, and build the account from the response. -/
def createWithOptions (lib : Libraries) (directory : Directory) (contact : List String)
    (termsAgreed onlyReturnExisting : Bool) (key : AccountKey) : Client Account := do
  let nonceStore : ReplayNonceStore := { newNonceUrl := directory.newNonce }
  let payload := newAccountPayload lib contact termsAgreed onlyReturnExisting
  let nonce ← nonceStore.get
  -- The account has no URL yet, so the request embeds the key itself.
  let jws ← Fallible.ofExcept (signJwsWithJwk lib payload directory.newAccount nonce key)
  let response ← postJose directory.newAccount jws
  -- The nonces are kept before the status is looked at.
  ReplayNonceStore.absorb response
  let response ← lift (response.ok lib)
  -- The URL of the account is the key identifier of all later requests.
  match response.header "Location" with
  | none => throw (.error (.missingField "Location on newAccount response"))
  | some kid =>
    let record ← lift ((lib.parseAccountRecord response.body).mapError .serialization)
    pure { record, kid, key, nonce := nonceStore, directory }

/-- Create an account, or find the one that exists for the key. -/
def create (lib : Libraries) (directory : Directory) (contact : List String)
    (termsAgreed : Bool) (key : AccountKey) : Client Account :=
  createWithOptions lib directory contact termsAgreed false key

end Account

end Acme
