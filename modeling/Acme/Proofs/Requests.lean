import Acme.Proofs.Exchange
import Acme.Proofs.JwsReader

/-! The requests inside a history, and what their bodies say. -/

namespace Acme

open Interaction

/-- The reply to an HTTP request; other calls have none. -/
def reply : Event calls → Option (Except AcmeError HttpResponse)
  | ⟨.head _, answer⟩ => some answer
  | ⟨.get _, answer⟩ => some answer
  | ⟨.postJose _ _, answer⟩ => some answer
  -- The pool, the solvers and the clock do not speak HTTP.
  | _ => none

/-- The response to an HTTP request, if one came back. -/
def response (event : Event calls) : Option HttpResponse :=
  match reply event with
  | some (.ok answer) => some answer
  -- Neither a failure nor a call of another kind brings one.
  | _ => none

/-- Whether a call is a POST. -/
def isPost : Event calls → Bool
  | ⟨.postJose _ _, _⟩ => true
  | _ => false

/-- Whether a call is a HEAD. -/
def isHead : Event calls → Bool
  | ⟨.head _, _⟩ => true
  | _ => false

/-- The HTTP requests of a history, in order. -/
def requests (history : History) : History :=
  history.filter fun event => (reply event).isSome

/-- The POSTs of a history, in order. -/
def posts (history : History) : History :=
  history.filter isPost

@[simp] theorem requests_append {earlier later : History} :
    requests (earlier ++ later) = requests earlier ++ requests later :=
  List.filter_append _ _

@[simp] theorem posts_append {earlier later : History} :
    posts (earlier ++ later) = posts earlier ++ posts later :=
  List.filter_append _ _

@[simp] theorem posts_nil : posts [] = [] := rfl

@[simp] theorem posts_posted {url : String} {body : Bytes}
    {answer : Except AcmeError HttpResponse} {later : History} :
    posts (⟨.postJose url body, answer⟩ :: later) = posted url body answer :: posts later := rfl

@[simp] theorem requests_pushes {values : List String} : requests (pushes values) = [] := by
  simp [requests, pushes, reply]

@[simp] theorem posts_pushes {values : List String} : posts (pushes values) = [] := by
  simp [posts, pushes, isPost]

/-- Obtaining a nonce takes no POST. -/
theorem GetRun.no_posts {url : String} {outcome : Except Stop String}
    {trace : History} (run : GetRun url trace outcome) : posts trace = [] := by
  refine List.filter_eq_nil_iff.mpr fun event member => ?_
  -- A store reaches its pool, and asks for a nonce with a HEAD.
  cases run.storeCall event member <;> exact Bool.false_ne_true

/-- A signed request is one POST with a signed body, or fails without one. -/
theorem ExchangeRun.one_post {store : ReplayNonceStore} {sign : String → Except Stop Bytes}
    {url : String} {outcome : Except Stop HttpResponse}
    {trace : History} (run : ExchangeRun store sign url trace outcome) :
    (posts trace = [] ∧ ∃ stop, outcome = .error stop) ∨
      ∃ nonce body answer, sign nonce = .ok body ∧ posts trace = [posted url body answer] ∧
        outcome = result answer := by
  cases run with
  -- Without a nonce or a signature nothing was sent.
  | noNonce obtained | unsigned obtained => exact .inl ⟨obtained.no_posts, _, rfl⟩
  -- Otherwise the POST is the only one, as obtaining its nonce has taken none.
  | undelivered failure obtained signed =>
    exact .inr ⟨_, _, .error failure, signed, by simp [obtained.no_posts], rfl⟩
  | answered answer obtained signed =>
    exact .inr ⟨_, _, .ok answer, signed, by simp [obtained.no_posts], rfl⟩

/-- A POST of a trace is among its POSTs. -/
theorem mem_posts {before after : History} {url : String} {body : Bytes}
    {answer : Except AcmeError HttpResponse} :
    posted url body answer ∈ posts (before ++ posted url body answer :: after) := by
  simp

/-- A body says what its header and its payload are. -/
def Says (body : Bytes) (header : ProtectedHeader) (payload : Bytes) : Prop :=
  -- It is the receiver's reading of the body that counts.
  ∃ request, readJws body = some request ∧ request.header = header ∧ request.payload = payload

/-- A body says one thing only. -/
theorem Says.unique {body : Bytes} {header other : ProtectedHeader} {payload content : Bytes}
    (first : Says body header payload) (second : Says body other content) :
    header = other ∧ payload = content := by
  -- Both were read from the same body, and reading is a function.
  obtain ⟨request, read, rfl, rfl⟩ := first
  obtain ⟨again, reread, rfl, rfl⟩ := second
  obtain rfl := Option.some.inj (read.symm.trans reread)
  exact ⟨rfl, rfl⟩

/-- A request signed in the name of an account says so. -/
theorem says_kid {lib : Libraries} {payload body : Bytes} {url nonce kid : String}
    {key : AccountKey} (signed : signJwsWithKid lib payload url nonce kid key = .ok body) :
    Says body { alg := key.alg, jwk := none, kid := some kid, nonce, url } payload := by
  -- A header without a key has no key that could be malformed.
  obtain ⟨signature, _, read⟩ := readJws_signJwsInner (by simp) signed
  exact ⟨_, read, rfl, rfl⟩

/-- A request signed with an embedded key says so. -/
theorem says_jwk {lib : Libraries} {payload body : Bytes} {url nonce : String}
    {key : AccountKey} (signed : signJwsWithJwk lib payload url nonce key = .ok body) :
    Says body { alg := key.alg, jwk := some (key.publicJwk lib), kid := none, nonce, url }
      payload := by
  -- The key that is embedded is a well-formed document.
  obtain ⟨signature, _, read⟩ := readJws_signJwsInner
    (by simpa using publicJwk_wellFormed lib key) signed
  exact ⟨_, read, rfl, rfl⟩

/-- A way of signing that puts the nonce into the header, and fails by a panic only. -/
structure SignsNonce (sign : String → Except Stop Bytes) : Prop where
  states : ∀ nonce body, sign nonce = .ok body →
    ∃ header payload, Says body header payload ∧ header.nonce = nonce
  panics : ∀ nonce stop, sign nonce = .error stop → ∃ message, stop = .panic message

/-- Signing fails by a panic only. -/
theorem signJwsInner_panics {lib : Libraries} {payload : Bytes} {url nonce : String}
    {jwk : Option Json} {kid : Option String} {key : AccountKey} {stop : Stop}
    (failed : signJwsInner lib payload url nonce jwk kid key = .error stop) :
    ∃ message, stop = .panic message := by
  simp only [signJwsInner] at failed
  -- The signature is there or it is not; the other steps cannot fail.
  split at failed
  · exact ⟨_, (Except.error.inj failed).symm⟩
  · cases failed

/-- What could not be signed is a message that the library does not sign with the key. -/
theorem sign_none_of_error {lib : Libraries} {payload : Bytes} {url nonce : String}
    {jwk : Option Json} {kid : Option String} {key : AccountKey} {stop : Stop}
    (failed : signJwsInner lib payload url nonce jwk kid key = .error stop) :
    ∃ message, lib.sign key message = none := by
  simp only [signJwsInner] at failed
  -- The message is the signing input, which the library has refused.
  split at failed
  · exact ⟨_, ‹_›⟩
  · cases failed

/-- Signing in the name of an account puts the nonce into the header. -/
theorem signsNonce_kid (lib : Libraries) (payload : Bytes) (url kid : String)
    (key : AccountKey) :
    SignsNonce fun nonce => signJwsWithKid lib payload url nonce kid key :=
  -- The header says the nonce it was signed with.
  ⟨fun _ _ signed => ⟨_, _, says_kid signed, rfl⟩, fun _ _ failed => signJwsInner_panics failed⟩

/-- Signing with an embedded key puts the nonce into the header. -/
theorem signsNonce_jwk (lib : Libraries) (payload : Bytes) (url : String) (key : AccountKey) :
    SignsNonce fun nonce => signJwsWithJwk lib payload url nonce key :=
  -- So does the header with the key in it.
  ⟨fun _ _ signed => ⟨_, _, says_jwk signed, rfl⟩, fun _ _ failed => signJwsInner_panics failed⟩

/-- One signed request, whose response is read without further calls. -/
def Reads {α : Type} (store : ReplayNonceStore) (sign : String → Except Stop Bytes)
    (url : String) (read : HttpResponse → Except AcmeError α) (trace : History)
    (outcome : Except Stop α) : Prop :=
  ∃ exchanged, ExchangeRun store sign url trace exchanged ∧
    outcome = exchanged >>= fun answer => result (read answer)

/-- Exchanging a signed request and reading its response makes the calls of that request. -/
theorem reads_run {α : Type} {store : ReplayNonceStore} {sign : String → Except Stop Bytes}
    {url : String} {read : HttpResponse → Except AcmeError α} {trace : History}
    {outcome : Except Stop α}
    (run : (exchange store sign url >>= fun answer => lift (read answer)).Ends trace outcome) :
    Reads store sign url read trace outcome := by
  -- Reading a response is a computation, which makes no further calls.
  obtain ⟨exchanged, posted, rfl⟩ := Fallible.ends_bind_ofExcept.mp run
  exact ⟨exchanged, exchange_run posted, rfl⟩

/-- Two computations in a row succeed when both do. -/
theorem bind_eq_ok {ε α β : Type} {first : Except ε α} {rest : α → Except ε β} {value : β} :
    first >>= rest = .ok value ↔ ∃ middle, first = .ok middle ∧ rest middle = .ok value := by
  -- A first failure is passed on.
  cases first <;> simp [bind, Except.bind]

/-- Rewording an error does not touch a result. -/
@[simp] theorem mapError_eq_ok {ε φ α : Type} {reword : ε → φ} {outcome : Except ε α} {value : α} :
    outcome.mapError reword = .ok value ↔ outcome = .ok value := by
  cases outcome <;> simp [Except.mapError]

/-- A result was read from a response. -/
@[simp] theorem bind_result_eq_ok {α : Type} {exchanged : Except Stop HttpResponse}
    {read : HttpResponse → Except AcmeError α} {value : α} :
    (exchanged >>= fun answer => result (read answer)) = .ok value ↔
      ∃ answer, exchanged = .ok answer ∧ read answer = .ok value := by
  cases exchanged with
  -- There is no response to read.
  | error stop => simp [bind, Except.bind]
  -- What was read from it is the result, or why it could not be read.
  | ok answer => cases verdict : read answer <;> simp [bind, Except.bind, verdict]

/-- What follows a computation starts from its result. -/
@[simp] theorem lift_ok_bind {α β : Type} (value : α) (rest : α → Client β) :
    (lift (.ok value) >>= rest) = rest value := rfl

/-- Two computations in a row are one. -/
theorem lift_bind_lift {α β : Type} (first : Except AcmeError α)
    (second : α → Except AcmeError β) :
    (lift first >>= fun value => lift (second value)) = lift (first >>= second) := by
  -- After a failure the second one does not matter.
  cases first <;> rfl

/-- What a response to `newAccount` means. -/
def Account.created (lib : Libraries) (directory : Directory) (key : AccountKey)
    (answer : HttpResponse) : Except AcmeError Account := do
  let answer ← answer.ok lib
  match answer.header "Location" with
  -- The account could not be named in later requests.
  | none => .error (.missingField "Location on newAccount response")
  -- The record may hold anything that can be read.
  | some kid =>
    let record ← (lib.parseAccountRecord answer.body).mapError .serialization
    .ok { record, kid, key, nonce := { newNonceUrl := directory.newNonce }, directory }

/-- What an account takes over from the response and the arguments it was created with. -/
structure CreatedFrom (directory : Directory) (key : AccountKey) (answer : HttpResponse)
    (account : Account) : Prop where
  success : answer.isSuccess = true
  location : answer.header "Location" = some account.kid
  key : account.key = key
  nonce : account.nonce = { newNonceUrl := directory.newNonce }
  directory : account.directory = directory

/-- A created account comes from a successful response with a `Location`. -/
theorem Account.created_from {lib : Libraries} {directory : Directory} {key : AccountKey}
    {answer : HttpResponse} {account : Account}
    (created : Account.created lib directory key answer = .ok account) :
    CreatedFrom directory key answer account := by
  unfold Account.created at created
  -- Only a response with a success status is looked at.
  obtain ⟨same, passed, rest⟩ := bind_eq_ok.mp created
  obtain ⟨success, rfl⟩ := HttpResponse.ok_eq_ok.mp passed
  cases located : same.header "Location" with
  -- Without its address the account would not have been made.
  | none => simp [located] at rest
  -- The rest of the account is what the caller has brought along.
  | some kid =>
    simp only [located] at rest
    obtain ⟨record, _, made⟩ := bind_eq_ok.mp rest
    obtain rfl := Except.ok.inj made
    exact ⟨success, located, rfl, rfl, rfl⟩

/-- How a `newAccount` request is signed. -/
def signNewAccount (lib : Libraries) (directory : Directory) (contact : List String)
    (termsAgreed onlyReturnExisting : Bool) (key : AccountKey) (nonce : String) :
    Except Stop Bytes :=
  signJwsWithJwk lib (Account.newAccountPayload lib contact termsAgreed onlyReturnExisting)
    directory.newAccount nonce key

/-- Creating an account is one exchange with the key itself as identifier, and its evaluation. -/
theorem createWithOptions_eq (lib : Libraries) (directory : Directory) (contact : List String)
    (termsAgreed onlyReturnExisting : Bool) (key : AccountKey) :
    Account.createWithOptions lib directory contact termsAgreed onlyReturnExisting key
      = exchange { newNonceUrl := directory.newNonce }
          (signNewAccount lib directory contact termsAgreed onlyReturnExisting key)
          directory.newAccount >>= fun answer =>
        lift (Account.created lib directory key answer) := by
  -- The nonce, the signature, the POST and what is kept of its answer are an exchange.
  simp only [Account.createWithOptions, exchange, bind_assoc, pure_bind]
  refine bind_congr fun nonce => bind_congr fun jws => bind_congr fun answer =>
    bind_congr fun _ => ?_
  -- What follows the exchange looks at the response only.
  unfold Account.created
  rw [← lift_bind_lift]
  refine bind_congr fun answer => ?_
  -- The two read the same members in the same order.
  cases answer.header "Location" with
  | none => rfl
  | some kid =>
    simp only [← lift_bind_lift]
    rfl

/-- Creating an account makes the calls of one signed request, whose response decides. -/
theorem create_run {lib : Libraries} {directory : Directory} {contact : List String}
    {termsAgreed onlyReturnExisting : Bool} {key : AccountKey} {trace : History}
    {outcome : Except Stop Account}
    (run : (Account.createWithOptions lib directory contact termsAgreed onlyReturnExisting
      key).Ends trace outcome) :
    Reads { newNonceUrl := directory.newNonce }
      (signNewAccount lib directory contact termsAgreed onlyReturnExisting key)
      directory.newAccount (Account.created lib directory key) trace outcome := by
  -- An exchange and a computation: that is one signed request.
  rw [createWithOptions_eq] at run
  exact reads_run run

end Acme
