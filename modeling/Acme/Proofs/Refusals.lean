import Acme.Proofs.IssueRun
import Acme.Proofs.Outline
import Acme.Proofs.ScriptedAuthority

/-! What the operations of the client report when the authority refuses a request. -/

namespace Acme

open Interaction

/-- A response came back to a GET or a POST. -/
def Answered (event : Event calls) (answer : HttpResponse) : Prop :=
  response event = some answer ∧ isHead event = false

/-- The error that an unsuccessful response reports is what a program ended with. -/
def Reports {α : Type} (lib : Libraries) (answer : HttpResponse) (outcome : Except Stop α) : Prop :=
  outcome = .error (.error
    (problemFromResponse lib answer.status (answer.header "Content-Type") answer.body))

/-- Every refused request of a trace is reported by its outcome. -/
def Faithful {α : Type} (lib : Libraries) (trace : History) (outcome : Except Stop α) : Prop :=
  ∀ event ∈ trace, ∀ answer, Answered event answer → answer.isSuccess = false →
    Reports lib answer outcome

variable {lib : Libraries} {account : Account} {trace : History}

/-- Only requests are answered. -/
theorem not_answered {event : Event calls} {answer : HttpResponse}
    (silent : reply event = none) : ¬ Answered event answer := by
  rintro ⟨came, _⟩
  simp [response, silent] at came

/-- The calls of a nonce store include no GET and no POST. -/
theorem StoreCall.not_answered {url : String} {event : Event calls} {answer : HttpResponse}
    (call : StoreCall url event) : ¬ Answered event answer := by
  cases call with
  | taken | looked | added => exact Acme.not_answered rfl
  | asked reply =>
    -- The answer to a HEAD is not counted.
    intro answered
    cases answered.2

/-- The response to a signed request is what the exchange yields. -/
theorem ExchangeRun.answered_eq {store : ReplayNonceStore} {sign : String → Except Stop Bytes}
    {url : String} {outcome : Except Stop HttpResponse} {answer : HttpResponse}
    (run : ExchangeRun store sign url trace outcome) {event : Event calls}
    (member : event ∈ trace) (answered : Answered event answer) : outcome = .ok answer := by
  cases run with
  | noNonce obtained | unsigned obtained =>
    exact absurd answered (obtained.storeCall event member).not_answered
  | undelivered failure obtained =>
    rcases List.mem_append.mp member with early | last
    · exact absurd answered (obtained.storeCall event early).not_answered
    · -- The POST itself got no answer.
      obtain rfl := List.mem_singleton.mp last
      cases answered.1
  | answered given obtained =>
    rcases List.mem_append.mp member with early | last
    · exact absurd answered (obtained.storeCall event early).not_answered
    · -- The answer is that to the POST, as the nonces behind it are only kept.
      rcases List.mem_cons.mp last with rfl | kept
      · exact congrArg Except.ok (Option.some.inj answered.1)
      · have keeping : StoreCall store.newNonceUrl event := storeCall_pushes event kept
        exact absurd answered keeping.not_answered

/-- The response to a signed request is what is read. -/
theorem Reads.answered_eq {α : Type} {store : ReplayNonceStore}
    {sign : String → Except Stop Bytes} {url : String} {answer : HttpResponse}
    {read : HttpResponse → Except AcmeError α} {outcome : Except Stop α}
    (reads : Reads store sign url read trace outcome) {event : Event calls}
    (member : event ∈ trace) (answered : Answered event answer) :
    outcome = result (read answer) := by
  obtain ⟨exchanged, run, rfl⟩ := reads
  -- An exchange returns the answer to its POST, and that is what is read.
  rw [run.answered_eq member answered]
  rfl

/-- A way of reading responses that looks at the status before anything else. -/
def StatusFirst {α : Type} (lib : Libraries) (read : HttpResponse → Except AcmeError α) : Prop :=
  ∀ answer : HttpResponse, answer.isSuccess = false → read answer = .error (answer.intoError lib)

/-- When the status is looked at first, what follows is for successes only. -/
theorem statusFirst_bind {α : Type} (lib : Libraries)
    (rest : HttpResponse → Except AcmeError α) :
    StatusFirst lib fun answer => answer.ok lib >>= rest := by
  intro answer refused
  show answer.ok lib >>= rest = _
  -- The status is checked before anything else is read.
  rw [(HttpResponse.ok_eq_error).mpr ⟨refused, rfl⟩]
  rfl

/-- A signed request whose response is read by its status first is faithful. -/
theorem Reads.faithful {α : Type} {store : ReplayNonceStore}
    {sign : String → Except Stop Bytes} {url : String}
    {read : HttpResponse → Except AcmeError α} {outcome : Except Stop α}
    (first : StatusFirst lib read) (reads : Reads store sign url read trace outcome) :
    Faithful lib trace outcome := by
  intro event member answer answered refused
  rw [reads.answered_eq member answered, first answer refused]
  rfl

/-- A response that only needs to be a success is read by its status. -/
theorem statusFirst_accepted : StatusFirst lib (HttpResponse.accepted lib) := by
  intro answer refused
  unfold HttpResponse.accepted
  -- Here the status is all that is checked.
  rw [(HttpResponse.ok_eq_error).mpr ⟨refused, rfl⟩]
  rfl

/-- A trace that ended well contains no refusal. -/
theorem Faithful.not_refused {α : Type} {value : α} (faithful : Faithful lib trace (.ok value))
    {event : Event calls} (member : event ∈ trace) {answer : HttpResponse}
    (answered : Answered event answer) : answer.isSuccess = true := by
  cases refused : answer.isSuccess with
  | true => rfl
  -- A refusal would be the outcome, which is a success.
  | false => cases faithful event member answer answered refused

/-- A trace that ended well can be followed by any faithful one. -/
theorem Faithful.append {α β : Type} {value : α} {later : History} {outcome : Except Stop β}
    (first : Faithful lib trace (.ok value)) (second : Faithful lib later outcome) :
    Faithful lib (trace ++ later) outcome := by
  intro event member answer answered refused
  rcases List.mem_append.mp member with early | late
  · -- A refusal would have ended the first part.
    rw [first.not_refused early answered] at refused
    cases refused
  · exact second event late answer answered refused

/-- Calls that are not requests refuse nothing. -/
theorem Faithful.cons {α : Type} {event : Event calls} {outcome : Except Stop α}
    (silent : reply event = none) (rest : Faithful lib trace outcome) :
    Faithful lib (event :: trace) outcome := by
  intro later member answer answered refused
  rcases List.mem_cons.mp member with rfl | member
  · -- A call that is no POST has no answer of this kind.
    exact absurd answered (not_answered silent)
  · exact rest later member answer answered refused

/-- Where nothing is asked, nothing is refused. -/
theorem faithful_nil {α : Type} {outcome : Except Stop α} : Faithful lib [] outcome := nofun

/-- Letting go of a handle refuses nothing. -/
theorem faithful_lettingGo {α : Type} (handle : Option Handle) {outcome : Except Stop α} :
    Faithful lib (lettingGo handle) outcome := by
  -- Dropping a handle asks the authority nothing.
  cases handle with
  | none => exact faithful_nil
  | some ready => exact .cons rfl faithful_nil

/-- What ended with an error is as faithful when only calls that are not requests follow. -/
theorem Faithful.append_silent {α β : Type} {later : History} {stop : Stop}
    (first : Faithful lib trace (.error stop : Except Stop α))
    (silent : Faithful lib later (.error stop : Except Stop β)) :
    Faithful lib (trace ++ later) (.error stop : Except Stop β) := by
  intro event member answer answered refused
  rcases List.mem_append.mp member with early | late
  · -- The first part reports its refusals, and it has failed with one of them.
    have reported := first event early answer answered refused
    exact congrArg Except.error (Except.error.inj reported)
  · exact silent event late answer answered refused

/-- A polling loop is faithful when its questions are. -/
theorem Polling.faithful {α β : Type} {poll : Poll α β} {pause : Duration} {deadline : Instant}
    {outcome : Except Stop β}
    (asked : ∀ {trace outcome}, poll.ask.Ends trace outcome → Faithful lib trace outcome)
    (polling : Polling poll pause deadline trace outcome) : Faithful lib trace outcome := by
  -- By induction on the rounds; what is not a question asks the authority nothing.
  induction polling with
  | failed question => exact (asked question).append_silent (faithful_lettingGo _)
  | settled question => exact (asked question).append (faithful_lettingGo _)
  | expired question => exact (asked question).append (.cons rfl (faithful_lettingGo _))
  | again question _ _ _ ih => exact (asked question).append (.cons rfl (.cons rfl ih))
  | cut => exact faithful_nil

/-- Seeing a challenge through is faithful. -/
theorem DriveRun.faithful {url : String} {ready : Handle} {timeout pause : Duration}
    {outcome : Except Stop Unit} (run : DriveRun lib url account ready timeout pause trace outcome) :
    Faithful lib trace outcome := by
  cases run with
  -- The response is not there, and the authority is told nothing.
  | unseen failure => exact .cons rfl (.cons rfl faithful_nil)
  -- The word to validate is refused, or does not arrive.
  | unkicked asked =>
    exact .cons rfl ((asked.faithful statusFirst_accepted).append_silent (.cons rfl faithful_nil))
  -- The word is accepted, and the clock cannot hold the deadline.
  | endless asked =>
    exact .cons rfl ((asked.faithful statusFirst_accepted).append
      (.cons rfl (.cons rfl faithful_nil)))
  -- Behind the word come questions about the challenge.
  | polled asked _ polling =>
    have polls := polling.faithful fun question => (asks_run question).faithful
      (statusFirst_bind lib fun answer => (lib.parseChallenge answer.body).mapError .serialization)
    exact .cons rfl ((asked.faithful statusFirst_accepted).append (.cons rfl polls))

/-- Finalizing an order is faithful. -/
theorem FinalizeRun.faithful {order : Order} {privateKey : CertificateKey}
    {timeout pause : Duration} {outcome : Except Stop Order}
    (run : FinalizeRun lib order privateKey account timeout pause trace outcome) :
    Faithful lib trace outcome := by
  cases run with
  -- Without a certificate request nothing is sent.
  | unbuilt failure => exact faithful_nil
  -- The certificate request is refused, or does not arrive.
  | unsubmitted _ asked =>
    simpa using (asked.faithful statusFirst_accepted).append_silent faithful_nil
  | endless _ asked =>
    exact (asked.faithful statusFirst_accepted).append (.cons rfl faithful_nil)
  -- Behind it come questions about the order.
  | polled _ asked _ polling =>
    have polls := polling.faithful fun question => (asks_run question).faithful
      (statusFirst_bind lib _)
    exact (asked.faithful statusFirst_accepted).append (.cons rfl polls)

/-- The operations of the client that make a GET or a POST. -/
inductive ClientOperation where
  | directoryFetch (baseUrl : String)
  | accountCreate (directory : Directory) (contact : List String)
      (termsAgreed onlyReturnExisting : Bool) (key : AccountKey)
  | orderCreate (account : Account) (identifiers : List Identifier)
  | orderRefresh (account : Account) (url : String)
  | authorizationFetch (account : Account) (url : String)
  | pollChallenge (fuel : Nat) (url : String) (account : Account) (ready : Handle)
      (timeout pause : Duration)
  | finalize (fuel : Nat) (order : Order) (privateKey : CertificateKey) (account : Account)
      (timeout pause : Duration)
  | download (account : Account) (url : String)

namespace ClientOperation

/-- What an operation returns. -/
def Result : ClientOperation → Type
  | .directoryFetch _ => Directory
  | .accountCreate .. => Account
  | .orderCreate .. | .orderRefresh .. | .finalize .. => Order
  | .authorizationFetch .. => Authorization
  | .pollChallenge .. => Unit
  | .download .. => Bytes

/-- The operations as programs. -/
def program (lib : Libraries) : (operation : ClientOperation) → Client operation.Result
  | .directoryFetch baseUrl => Directory.fetch lib baseUrl
  | .accountCreate directory contact termsAgreed onlyReturnExisting key =>
    Account.createWithOptions lib directory contact termsAgreed onlyReturnExisting key
  | .orderCreate account identifiers => Order.create lib account identifiers
  | .orderRefresh account url => Order.refresh lib account url
  | .authorizationFetch account url => Authorization.fetch lib account url
  | .pollChallenge fuel url account ready timeout pause =>
    Challenge.pollChallengeWithInterval lib fuel url account ready timeout pause
  | .finalize fuel order privateKey account timeout pause =>
    Certificate.finalizeWithIntervals lib fuel order privateKey account timeout pause
  | .download account url => Certificate.download lib url account

/-- Whether nothing comes before the status of a response: for `newOrder`, its `Location` does. -/
def ReadsStatus (operation : ClientOperation) (answer : HttpResponse) : Prop :=
  match operation with
  | .orderCreate .. => answer.header "Location" ≠ none
  | _ => True

/-- An operation other than the creation of an order is faithful. -/
theorem faithful (lib : Libraries) (operation : ClientOperation)
    {outcome : Except Stop operation.Result} (run : (operation.program lib).Ends trace outcome)
    (other : ∀ account identifiers, operation ≠ .orderCreate account identifiers) :
    Faithful lib trace outcome := by
  -- Each operation reads its answers status first, except for the one that is excluded.
  cases operation with
  | directoryFetch baseUrl =>
    intro event member answer answered refused
    rw [program, Directory.fetch_eq] at run
    obtain ⟨original, asked, rfl⟩ := Fallible.ends_bind_ofExcept.mp run
    obtain ⟨reply, rfl, rfl⟩ := Fallible.ends_ask.mp asked
    -- The GET for the directory is the only call.
    obtain rfl := List.mem_singleton.mp member
    cases reply with
    | error failure => cases answered.1
    | ok given =>
      obtain rfl := Option.some.inj answered.1
      have read := statusFirst_bind lib (fun answer => Directory.parse lib answer.body)
        given refused
      exact congrArg result read
  -- All others make signed requests only.
  | accountCreate directory contact termsAgreed onlyReturnExisting key =>
    exact (create_run run).faithful (statusFirst_bind lib _)
  | orderCreate account identifiers => exact absurd rfl (other account identifiers)
  | orderRefresh account url =>
    rw [program, Order.refresh_eq] at run
    exact (asks_run run).faithful (statusFirst_bind lib _)
  | authorizationFetch account url =>
    rw [program, Authorization.fetch_eq] at run
    exact (asks_run run).faithful (statusFirst_bind lib _)
  | pollChallenge fuel url account ready timeout pause => exact (drive_run run).faithful
  | finalize fuel order privateKey account timeout pause => exact (finalize_run run).faithful
  | download account url =>
    rw [program, Certificate.download_eq] at run
    exact (asks_run run).faithful (statusFirst_bind lib _)

end ClientOperation

/-- A reading of a response reports a refusal when it fails with the error of the response. -/
theorem reports_result_iff {α : Type} {answer : HttpResponse} {outcome : Except AcmeError α} :
    Reports lib answer (result outcome) ↔ outcome = .error (answer.intoError lib) := by
  cases outcome <;> simp [Reports, HttpResponse.intoError]

/-- A refused `newOrder` is reported exactly when its response has a `Location` nevertheless. -/
theorem created_eq_intoError_iff {answer : HttpResponse} (refused : answer.isSuccess = false) :
    Order.created lib answer = .error (answer.intoError lib) ↔
      answer.header "Location" ≠ none := by
  unfold Order.created
  cases located : answer.header "Location" with
  | none =>
    -- The missing header is reported instead, which no refusal ever is.
    have distinct : AcmeError.missingField "Location on newOrder response"
        ≠ answer.intoError lib := fun same =>
      problemFromResponse_ne rfl same.symm
    simpa using distinct
  -- With the header there, the status is looked at before the body.
  | some url =>
    have read := statusFirst_bind lib (fun answer => do
      let order ← Order.parse lib answer.body
      .ok { order with url }) answer refused
    simpa using read

/--
When a GET or a POST is refused, the operation ends with the error that the response reports
exactly when it reads the status first. Creating an order does not: without a `Location`, the
refusal is replaced by a missing field.
-/
theorem refusal_reported_iff {lib : Libraries} {operation : ClientOperation} {trace : History}
    {outcome : Except Stop operation.Result} {event : Event calls} {answer : HttpResponse}
    (run : (operation.program lib).Ends trace outcome) (member : event ∈ trace)
    (answered : Answered event answer) (refused : answer.isSuccess = false) :
    Reports lib answer outcome ↔ operation.ReadsStatus answer := by
  cases operation with
  | orderCreate account identifiers =>
    rw [ClientOperation.program, Order.create_eq] at run
    -- The outcome is the reading of the response.
    obtain rfl := (asks_run run).answered_eq member answered
    exact reports_result_iff.trans (created_eq_intoError_iff refused)
  | _ =>
    refine ⟨fun _ => trivial, fun _ => ?_⟩
    exact ClientOperation.faithful lib _ run (fun _ _ => nofun) event member answer answered refused

/-- An authority that answers `newOrder` with a problem document, and without a `Location`. -/
def refusingScript : List (Except AcmeError HttpResponse) :=
  [answering 200 "n0" [] "",
    answering 429 "n1" [("Content-Type", "application/problem+json")] problemText]

/-- The creation of an order against that authority. -/
def refusedOrder : ClientOperation :=
  .orderCreate sampleAccount [Identifier.dns "a.example"]

/-- The response with the problem document. -/
def refusal : HttpResponse where
  status := 429
  headers := [("Replay-Nonce", "n1"), ("Content-Type", "application/problem+json")]
  body := Utf8.bytes problemText

/-- The reason for which an outcome stopped early. -/
def stopped {α : Type} : Except Stop α → Option Stop
  | .ok _ => none
  | .error stop => some stop

/-- An outcome that stopped for a reason is that error. -/
theorem eq_error_of_stopped {α : Type} {outcome : Except Stop α} {stop : Stop}
    (reason : stopped outcome = some stop) : outcome = .error stop := by
  cases outcome with
  | ok value => cases reason
  | error other => exact congrArg Except.error (Option.some.inj reason)

/-- The run of that creation. -/
def refusedRun : History × Except Stop Order :=
  play refusingScript (refusedOrder.program sampleLibraries)

/-- The refusal is among the responses of the run. -/
theorem refusedRun_answered : ∃ event ∈ refusedRun.1, Answered event refusal := by
  -- The answer is looked for in the run itself.
  have came : (refusedRun.1.any fun event => response event = some refusal && !isHead event)
      = true := by decide +kernel
  obtain ⟨event, member, matched⟩ := List.any_eq_true.mp came
  exact ⟨event, member, by simpa [Answered] using matched⟩

/-- The authority limits the rate, and the client reports a missing field. -/
theorem refusal_replaced :
    refusal.intoError sampleLibraries = .rateLimited "too many orders" ∧
    refusedRun.2 = .error (.error (.missingField "Location on newOrder response")) ∧
    ¬ ∀ {lib : Libraries} {operation : ClientOperation} {trace : History}
      {outcome : Except Stop operation.Result} {event : Event calls} {answer : HttpResponse},
      (operation.program lib).Ends trace outcome → event ∈ trace → Answered event answer →
      answer.isSuccess = false → Reports lib answer outcome := by
  have refused : refusedRun.2 = .error (.error (.missingField "Location on newOrder response")) :=
    eq_error_of_stopped (by decide +kernel)
  refine ⟨by decide +kernel, refused, fun claim => ?_⟩
  -- The claim would have it report the refusal, and the outcome is another error.
  obtain ⟨event, member, answered⟩ := refusedRun_answered
  have reported : Reports sampleLibraries refusal refusedRun.2 :=
    @claim _ refusedOrder _ _ _ _ (play_ends refusingScript _) member answered rfl
  rw [refused] at reported
  cases reported

/-- In that run, the condition fails together with the report. -/
theorem refusal_reported_iff_sample :
    (Reports sampleLibraries refusal refusedRun.2 ↔ refusedOrder.ReadsStatus refusal) ∧
      ¬ refusedOrder.ReadsStatus refusal := by
  obtain ⟨event, member, answered⟩ := refusedRun_answered
  refine ⟨refusal_reported_iff (play_ends refusingScript _) member answered rfl, ?_⟩
  -- The response has no `Location`.
  have missing : refusal.header "Location" = none := by decide +kernel
  exact fun present => present missing

end Acme
