import Acme.Proofs.IssueRun

/-! The requests of an issuance, without regard to what they are for. -/

namespace Acme

open Interaction

/-- A call to a solver or the clock. -/
def isAside : Event calls → Bool
  | ⟨.arm _ _ _, _⟩ | ⟨.selfCheck _, _⟩ | ⟨.dropReady _, _⟩ | ⟨.now, _⟩ | ⟨.sleep _, _⟩ => true
  | _ => false

/-- A call to a solver or the clock is no POST. -/
theorem posts_aside {event : Event calls} {later : History} (aside : isAside event = true) :
    posts (event :: later) = posts later := by
  obtain ⟨call, answer⟩ := event
  -- The event is no POST.
  cases call <;> first | rfl | cases aside

/-- Signed requests in an account's name, with calls to solvers and the clock between them. -/
inductive Woven (lib : Libraries) (account : Account) : History → Prop where
  /-- Nothing has happened. -/
  | nil : Woven lib account []
  /-- A request was exchanged. -/
  | request {url : String} {payload : Bytes} {trace later : History}
      {outcome : Except Stop HttpResponse}
      (exchanged : ExchangeRun account.nonce (signFor lib account url payload) url trace outcome)
      (rest : Woven lib account later) : Woven lib account (trace ++ later)
  /-- A solver or the clock was called. -/
  | aside {event : Event calls} {later : History} (aside : isAside event = true)
      (rest : Woven lib account later) : Woven lib account (event :: later)

variable {lib : Libraries} {account : Account} {trace : History}

/-- Two woven traces make one. -/
theorem Woven.append {later : History} (first : Woven lib account trace)
    (second : Woven lib account later) : Woven lib account (trace ++ later) := by
  -- By induction on the first part, whose end is where the second is attached.
  induction first with
  | nil => exact second
  | request exchanged rest ih =>
    rw [List.append_assoc]
    exact .request exchanged ih
  | aside kind rest ih => exact .aside kind ih

/-- One question is a woven trace. -/
theorem Asks.woven {α : Type} {url : String} {payload : Bytes}
    {read : HttpResponse → Except AcmeError α} {outcome : Except Stop α}
    (asks : Asks lib account url payload read trace outcome) : Woven lib account trace := by
  obtain ⟨exchanged, run, _⟩ := asks
  simpa using Woven.request run .nil

/-- Letting go of a handle is no request. -/
theorem woven_lettingGo (handle : Option Handle) : Woven lib account (lettingGo handle) := by
  -- Dropping a handle is no request.
  cases handle with
  | none => exact .nil
  | some ready => exact .aside rfl .nil

/-- A polling loop makes the requests of its questions. -/
theorem Polling.woven {α β : Type} {poll : Poll α β} {pause : Duration} {deadline : Instant}
    {outcome : Except Stop β} (asked : ∀ {trace outcome}, poll.ask.Ends trace outcome →
      Woven lib account trace)
    (polling : Polling poll pause deadline trace outcome) : Woven lib account trace := by
  -- Each round is one question, with readings of the clock and a pause aside.
  induction polling with
  | failed question => exact (asked question).append (woven_lettingGo _)
  | settled question => exact (asked question).append (woven_lettingGo _)
  | expired question => exact (asked question).append (.aside rfl (woven_lettingGo _))
  | again question _ _ _ ih => exact (asked question).append (.aside rfl (.aside rfl ih))
  | cut => exact .nil

/-- Seeing a challenge through makes requests in the account's name only. -/
theorem DriveRun.woven {url : String} {ready : Handle} {timeout pause : Duration}
    {outcome : Except Stop Unit} (run : DriveRun lib url account ready timeout pause trace outcome) :
    Woven lib account trace := by
  cases run with
  | unseen failure => exact .aside rfl (.aside rfl .nil)
  | unkicked asked => exact .aside rfl (asked.woven.append (.aside rfl .nil))
  | endless asked => exact .aside rfl (asked.woven.append (.aside rfl (.aside rfl .nil)))
  | polled asked _ polling =>
    -- The questions of the loop are made in the account's name.
    have polls := polling.woven fun question => (asks_run question).woven
    exact .aside rfl (asked.woven.append (.aside rfl polls))

/-- An authorization takes requests in the account's name only. -/
theorem SessionRun.woven {solvers : List ChallengeKind} {timeout : Duration} {url : String}
    {outcome : Except Stop Unit} (run : SessionRun lib account solvers timeout url trace outcome) :
    Woven lib account trace := by
  -- After the authorization is fetched, only the challenge makes requests.
  cases run with
  | unfetched asked | valid asked | unmatched asked | tokenless asked => exact asked.woven
  | unarmed failure asked => exact asked.woven.append (.aside rfl .nil)
  | driven asked _ _ _ driven => exact asked.woven.append (.aside rfl driven.woven)

/-- A list of authorizations takes requests in the account's name only. -/
theorem SessionsRun.woven {solvers : List ChallengeKind} {timeout : Duration}
    {urls : List String} {sessions : List History} {outcome : Except Stop Unit}
    (run : SessionsRun lib account solvers timeout urls sessions outcome) :
    Woven lib account sessions.flatten := by
  -- The sessions follow each other.
  induction run with
  | done => exact .nil
  | stopped session => simpa using session.woven
  | next session _ ih => exact session.woven.append ih

/-- Finalizing an order makes requests in the account's name only. -/
theorem FinalizeRun.woven {order : Order} {privateKey : CertificateKey}
    {timeout pause : Duration} {outcome : Except Stop Order}
    (run : FinalizeRun lib order privateKey account timeout pause trace outcome) :
    Woven lib account trace := by
  cases run with
  | unbuilt failure => exact .nil
  | unsubmitted _ asked => exact asked.woven
  | endless _ asked => exact asked.woven.append (.aside rfl .nil)
  | polled _ asked _ polling =>
    -- The questions of the loop are made in the account's name.
    have polls := polling.woven fun question => (asks_run question).woven
    exact asked.woven.append (.aside rfl polls)

/-- Closing an order makes requests in the account's name only. -/
theorem ClosingRun.woven {request : IssueRequest} {order : Order} {outcome : Except Stop Bytes}
    (run : ClosingRun lib request account order trace outcome) : Woven lib account trace := by
  -- The download is one more request behind the finalization.
  cases run with
  | unfinalized finalizing => exact finalizing.woven
  | finalized finalizing _ asked => exact finalizing.woven.append asked.woven

/-- How a `newAccount` request is signed in an issuance. -/
abbrev signIssuer (lib : Libraries) (request : IssueRequest) (directory : Directory) :
    String → Except Stop Bytes :=
  signNewAccount lib directory request.contact true false request.accountKey

/-- How far the requests of an issuance go: the directory, the account, and those in its name. -/
inductive Outline (lib : Libraries) (request : IssueRequest) : History → Prop where
  /-- The directory was asked for. -/
  | directory (answer : Except AcmeError HttpResponse) :
      Outline lib request [got request.directoryUrl answer]
  /-- An account was asked for. -/
  | account {answer : HttpResponse} {directory : Directory} {registration : History}
      {outcome : Except Stop HttpResponse} (fetched : Directory.read lib answer = .ok directory)
      (registering : ExchangeRun { newNonceUrl := directory.newNonce }
        (signIssuer lib request directory) directory.newAccount registration outcome) :
      Outline lib request (got request.directoryUrl (.ok answer) :: registration)
  /-- Requests were made in the account's name. -/
  | requests {answer created : HttpResponse} {directory : Directory} {registration later : History}
      {account : Account} (fetched : Directory.read lib answer = .ok directory)
      (registered : ExchangeRun { newNonceUrl := directory.newNonce }
        (signIssuer lib request directory) directory.newAccount registration (.ok created))
      (made : CreatedFrom directory request.accountKey created account)
      (rest : Woven lib account later) :
      Outline lib request (got request.directoryUrl (.ok answer) :: (registration ++ later))

/-- Requests in the name of an account follow the request that created it. -/
theorem Outline.after {request : IssueRequest} {answer : HttpResponse} {directory : Directory}
    {registration later : History} (fetched : Directory.read lib answer = .ok directory)
    (registered : (Account.create lib directory request.contact true
      request.accountKey).Ends registration (.ok account)) (rest : Woven lib account later) :
    Outline lib request (got request.directoryUrl (.ok answer) :: (registration ++ later)) := by
  -- The account is read from the answer to its registration.
  obtain ⟨exchanged, posted, came⟩ := create_run registered
  obtain ⟨created, rfl, made⟩ := bind_result_eq_ok.mp came.symm
  exact .requests fetched posted (Account.created_from made) rest

/-- Every issuance has such an outline. -/
theorem IssueRun.outline {request : IssueRequest} {outcome : Except Stop Bytes}
    (run : IssueRun lib request trace outcome) : Outline lib request trace := by
  -- One case for each stage in which the run can have ended.
  cases run with
  | undirected => exact .directory _
  | unregistered fetched registering =>
    obtain ⟨exchanged, posted, _⟩ := create_run registering
    exact .account fetched posted
  -- From the order on, all requests are made in the name of the account.
  | unordered fetched registered ordering => exact .after fetched registered ordering.woven
  | unauthorized fetched registered ordered authorizing =>
    rw [List.append_assoc]
    exact .after fetched registered (ordered.woven.append authorizing.woven)
  | authorized fetched registered ordered authorized closed =>
    simp only [List.append_assoc]
    exact .after fetched registered
      (ordered.woven.append (authorized.woven.append closed.woven))

end Acme
