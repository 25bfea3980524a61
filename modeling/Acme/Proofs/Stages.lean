import Acme.Proofs.Purposes
import Acme.Proofs.Quiet

/-! The stages of an issuance: the setup, the authorizations in turn, and the closing. -/

namespace Acme

open Interaction

/-- The order came back as the response to a `newOrder` request for the caller's identifiers. -/
def Placed (lib : Libraries) (request : IssueRequest) (history : History) (order : Order) : Prop :=
  ∃ url body answer, posted url body (.ok answer) ∈ history ∧
    Carries body (Order.newOrderPayload lib request.identifiers) ∧
    Order.created lib answer = .ok order

/-- All ways an issuance goes, with the directory, the account and the order as its setup. -/
inductive Stages (lib : Libraries) (request : IssueRequest) :
    History → Except Stop Bytes → Prop where
  /-- The setup failed. -/
  | early {setup : History} {stop : Stop} (uninvolved : Uninvolved setup)
      (unsubmitted : ∀ event ∈ setup, csrOf event = none)
      (unplaced : ∀ order, ¬ Placed lib request setup order) :
      Stages lib request setup (.error stop)
  /-- An authorization failed. -/
  | stopped {setup : History} {sessions : List History} {account : Account} {order : Order}
      {stop : Stop} (uninvolved : Uninvolved setup)
      (unsubmitted : ∀ event ∈ setup ++ sessions.flatten, csrOf event = none)
      (placed : Placed lib request setup order) (owner : account.key = request.accountKey)
      (failed : SessionsRun lib account request.solvers request.challengeTimeout
        order.authorizations sessions (.error stop)) :
      Stages lib request (setup ++ sessions.flatten) (.error stop)
  /-- All authorizations succeeded, and the order was closed. -/
  | closed {setup closing : History} {sessions : List History} {account : Account} {order : Order}
      {outcome : Except Stop Bytes} (uninvolved : Uninvolved setup)
      (unsubmitted : ∀ event ∈ setup ++ sessions.flatten, csrOf event = none)
      (placed : Placed lib request setup order) (owner : account.key = request.accountKey)
      (succeeded : SessionsRun lib account request.solvers request.challengeTimeout
        order.authorizations sessions (.ok ()))
      (closed : ClosingRun lib request account order closing outcome) :
      Stages lib request (setup ++ sessions.flatten ++ closing) outcome

variable {lib : Libraries} {account : Account} {trace : History}

/-- Before the authorizations, the order was placed. -/
theorem placed_of_asks {request : IssueRequest} {placement : History} {order : Order}
    (history : History)
    (ordered : Asks lib account account.directory.newOrder
      (Order.newOrderPayload lib request.identifiers) (Order.created lib) placement (.ok order)) :
    Placed lib request (history ++ placement) order := by
  obtain ⟨body, answer, only, carries, created⟩ := ordered.posts_ok
  -- The order was read from the answer to the POST.
  have listed : posted account.directory.newOrder body (.ok answer) ∈ posts placement := by
    simp [only]
  exact ⟨_, body, answer, List.mem_append_right _ (List.mem_filter.mp listed).1, carries, created⟩

/-- Creating an account submits no certificate request. -/
theorem registration_unsubmitted {directory : Directory} {contact : List String}
    {termsAgreed onlyReturnExisting : Bool} {key : AccountKey} {outcome : Except Stop Account}
    (run : (Account.createWithOptions lib directory contact termsAgreed onlyReturnExisting
      key).Ends trace outcome) : ∀ event ∈ trace, csrOf event = none := by
  have sends := Reads.sends (fun _ _ signed => ⟨_, says_jwk signed⟩) (create_run run)
  -- The payload of a registration is no certificate request.
  refine sends.unsubmitted fun _ payload sent => ?_
  rw [sent.2]
  exact submittedCsr_newAccountPayload ..

/-- Placing an order submits no certificate request. -/
theorem placement_unsubmitted {α : Type} {identifiers : List Identifier} {url : String}
    {read : HttpResponse → Except AcmeError α} {outcome : Except Stop α}
    (asks : Asks lib account url (Order.newOrderPayload lib identifiers) read trace outcome) :
    ∀ event ∈ trace, csrOf event = none :=
  asks.sends.unsubmitted fun _ _ sent => sent.2 ▸ submittedCsr_newOrderPayload lib identifiers

/-- A created account has the key of the request. -/
theorem key_of_create {directory : Directory} {contact : List String}
    {termsAgreed onlyReturnExisting : Bool} {key : AccountKey}
    (run : (Account.createWithOptions lib directory contact termsAgreed onlyReturnExisting
      key).Ends trace (.ok account)) : account.key = key := by
  -- The account is made of the answer and the key it was asked for with.
  obtain ⟨exchanged, _, came⟩ := create_run run
  obtain ⟨answer, _, created⟩ := bind_result_eq_ok.mp came.symm
  exact (Account.created_from created).key

/-- An order that was refused was not placed. -/
theorem not_placed_of_asks {request : IssueRequest} {url : String} {stop : Stop}
    (ordering : Asks lib account url (Order.newOrderPayload lib request.identifiers)
      (Order.created lib) trace (.error stop)) (order : Order) :
    ¬ Placed lib request trace order := by
  rintro ⟨target, body, answer, member, _, created⟩
  have listed : posted target body (.ok answer) ∈ posts trace := List.mem_filter.mpr ⟨member, rfl⟩
  obtain ⟨exchanged, run, came⟩ := ordering
  -- The answer to the one POST is the one that could not be read.
  rcases run.one_post with ⟨none, _⟩ | ⟨_, _, reply, _, only, rfl⟩
  · rw [none] at listed
    cases listed
  · rw [only, List.mem_singleton] at listed
    cases listed
    simp [bind, Except.bind, created] at came

/-- Where an order was placed, one of the parts placed it. -/
theorem Placed.of_append {request : IssueRequest} {later : History} {order : Order}
    (placed : Placed lib request (trace ++ later) order) :
    Placed lib request trace order ∨ Placed lib request later order := by
  obtain ⟨url, body, answer, member, rest⟩ := placed
  -- The POST that placed the order is in one of the parts.
  rcases List.mem_append.mp member with early | late
  · exact .inl ⟨url, body, answer, early, rest⟩
  · exact .inr ⟨url, body, answer, late, rest⟩

/-- Asking for the directory and for an account places no order. -/
theorem not_placed_of_create {request : IssueRequest} {directory : Directory}
    {answer : Except AcmeError HttpResponse} {outcome : Except Stop Account}
    (run : (Account.create lib directory request.contact true request.accountKey).Ends trace
      outcome) (order : Order) :
    ¬ Placed lib request (got request.directoryUrl answer :: trace) order := by
  rintro ⟨url, body, response, member, carries, _⟩
  have sends := Reads.sends (fun _ _ signed => ⟨_, says_jwk signed⟩) (create_run run)
  -- What is posted is the request for an account.
  obtain ⟨payload, states, _, rfl⟩ := sends url body (.ok response) (by simpa using member)
  exact newAccountPayload_ne lib (states.unique carries)

/-- An issuance goes through these stages. -/
theorem IssueRun.stages {request : IssueRequest} {outcome : Except Stop Bytes}
    (run : IssueRun lib request trace outcome) : Stages lib request trace outcome := by
  have directed : ∀ answer, Uninvolved [got request.directoryUrl answer] := fun _ =>
    uninvolved_nil.cons rfl rfl
  -- Up to the order, no solver is called and no certificate request is submitted.
  have setup : ∀ {answer : Except AcmeError HttpResponse} {directory : Directory}
      {account : Account} {url : String} {registration placement : History}
      {placing : Except Stop Order},
      (Account.create lib directory request.contact true request.accountKey).Ends registration
        (.ok account) →
      Asks lib account url (Order.newOrderPayload lib request.identifiers) (Order.created lib)
        placement placing →
      Uninvolved (got request.directoryUrl answer :: registration ++ placement) ∧
        ∀ event ∈ got request.directoryUrl answer :: registration ++ placement,
          csrOf event = none :=
    fun registered ordered =>
      ⟨((directed _).append (registration_uninvolved registered)).append
          (ordered.uninvolved (toVec_object_ne_kickPayload lib (by simp))),
        List.forall_mem_append.mpr ⟨List.forall_mem_cons.mpr
          ⟨rfl, registration_unsubmitted registered⟩, placement_unsubmitted ordered⟩⟩
  cases run with
  -- Before the order is placed the run is over early.
  | undirected => exact .early (directed _) (by simp [csrOf]) (by simp [Placed])
  | unregistered _ registering =>
    -- No account was created.
    exact .early ((directed _).append (registration_uninvolved registering))
      (List.forall_mem_cons.mpr ⟨rfl, registration_unsubmitted registering⟩)
      (not_placed_of_create registering)
  | unordered _ registered ordering =>
    -- No order came of the request.
    obtain ⟨uninvolved, unsubmitted⟩ := setup registered ordering
    refine .early uninvolved unsubmitted fun order placed => ?_
    rcases Placed.of_append (show Placed lib request ((got request.directoryUrl _ :: _) ++ _) order from placed) with early | late
    · exact not_placed_of_create registered order early
    · exact not_placed_of_asks ordering order late
  -- Behind the setup stand the authorizations, and the closing when all succeeded.
  | unauthorized _ registered ordered failed =>
    obtain ⟨uninvolved, unsubmitted⟩ := setup registered ordered
    simpa using Stages.stopped uninvolved
      (List.forall_mem_append.mpr ⟨unsubmitted, failed.unsubmitted⟩)
      (placed_of_asks _ ordered) (key_of_create registered) failed
  | authorized _ registered ordered succeeded closed =>
    obtain ⟨uninvolved, unsubmitted⟩ := setup registered ordered
    simpa using Stages.closed uninvolved
      (List.forall_mem_append.mpr ⟨unsubmitted, succeeded.unsubmitted⟩)
      (placed_of_asks _ ordered) (key_of_create registered) succeeded closed

end Acme
