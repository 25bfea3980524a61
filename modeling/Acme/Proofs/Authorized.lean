import Acme.Proofs.ScriptedAuthority
import Acme.Proofs.Stages

/-! No certificate request goes out before every authorization is settled, and what is returned. -/

namespace Acme

open Interaction

/-- An authorization was seen valid, or one of its challenges was afterwards. -/
def Settles (lib : Libraries) (url : String) (session : History) : Prop :=
  ∃ fetch drive authz, session = fetch ++ drive ∧ Saw (Authorization.read lib) fetch url authz ∧
    (authz.statusEnum = .valid ∨ ∃ challenge ∈ authz.challenges, ∃ seen,
      Saw (Challenge.read lib) drive challenge.url seen ∧ seen.statusEnum = .valid)

/-- The order was placed, and then each of its authorizations was settled, one after the other. -/
def Cleared (lib : Libraries) (request : IssueRequest) (history : History) (order : Order) :
    Prop :=
  ∃ setup sessions rest, history = setup ++ sessions.flatten ++ rest ∧
    Placed lib request setup order ∧ List.Forall₂ (Settles lib) order.authorizations sessions

/-- All of these calls ask for the order, without a payload. -/
def Refreshes (order : Order) (polls : History) : Prop :=
  ∀ event ∈ polls, ∃ body reply, event = posted order.url body reply ∧ Carries body []

/-- The order was seen valid, with its certificate at a URL. -/
def Certified (lib : Libraries) (order : Order) (polls : History) (certUrl : String) : Prop :=
  ∃ final, Saw (Order.refreshed lib order.url) polls order.url final ∧
    final.statusEnum = .valid ∧ final.certificate = some certUrl

/-- After the certificate request, the order is polled, and once certified, the certificate read. -/
def Closes (lib : Libraries) (order : Order) (after : History) : Prop :=
  ∃ polls download, posts after = polls ++ download ∧ Refreshes order polls ∧
    (download = [] ∨ ∃ certUrl body reply, download = [posted certUrl body reply] ∧
      Carries body [] ∧ Certified lib order polls certUrl)

/-- A POST to an authorization, or to a challenge that was read from it before. -/
def Opens (lib : Libraries) (before : History) (authzUrl url : String) : Prop :=
  url = authzUrl ∨ ∃ authz, Saw (Authorization.read lib) before authzUrl authz ∧
    ∃ challenge ∈ authz.challenges, url = challenge.url

/-- What is posted as long as no certificate request is. -/
def Prepares (lib : Libraries) (request : IssueRequest) (before : History) (url : String)
    (payload : Bytes) : Prop :=
  payload = Account.newAccountPayload lib request.contact true false ∨
    payload = Order.newOrderPayload lib request.identifiers ∨
    ∃ order, Placed lib request before order ∧
      ∃ authzUrl ∈ order.authorizations, Opens lib before authzUrl url

variable {lib : Libraries} {account : Account} {trace : History}

/-- The challenge that is picked belongs to the authorization. -/
theorem mem_of_findSolver {challenges : List Challenge} {kinds : List ChallengeKind}
    {start position : Nat} {challenge : Challenge}
    (found : findSolver challenges kinds start = some (position, challenge)) :
    challenge ∈ challenges := by
  -- By induction on the solvers, which are tried in order.
  induction kinds generalizing start with
  | nil => cases found
  | cons want rest ih =>
    unfold findSolver at found
    split at found
    · rename_i first first_found
      -- The first solver of the rest has a challenge of its kind.
      cases found
      exact List.mem_of_find?_eq_some first_found
    · exact ih found

/-- The challenge that is picked belongs to the authorization. -/
theorem mem_of_pick {authz : Authorization} {solvers : List ChallengeKind} {solver : Nat}
    {challenge : Challenge}
    (picked : pickSolverAndChallenge lib authz solvers = .ok (solver, challenge)) :
    challenge ∈ authz.challenges := by
  unfold pickSolverAndChallenge at picked
  -- Without a match nothing is picked.
  split at picked
  · rename_i found
    cases picked
    exact mem_of_findSolver found
  · cases picked

/-- A challenge that is settled with a success is valid. -/
theorem Challenge.valid_of_verdict {challenge : Challenge}
    (settled : challenge.verdict = some (.ok ())) : challenge.statusEnum = .valid := by
  unfold verdict at settled
  -- Only the valid status has a verdict that is a success.
  split at settled
  · assumption
  · cases settled
  · cases settled

/-- Seeing a challenge through succeeds only when it was seen valid. -/
theorem DriveRun.saw_valid {url : String} {ready : Handle} {timeout pause : Duration}
    {outcome : Except Stop Unit} (run : DriveRun lib url account ready timeout pause trace outcome)
    (succeeded : outcome = .ok ()) :
    ∃ seen, Saw (Challenge.read lib) trace url seen ∧ seen.statusEnum = .valid := by
  cases run with
  -- Before the polling loop every way to end is a failure.
  | unseen | unkicked | endless => cases succeeded
  | polled asked _ polling =>
    -- The last question of the loop read the valid status.
    obtain ⟨seen, question, ended, part, settled⟩ := polling.question_ok () succeeded
    refine ⟨seen, (asks_run ended).saw.mono fun event member => ?_,
      Challenge.valid_of_verdict settled⟩
    exact .tail _ (List.mem_append_right _ (.tail _ (part event member)))

/-- An authorization that succeeds is settled. -/
theorem SessionRun.settles {solvers : List ChallengeKind} {timeout : Duration} {url : String}
    {outcome : Except Stop Unit} (run : SessionRun lib account solvers timeout url trace outcome)
    (succeeded : outcome = .ok ()) : Settles lib url trace := by
  cases run with
  | unfetched | unmatched | tokenless | unarmed => cases succeeded
  | valid asked valid => exact ⟨trace, [], _, by simp, asked.saw, .inl valid⟩
  | driven asked _ picked _ driven =>
    -- The challenge that was polled to valid is one of the authorization's.
    obtain ⟨seen, saw, valid⟩ := driven.saw_valid succeeded
    exact ⟨_, _, _, rfl, asked.saw, .inr ⟨_, mem_of_pick picked, seen,
      saw.mono fun _ member => .tail _ member, valid⟩⟩

/-- When a list of authorizations succeeds, each of them is settled in turn. -/
theorem SessionsRun.settles {solvers : List ChallengeKind} {timeout : Duration}
    {urls : List String} {sessions : List History} {outcome : Except Stop Unit}
    (run : SessionsRun lib account solvers timeout urls sessions outcome)
    (succeeded : outcome = .ok ()) : List.Forall₂ (Settles lib) urls sessions := by
  -- By induction on the authorizations; when all succeed, so did the first and those after it.
  induction run with
  | done => exact .nil
  | stopped session => cases succeeded
  | next session _ ih => exact .cons (session.settles rfl) (ih succeeded)

/-- Opening stays opening when more has happened before. -/
theorem Opens.mono {before more : History} {authzUrl url : String}
    (opens : Opens lib before authzUrl url) (part : ∀ event ∈ before, event ∈ more) :
    Opens lib more authzUrl url := by
  -- Either it is the authorization itself, or one of the challenges it was seen to offer.
  rcases opens with same | ⟨authz, saw, challenge⟩
  · exact .inl same
  · exact .inr ⟨authz, saw.mono part, challenge⟩

/-- An authorization takes POSTs to itself, and then to one of its challenges. -/
theorem SessionRun.opens {solvers : List ChallengeKind} {timeout : Duration}
    {authzUrl url : String} {body : Bytes} {reply : Except AcmeError HttpResponse}
    {outcome : Except Stop Unit} {before after : History}
    (run : SessionRun lib account solvers timeout authzUrl
      (before ++ posted url body reply :: after) outcome) :
    ∃ payload, Carries body payload ∧ Opens lib before authzUrl url := by
  -- The first request is for the authorization itself.
  have fetched : ∀ {outcome : Except Stop Authorization} {first last : History},
      Asks lib account authzUrl [] (Authorization.read lib)
        (first ++ posted url body reply :: last) outcome →
      ∃ payload, Carries body payload ∧ Opens lib before authzUrl url := by
    intro outcome first last asked
    obtain ⟨payload, carries, target, _⟩ := asked.sends url body reply (by simp)
    exact ⟨payload, carries, .inl target⟩
  generalize split : before ++ posted url body reply :: after = trace at run
  cases run with
  | unfetched asked | valid asked | unmatched asked | tokenless asked =>
    subst split
    exact fetched asked
  -- The POST is part of the first question.
  | unarmed failure asked =>
    rcases split_append split.symm with ⟨rest, rfl, _⟩ | ⟨rest, rfl, tail⟩
    · exact fetched asked
    · -- Arming is no POST.
      cases rest <;> simp at tail
  | driven asked _ picked _ driven =>
    rcases split_append split.symm with ⟨rest, rfl, _⟩ | ⟨rest, rfl, tail⟩
    · exact fetched asked
    · -- Behind the armed challenge, the requests go to the URL of the challenge.
      cases rest with
      | nil => simp at tail
      | cons head rest =>
        obtain ⟨_, rfl⟩ := List.cons.inj tail
        obtain ⟨payload, carries, target, _⟩ := driven.sends url body reply (by simp)
        -- The challenge is one of those that the authorization was seen to offer.
        exact ⟨payload, carries, .inr ⟨_, asked.saw.mono fun _ member =>
          List.mem_append_left _ member, _, mem_of_pick picked, target⟩⟩

/-- A list of authorizations takes POSTs to them, and to their challenges. -/
theorem SessionsRun.opens {solvers : List ChallengeKind} {timeout : Duration}
    {urls : List String} {sessions : List History} {outcome : Except Stop Unit} {url : String}
    {body : Bytes} {reply : Except AcmeError HttpResponse} {before after : History}
    (run : SessionsRun lib account solvers timeout urls sessions outcome)
    (split : sessions.flatten = before ++ posted url body reply :: after) :
    ∃ payload, Carries body payload ∧ ∃ authzUrl ∈ urls, Opens lib before authzUrl url := by
  -- The POST belongs to one of the sessions, all earlier ones having ended before it.
  induction run generalizing before with
  | done => simp at split
  -- The last session is the one that has failed.
  | stopped session =>
    simp only [List.flatten_cons, List.flatten_nil, List.append_nil] at split
    subst split
    obtain ⟨payload, carries, opens⟩ := session.opens
    exact ⟨payload, carries, _, .head _, opens⟩
  | next session rest ih =>
    -- It is in this session, or in a later one.
    rcases split_append split with ⟨_, rfl, _⟩ | ⟨middle, rfl, tail⟩
    · obtain ⟨payload, carries, opens⟩ := session.opens
      exact ⟨payload, carries, _, .head _, opens⟩
    · obtain ⟨payload, carries, authzUrl, member, opens⟩ := ih tail
      exact ⟨payload, carries, authzUrl, .tail _ member,
        opens.mono fun _ known => List.mem_append_right _ known⟩

/-- A request is at most one POST, so nothing else is posted before or after it. -/
theorem Asks.posts_around {α : Type} {url target : String} {payload body : Bytes}
    {read : HttpResponse → Except AcmeError α} {outcome : Except Stop α} {before after : History}
    {reply : Except AcmeError HttpResponse}
    (asks : Asks lib account url payload read (before ++ posted target body reply :: after)
      outcome) : posts before = [] ∧ posts after = [] := by
  obtain ⟨exchanged, run, _⟩ := asks
  -- A request has one POST at most, and this trace shows one.
  rcases run.one_post with ⟨none, _⟩ | ⟨_, content, answer, _, only, _⟩
  · simp at none
  · have single := congrArg List.length only
    simp only [posts_append, posts_posted, List.length_append, List.length_cons,
      List.length_nil] at single
    exact ⟨List.eq_nil_of_length_eq_zero (by omega), List.eq_nil_of_length_eq_zero (by omega)⟩

/-- When only the order is asked for, that is what is posted. -/
theorem Sends.refreshes {order : Order}
    (sends : Sends (fun target content => target = order.url ∧ content = []) trace) :
    Refreshes order (posts trace) := by
  intro event member
  obtain ⟨member, kind⟩ := List.mem_filter.mp member
  obtain ⟨call, reply⟩ := event
  -- Among the events that are kept there are only POSTs.
  cases call with
  | postJose url body =>
    obtain ⟨_, carries, rfl, rfl⟩ := sends url body reply member
    exact ⟨body, reply, rfl, carries⟩
  | _ => cases kind

/-- What was learned was learned from a POST. -/
theorem Saw.posts {α : Type} {read : HttpResponse → Except AcmeError α} {url : String} {value : α}
    (saw : Saw read trace url value) : Saw read (posts trace) url value := by
  obtain ⟨body, answer, member, rest⟩ := saw
  exact ⟨body, answer, List.mem_filter.mpr ⟨member, rfl⟩, rest⟩

/-- Only a POST submits a certificate request. -/
theorem posted_of_csrOf {event : Event calls} {csrDer : Bytes} (submits : csrOf event = some csrDer) :
    ∃ url body reply, event = posted url body reply := by
  obtain ⟨call, answer⟩ := event
  -- Only a POST can carry a certificate request.
  cases call with
  | postJose url body => exact ⟨url, body, answer, rfl⟩
  | _ => cases submits

/-- What is left of a finalization after its certificate request. -/
theorem FinalizeRun.closes {order : Order} {privateKey : CertificateKey}
    {timeout pause : Duration} {outcome : Except Stop Order} {before after : History}
    {event : Event calls} {csrDer : Bytes}
    (run : FinalizeRun lib order privateKey account timeout pause (before ++ event :: after)
      outcome) (submits : csrOf event = some csrDer) :
    (∃ body reply, event = posted order.finalize body reply) ∧ Refreshes order (posts after) ∧
      ∀ final, outcome = .ok final → ∃ certUrl, final.certificate = some certUrl ∧
        Certified lib order (posts after) certUrl := by
  obtain ⟨url, body, reply, rfl⟩ := posted_of_csrOf submits
  -- The certificate request is the POST of the first question.
  have submitted : ∀ {first rest : History} {csr : Bytes} {outcome : Except Stop Unit},
      Asks lib account order.finalize (Certificate.csrPayload lib csr)
        (HttpResponse.accepted lib) (first ++ posted url body reply :: rest) outcome →
      url = order.finalize ∧ posts rest = [] := by
    intro first rest csr outcome asked
    obtain ⟨_, _, target, _⟩ := asked.sends url body reply (by simp)
    exact ⟨target, asked.posts_around.2⟩
  generalize split : before ++ posted url body reply :: after = trace at run
  cases run with
  -- Nothing was sent.
  | unbuilt failure => simp at split
  -- The certificate request is the only POST.
  | unsubmitted _ asked =>
    subst split
    obtain ⟨rfl, silent⟩ := submitted asked
    exact ⟨⟨body, reply, rfl⟩, by simp [silent, Refreshes], by simp⟩
  | endless _ asked =>
    rcases split_append split.symm with ⟨rest, rfl, rfl⟩ | ⟨rest, rfl, tail⟩
    · obtain ⟨rfl, silent⟩ := submitted asked
      refine ⟨⟨body, reply, rfl⟩, ?_, by simp⟩
      rw [posts_append, silent]
      exact nofun
    · -- The clock is not asked by POST.
      cases rest <;> simp at tail
  | @polled first later _ start deadline _ _ asked _ polling =>
    -- Behind it, the loop asks for the order with an empty payload.
    have polls : Sends (fun target content => target = order.url ∧ content = []) later :=
      polling.sends fun question => (asks_run question).sends
    rcases split_append split.symm with ⟨rest, rfl, rfl⟩ | ⟨rest, rfl, tail⟩
    · obtain ⟨rfl, silent⟩ := submitted asked
      -- What is posted after the certificate request are the questions of the loop.
      have left : posts (rest ++ clocked start :: later) = posts later := by
        rw [posts_append, silent]
        rfl
      rw [left]
      refine ⟨⟨body, reply, rfl⟩, polls.refreshes, fun final came => ?_⟩
      obtain ⟨_, question, ended, part, settled⟩ := polling.question_ok final came
      obtain ⟨rfl, valid, certUrl, present⟩ := verdict_ok settled
      exact ⟨certUrl, present, final, ((asks_run ended).saw.mono part).posts, valid, present⟩
    · -- Nothing that is posted later submits a certificate request.
      cases rest with
      | nil => simp at tail
      | cons head rest =>
        obtain ⟨_, rfl⟩ := List.cons.inj tail
        obtain ⟨payload, carries, _, rfl⟩ := polls url body reply (by simp)
        rw [csrOf_posted carries, submittedCsr_nil] at submits
        cases submits

/-- A successful finalization has submitted its certificate request. -/
theorem FinalizeRun.submits {order : Order} {privateKey : CertificateKey}
    {timeout pause : Duration} {outcome : Except Stop Order} {final : Order}
    (run : FinalizeRun lib order privateKey account timeout pause trace outcome)
    (succeeded : outcome = .ok final) :
    ∃ before event after csrDer, trace = before ++ event :: after ∧ csrOf event = some csrDer := by
  cases run with
  | unbuilt | unsubmitted | endless => cases succeeded
  | @polled first later csrDer start _ _ _ asked _ _ =>
    obtain ⟨body, answer, only, carries, _⟩ := asked.posts_ok
    have listed : posted order.finalize body (.ok answer) ∈ posts first := by simp [only]
    -- The one POST of the first question is the submission.
    obtain ⟨before, after, rfl⟩ := List.append_of_mem (List.mem_filter.mp listed).1
    refine ⟨before, posted order.finalize body (.ok answer), after ++ clocked start :: later, csrDer,
      by simp, ?_⟩
    rw [csrOf_posted carries, submittedCsr_csrPayload]

/-- The first POST of a finalization submits the certificate request. -/
theorem FinalizeRun.submits_first {order : Order} {privateKey : CertificateKey}
    {timeout pause : Duration} {outcome : Except Stop Order} {before after : History}
    {url : String} {body : Bytes} {reply : Except AcmeError HttpResponse}
    (run : FinalizeRun lib order privateKey account timeout pause
      (before ++ posted url body reply :: after) outcome) :
    ∃ event ∈ before ++ [posted url body reply], csrOf event ≠ none := by
  -- A POST of the first question carries the certificate request itself.
  have first : ∀ {outcome : Except Stop Unit} {csrDer : Bytes} {rest : History},
      Asks lib account order.finalize (Certificate.csrPayload lib csrDer)
        (HttpResponse.accepted lib) (before ++ posted url body reply :: rest) outcome →
      ∃ event ∈ before ++ [posted url body reply], csrOf event ≠ none := by
    intro outcome csrDer rest asked
    obtain ⟨_, carries, _, rfl⟩ := asked.sends url body reply (by simp)
    refine ⟨posted url body reply, by simp, ?_⟩
    rw [csrOf_posted carries, submittedCsr_csrPayload]
    exact nofun
  generalize split : before ++ posted url body reply :: after = trace at run
  cases run with
  -- Nothing was sent.
  | unbuilt failure => simp at split
  | unsubmitted _ asked =>
    subst split
    exact first asked
  | endless _ asked =>
    rcases split_append split.symm with ⟨rest, rfl, _⟩ | ⟨rest, _, tail⟩
    · exact first asked
    · -- The clock is not asked by POST.
      cases rest <;> simp at tail
  | polled _ asked =>
    rcases split_append split.symm with ⟨rest, rfl, _⟩ | ⟨rest, rfl, _⟩
    · exact first asked
    · -- The order is polled after the request was accepted.
      obtain ⟨content, answer, only, carries, _⟩ := asked.posts_ok
      have listed := List.mem_filter.mp (only ▸ List.mem_singleton_self
        (posted order.finalize content (.ok answer)) : _ ∈ posts _)
      refine ⟨_, List.mem_append_left _ (List.mem_append_left _ listed.1), ?_⟩
      rw [csrOf_posted carries, submittedCsr_csrPayload]
      exact nofun

/-- The first POST of a closing submits the certificate request. -/
theorem ClosingRun.submits_first {request : IssueRequest} {order : Order}
    {outcome : Except Stop Bytes} {before after : History} {url : String} {body : Bytes}
    {reply : Except AcmeError HttpResponse}
    (run : ClosingRun lib request account order (before ++ posted url body reply :: after) outcome) :
    ∃ event ∈ before ++ [posted url body reply], csrOf event ≠ none := by
  generalize split : before ++ posted url body reply :: after = trace at run
  cases run with
  | unfinalized finalizing =>
    subst split
    -- There is no download, so the POST is one of the finalization.
    exact finalizing.submits_first
  | finalized finalizing =>
    -- The POST is in the finalization, or in the download behind it.
    rcases split_append split.symm with ⟨_, rfl, _⟩ | ⟨rest, rfl, _⟩
    · exact finalizing.submits_first
    · -- A finalization that succeeded has submitted its request before the download.
      obtain ⟨first, event, last, csrDer, rfl, submits⟩ := finalizing.submits rfl
      exact ⟨event, by simp, by simp [submits]⟩

/-- After its certificate request, closing an order polls the order and reads the certificate. -/
theorem ClosingRun.closes {request : IssueRequest} {order : Order} {outcome : Except Stop Bytes}
    {before after : History} {event : Event calls} {csrDer : Bytes}
    (run : ClosingRun lib request account order (before ++ event :: after) outcome)
    (submits : csrOf event = some csrDer) :
    (∃ body reply, event = posted order.finalize body reply) ∧ Closes lib order after := by
  generalize split : before ++ event :: after = trace at run
  cases run with
  -- Finalizing has failed, and nothing is downloaded.
  | unfinalized finalizing =>
    subst split
    obtain ⟨target, refreshes, _⟩ := finalizing.closes submits
    exact ⟨target, posts after, [], by simp, refreshes, .inl rfl⟩
  | @finalized _ later final url _ finalizing present asked =>
    rcases split_append split.symm with ⟨rest, rfl, rfl⟩ | ⟨rest, rfl, rfl⟩
    · obtain ⟨target, refreshes, certified⟩ := finalizing.closes submits
      obtain ⟨certUrl, certificate, seen⟩ := certified final rfl
      obtain rfl := Option.some.inj (present.symm.trans certificate)
      refine ⟨target, posts rest, posts later, posts_append, refreshes, ?_⟩
      -- The download is at most one POST.
      obtain ⟨exchanged, exchanging, _⟩ := asked
      rcases exchanging.one_post with ⟨none, _⟩ | ⟨_, body, reply, signed, only, _⟩
      · exact .inl none
      · exact .inr ⟨url, body, reply, only, ⟨_, says_kid signed⟩, seen⟩
    · -- A download submits nothing.
      have silent := asked.sends.unsubmitted fun _ payload sent => sent.2 ▸ submittedCsr_nil
      rw [silent event (by simp)] at submits
      cases submits

/-- What a closed order returns is what the certificate URL answered last. -/
theorem ClosingRun.returned {request : IssueRequest} {order : Order} {outcome : Except Stop Bytes}
    {bytes : Bytes} (run : ClosingRun lib request account order trace outcome)
    (came : outcome = .ok bytes) :
    ∃ before event after csrDer polls certUrl body answer, trace = before ++ event :: after ∧
      csrOf event = some csrDer ∧ posts after = polls ++ [posted certUrl body (.ok answer)] ∧
      Carries body [] ∧ Certified lib order polls certUrl ∧ answer.isSuccess = true ∧
      bytes = answer.body := by
  cases run with
  -- Finalizing has failed, and there is no result.
  | unfinalized => cases came
  | @finalized first later final url _ finalizing present asked =>
    subst came
    -- A valid order comes after a certificate request.
    obtain ⟨before, event, rest, csrDer, rfl, submits⟩ := finalizing.submits rfl
    obtain ⟨_, _, certified⟩ := finalizing.closes submits
    obtain ⟨certUrl, certificate, seen⟩ := certified final rfl
    obtain rfl := Option.some.inj (present.symm.trans certificate)
    -- The download is the last POST, and its successful response is the result.
    obtain ⟨body, answer, only, carries, read⟩ := asked.posts_ok
    obtain ⟨same, passed, body_eq⟩ := bind_eq_ok.mp read
    obtain ⟨success, rfl⟩ := HttpResponse.ok_eq_ok.mp passed
    obtain rfl := Except.ok.inj body_eq
    exact ⟨before, event, rest ++ later, csrDer, posts rest, url, body, same, by simp, submits,
      by rw [posts_append, only], carries, seen, success, rfl⟩

/-- In which order an issuance proceeds, and what it returns. -/
structure Authorized (lib : Libraries) (fuel : Nat) (request : IssueRequest) (trace : History)
    (outcome : Except Stop Bytes) : Prop where
  /--
  As long as no certificate request is posted, every POST creates the account or the order,
  or goes to an authorization of the order or to one of its challenges.
  -/
  prepared : ∀ before url body reply after, trace = before ++ posted url body reply :: after →
    (∀ event ∈ before ++ [posted url body reply], csrOf event = none) →
    ∃ payload, Carries body payload ∧ Prepares lib request before url payload
  /--
  A certificate request goes to the finalize URL of the order that was placed, after each of
  the order's authorizations was settled in turn.
  What follows are polls of the order, and once it was seen valid with a certificate, one
  request for that certificate.
  -/
  submitted : ∀ before event after csrDer, trace = before ++ event :: after →
    csrOf event = some csrDer → ∃ order, Cleared lib request before order ∧
      (∃ body reply, event = posted order.finalize body reply) ∧ Closes lib order after
  /-- What is returned is the body of the successful response to that last request. -/
  returned : ∀ bytes, outcome = .ok bytes →
    ∃ before event after csrDer order polls certUrl body answer,
      trace = before ++ event :: after ∧ csrOf event = some csrDer ∧
      Cleared lib request before order ∧
      posts after = polls ++ [posted certUrl body (.ok answer)] ∧ Carries body [] ∧
      Certified lib order polls certUrl ∧ answer.isSuccess = true ∧ bytes = answer.body
  /-- Whatever the finalization returns has a certificate. -/
  certified : ∀ account order earlier final,
    (Certificate.finalizeWithDeadline lib fuel order request.certKey account
      request.finalizeTimeout).Ends earlier (.ok final) → final.certificate ≠ none

/-- Until a certificate request is posted, POSTs prepare for it. -/
def Preparing (lib : Libraries) (request : IssueRequest) (history : History)
    (event : Event calls) : Prop :=
  ∀ url body reply, event = posted url body reply →
    (∀ event ∈ history ++ [posted url body reply], csrOf event = none) →
    ∃ payload, Carries body payload ∧ Prepares lib request history url payload

/-- Payloads that prepare whatever has happened may be sent at any time. -/
theorem Sends.preparing {request : IssueRequest} {allowed : String → Bytes → Prop}
    (sends : Sends allowed trace)
    (prepares : ∀ history url payload, allowed url payload →
      Prepares lib request history url payload) (history : History) :
    (World.chronicle (Preparing lib request)).Admits history trace := by
  rw [World.chronicle_admits_iff]
  -- Each POST carries something that is allowed, which is known to prepare the issuance.
  rintro before event after rfl url body reply rfl _
  obtain ⟨payload, carries, permitted⟩ := sends url body reply (by simp)
  exact ⟨payload, carries, prepares _ url payload permitted⟩

/-- The authorizations of a placed order prepare for its certificate request. -/
theorem SessionsRun.preparing {request : IssueRequest} {order : Order} {history : History}
    {sessions : List History} {outcome : Except Stop Unit} (placed : Placed lib request history order)
    (run : SessionsRun lib account request.solvers request.challengeTimeout order.authorizations
      sessions outcome) :
    (World.chronicle (Preparing lib request)).Admits history sessions.flatten := by
  rw [World.chronicle_admits_iff]
  rintro before event after split url body reply rfl _
  -- What a session opens comes from an authorization of the order.
  obtain ⟨payload, carries, authzUrl, member, opens⟩ := run.opens split
  -- The order was placed in the past, which only grows.
  obtain ⟨target, content, answer, listed, rest⟩ := placed
  exact ⟨payload, carries, .inr (.inr ⟨order, ⟨target, content, answer,
    List.mem_append_left _ listed, rest⟩, authzUrl, member,
    opens.mono fun _ known => List.mem_append_right _ known⟩)⟩

/-- Closing an order prepares nothing, because it starts with the certificate request. -/
theorem ClosingRun.preparing {request : IssueRequest} {order : Order}
    {outcome : Except Stop Bytes} (run : ClosingRun lib request account order trace outcome)
    (history : History) : (World.chronicle (Preparing lib request)).Admits history trace := by
  rw [World.chronicle_admits_iff]
  rintro before event after rfl url body reply rfl unsubmitted
  -- Whatever is sent while closing comes with or after a certificate request.
  obtain ⟨event, member, submits⟩ := run.submits_first
  rw [List.append_assoc] at unsubmitted
  exact absurd (unsubmitted event (List.mem_append_right _ member)) submits

/-- An issuance prepares for its certificate request. -/
theorem IssueRun.preparing {request : IssueRequest} {outcome : Except Stop Bytes}
    (run : IssueRun lib request trace outcome) :
    (World.chronicle (Preparing lib request)).Admits [] trace := by
  -- A GET is no POST, so nothing is asked of it.
  have asking : ∀ history url answer, Preparing lib request history (got url answer) :=
    fun _ _ _ => nofun
  -- The first POST registers the account.
  have registering : ∀ {directory : Directory} {trace : History} {outcome : Except Stop Account},
      (Account.create lib directory request.contact true request.accountKey).Ends trace outcome →
      ∀ history, (World.chronicle (Preparing lib request)).Admits history trace :=
    fun run => (Reads.sends (fun _ _ signed => ⟨_, says_jwk signed⟩) (create_run run)).preparing
      fun _ _ _ sent => .inl sent.2
  -- The second one places the order.
  have ordering : ∀ {account : Account} {trace : History} {outcome : Except Stop Order},
      Asks lib account account.directory.newOrder (Order.newOrderPayload lib request.identifiers)
        (Order.created lib) trace outcome →
      ∀ history, (World.chronicle (Preparing lib request)).Admits history trace :=
    fun asks => asks.sends.preparing fun _ _ _ sent => .inr (.inl sent.2)
  -- Each part is admitted after whatever came before it.
  cases run with
  | undirected => exact ⟨asking _ _ _, trivial⟩
  | unregistered _ registration => exact ⟨asking _ _ _, registering registration _⟩
  | unordered _ registered placement =>
    exact ⟨asking _ _ _, World.admits_append.mpr
      ⟨registering registered _, ordering placement _⟩⟩
  -- The sessions come after an order that was placed.
  | unauthorized _ registered ordered authorizing =>
    refine ⟨asking _ _ _, World.admits_append.mpr ⟨World.admits_append.mpr
      ⟨registering registered _, ordering ordered _⟩, authorizing.preparing ?_⟩⟩
    simpa using placed_of_asks (_ :: _) ordered
  | authorized _ registered ordered authorized closed =>
    refine ⟨asking _ _ _, World.admits_append.mpr ⟨World.admits_append.mpr
      ⟨World.admits_append.mpr ⟨registering registered _, ordering ordered _⟩,
        authorized.preparing ?_⟩, closed.preparing _⟩⟩
    simpa using placed_of_asks (_ :: _) ordered

/--
Whatever the authority and the solvers answer, an issuance submits its certificate request only
after every authorization of the order was fetched valid or polled to valid, asks for the
certificate only after the order was seen valid with one, and returns exactly what it got.
-/
theorem issuance_authorized {lib : Libraries} {fuel : Nat} {request : IssueRequest}
    {trace : History} {outcome : Except Stop Bytes}
    (run : (issueCertificateWithTimeouts lib fuel request).Ends trace outcome) :
    Authorized lib fuel request trace outcome := by
  -- Before the first certificate request, every POST prepares the issuance.
  have prepared : ∀ before url body reply after, trace = before ++ posted url body reply :: after →
      (∀ event ∈ before ++ [posted url body reply], csrOf event = none) →
      ∃ payload, Carries body payload ∧ Prepares lib request before url payload := by
    intro before url body reply after split
    exact World.chronicle_admits_iff.mp (issue_run run).preparing before _ after split url body
      reply rfl
  -- An order that is finalized has a certificate.
  have certified : ∀ account order earlier final,
      (Certificate.finalizeWithDeadline lib fuel order request.certKey account
        request.finalizeTimeout).Ends earlier (.ok final) → final.certificate ≠ none := by
    intro account order earlier final ended
    obtain ⟨url, present⟩ := (finalize_run ended).present
    simp [present]
  -- Until the order is closed, nothing is submitted and nothing is returned.
  have quiet : (∀ event ∈ trace, csrOf event = none) → (∃ stop, outcome = .error stop) →
      Authorized lib fuel request trace outcome := by
    rintro silent ⟨stop, rfl⟩
    refine ⟨prepared, ?_, by simp, certified⟩
    rintro before event after csrDer rfl submits
    rw [silent event (by simp)] at submits
    cases submits
  cases (issue_run run).stages with
  | early _ unsubmitted | stopped _ unsubmitted => exact quiet unsubmitted ⟨_, rfl⟩
  | @closed setup closing sessions _ order _ _ unsubmitted placed _ succeeded closed =>
    -- All authorizations were settled before the closing, whatever of it has happened.
    have cleared : ∀ rest, Cleared lib request (setup ++ sessions.flatten ++ rest) order :=
      fun rest => ⟨setup, sessions, rest, rfl, placed, succeeded.settles rfl⟩
    refine ⟨prepared, ?_, ?_, certified⟩
    · -- Nothing before the closing submits a request.
      intro before event after csrDer split submits
      obtain ⟨rest, rfl, rfl⟩ := split_second split fun member => by
        simp [unsubmitted _ member] at submits
      obtain ⟨target, closes⟩ := closed.closes submits
      exact ⟨order, cleared rest, target, closes⟩
    · -- What is returned is the body of the last answer, which was read after the submission.
      intro bytes came
      obtain ⟨before, event, after, csrDer, polls, certUrl, body, response, rfl, submits, last,
        rest⟩ := closed.returned came
      exact ⟨_, event, after, csrDer, order, polls, certUrl, body, response, by simp, submits,
        cleared before, last, rest⟩

/-- The order of events holds in a whole issuance, which returns its certificate. -/
theorem issuance_authorized_sample :
    sampleIssuance.2 = .ok (Utf8.bytes "chain") ∧
      Authorized sampleLibraries 2 sampleRequest sampleIssuance.1 sampleIssuance.2 :=
  ⟨by decide +kernel, issuance_authorized sampleIssuance_ends⟩

end Acme
