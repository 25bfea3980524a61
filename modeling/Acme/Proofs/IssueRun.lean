import Acme.Proofs.Polling

/-! All ways an issuance goes, from the directory to the certificate. -/

namespace Acme

open Interaction

/-- All ways an armed challenge is seen through. -/
inductive DriveRun (lib : Libraries) (url : String) (account : Account) (ready : Handle)
    (timeout pause : Duration) : History → Except Stop Unit → Prop where
  /-- The response could not be seen. -/
  | unseen (failure : AcmeError) :
      DriveRun lib url account ready timeout pause
        [checked ready (.error failure), dropped ready] (.error (.error failure))
  /-- The authority could not be told to validate. -/
  | unkicked {trace : History} {stop : Stop}
      (asked : Asks lib account url Challenge.kickPayload (HttpResponse.accepted lib) trace
        (.error stop)) :
      DriveRun lib url account ready timeout pause
        (checked ready (.ok ()) :: (trace ++ [dropped ready])) (.error stop)
  /-- The deadline cannot be represented. -/
  | endless {trace : History} {start : Instant} {stop : Stop}
      (asked : Asks lib account url Challenge.kickPayload (HttpResponse.accepted lib) trace
        (.ok ()))
      (overflow : deadlineAfter lib start timeout = .error stop) :
      DriveRun lib url account ready timeout pause
        (checked ready (.ok ()) :: (trace ++ [clocked start, dropped ready])) (.error stop)
  /-- The challenge was polled. -/
  | polled {trace later : History} {start deadline : Instant} {outcome : Except Stop Unit}
      (asked : Asks lib account url Challenge.kickPayload (HttpResponse.accepted lib) trace
        (.ok ()))
      (representable : deadlineAfter lib start timeout = .ok deadline)
      (polling : Polling (Challenge.poll lib url account ready timeout) pause deadline later
        outcome) :
      DriveRun lib url account ready timeout pause
        (checked ready (.ok ()) :: (trace ++ clocked start :: later)) outcome

/-- All ways the authorization at a URL goes. -/
inductive SessionRun (lib : Libraries) (account : Account) (solvers : List ChallengeKind)
    (timeout : Duration) (url : String) : History → Except Stop Unit → Prop where
  /-- It could not be fetched. -/
  | unfetched {trace : History} {stop : Stop}
      (asked : Asks lib account url [] (Authorization.read lib) trace (.error stop)) :
      SessionRun lib account solvers timeout url trace (.error stop)
  /-- It is valid already. -/
  | valid {trace : History} {authz : Authorization}
      (asked : Asks lib account url [] (Authorization.read lib) trace (.ok authz))
      (valid : authz.statusEnum = .valid) :
      SessionRun lib account solvers timeout url trace (.ok ())
  /-- No solver fits any of its challenges. -/
  | unmatched {trace : History} {authz : Authorization} {failure : AcmeError}
      (asked : Asks lib account url [] (Authorization.read lib) trace (.ok authz))
      (pending : authz.statusEnum ≠ .valid)
      (unmatched : pickSolverAndChallenge lib authz solvers = .error failure) :
      SessionRun lib account solvers timeout url trace (.error (.error failure))
  /-- The challenge has no token. -/
  | tokenless {trace : History} {authz : Authorization} {solver : Nat} {challenge : Challenge}
      (asked : Asks lib account url [] (Authorization.read lib) trace (.ok authz))
      (pending : authz.statusEnum ≠ .valid)
      (picked : pickSolverAndChallenge lib authz solvers = .ok (solver, challenge))
      (missing : challenge.token = none) :
      SessionRun lib account solvers timeout url trace
        (.error (.error (.missingField "challenge.token")))
  /-- The solver failed. -/
  | unarmed {trace : History} {authz : Authorization} {solver : Nat} {challenge : Challenge}
      {token : String} (failure : AcmeError)
      (asked : Asks lib account url [] (Authorization.read lib) trace (.ok authz))
      (pending : authz.statusEnum ≠ .valid)
      (picked : pickSolverAndChallenge lib authz solvers = .ok (solver, challenge))
      (present : challenge.token = some token) :
      SessionRun lib account solvers timeout url
        (trace ++ [armed solver authz.identifier (computeKeyAuthorization lib token account.key)
          (.error failure)]) (.error (.error failure))
  /-- The solver armed the challenge, which was then seen through. -/
  | driven {trace later : History} {authz : Authorization} {solver : Nat}
      {challenge : Challenge} {token : String} {ready : Handle} {outcome : Except Stop Unit}
      (asked : Asks lib account url [] (Authorization.read lib) trace (.ok authz))
      (pending : authz.statusEnum ≠ .valid)
      (picked : pickSolverAndChallenge lib authz solvers = .ok (solver, challenge))
      (present : challenge.token = some token)
      (driven : DriveRun lib challenge.url account ready timeout (Duration.fromSecs 2) later
        outcome) :
      SessionRun lib account solvers timeout url
        (trace ++ armed solver authz.identifier (computeKeyAuthorization lib token account.key)
          (.ok ready) :: later) outcome

/-- Sessions take place one after the other, until one of them fails. -/
inductive InTurn (session : String → History → Except Stop Unit → Prop) :
    List String → List History → Except Stop Unit → Prop where
  /-- None are left. -/
  | done : InTurn session [] [] (.ok ())
  /-- One of them failed. -/
  | stopped {url : String} {urls : List String} {trace : History} {stop : Stop}
      (failed : session url trace (.error stop)) :
      InTurn session (url :: urls) [trace] (.error stop)
  /-- One of them succeeded, and the others follow. -/
  | next {url : String} {urls : List String} {trace : History} {later : List History}
      {outcome : Except Stop Unit} (succeeded : session url trace (.ok ()))
      (rest : InTurn session urls later outcome) :
      InTurn session (url :: urls) (trace :: later) outcome

/-- All ways a list of authorizations goes: the traces of those that were reached, in order. -/
abbrev SessionsRun (lib : Libraries) (account : Account) (solvers : List ChallengeKind)
    (timeout : Duration) : List String → List History → Except Stop Unit → Prop :=
  InTurn (SessionRun lib account solvers timeout)

/-- All ways an order is finalized. -/
inductive FinalizeRun (lib : Libraries) (order : Order) (privateKey : CertificateKey)
    (account : Account) (timeout pause : Duration) : History → Except Stop Order → Prop where
  /-- The order has no URL, or no certificate request can be built. -/
  | unbuilt (failure : AcmeError)
      (unbuilt : order.url ≠ "" →
        Csr.buildCsr lib privateKey order.identifiers = .error failure) :
      FinalizeRun lib order privateKey account timeout pause [] (.error (.error failure))
  /-- The certificate request could not be submitted. -/
  | unsubmitted {trace : History} {csrDer : Bytes} {stop : Stop}
      (built : Csr.buildCsr lib privateKey order.identifiers = .ok csrDer)
      (asked : Asks lib account order.finalize (Certificate.csrPayload lib csrDer)
        (HttpResponse.accepted lib) trace (.error stop)) :
      FinalizeRun lib order privateKey account timeout pause trace (.error stop)
  /-- The deadline cannot be represented. -/
  | endless {trace : History} {csrDer : Bytes} {start : Instant} {stop : Stop}
      (built : Csr.buildCsr lib privateKey order.identifiers = .ok csrDer)
      (asked : Asks lib account order.finalize (Certificate.csrPayload lib csrDer)
        (HttpResponse.accepted lib) trace (.ok ()))
      (overflow : deadlineAfter lib start timeout = .error stop) :
      FinalizeRun lib order privateKey account timeout pause (trace ++ [clocked start])
        (.error stop)
  /-- The order was polled. -/
  | polled {trace later : History} {csrDer : Bytes} {start deadline : Instant}
      {outcome : Except Stop Order}
      (built : Csr.buildCsr lib privateKey order.identifiers = .ok csrDer)
      (asked : Asks lib account order.finalize (Certificate.csrPayload lib csrDer)
        (HttpResponse.accepted lib) trace (.ok ()))
      (representable : deadlineAfter lib start timeout = .ok deadline)
      (polling : Polling (Certificate.poll lib order account timeout) pause deadline later
        outcome) :
      FinalizeRun lib order privateKey account timeout pause (trace ++ clocked start :: later)
        outcome

/-- All ways an order is finalized and its certificate is downloaded. -/
inductive ClosingRun (lib : Libraries) (request : IssueRequest) (account : Account)
    (order : Order) : History → Except Stop Bytes → Prop where
  /-- It could not be finalized. -/
  | unfinalized {trace : History} {stop : Stop}
      (finalizing : FinalizeRun lib order request.certKey account request.finalizeTimeout
        (Duration.fromSecs 2) trace (.error stop)) :
      ClosingRun lib request account order trace (.error stop)
  /-- It was finalized, and the certificate was asked for. -/
  | finalized {trace later : History} {final : Order} {url : String} {outcome : Except Stop Bytes}
      (finalizing : FinalizeRun lib order request.certKey account request.finalizeTimeout
        (Duration.fromSecs 2) trace (.ok final))
      (present : final.certificate = some url)
      (asked : Asks lib account url [] (Certificate.read lib) later outcome) :
      ClosingRun lib request account order (trace ++ later) outcome

/-- All ways an issuance goes. -/
inductive IssueRun (lib : Libraries) (request : IssueRequest) :
    History → Except Stop Bytes → Prop where
  /-- The directory could not be fetched. -/
  | undirected {answer : Except AcmeError HttpResponse} {stop : Stop}
      (fetched : (result answer >>= fun answer => result (Directory.read lib answer))
        = .error stop) :
      IssueRun lib request [got request.directoryUrl answer] (.error stop)
  /-- The account could not be created. -/
  | unregistered {answer : HttpResponse} {directory : Directory} {trace : History} {stop : Stop}
      (fetched : Directory.read lib answer = .ok directory)
      (registering : (Account.create lib directory request.contact true
        request.accountKey).Ends trace (.error stop)) :
      IssueRun lib request (got request.directoryUrl (.ok answer) :: trace) (.error stop)
  /-- The order could not be created. -/
  | unordered {answer : HttpResponse} {directory : Directory} {registration trace : History}
      {account : Account} {stop : Stop}
      (fetched : Directory.read lib answer = .ok directory)
      (registered : (Account.create lib directory request.contact true
        request.accountKey).Ends registration (.ok account))
      (ordering : Asks lib account account.directory.newOrder
        (Order.newOrderPayload lib request.identifiers) (Order.created lib) trace
        (.error stop)) :
      IssueRun lib request (got request.directoryUrl (.ok answer) :: (registration ++ trace))
        (.error stop)
  /-- An authorization failed. -/
  | unauthorized {answer : HttpResponse} {directory : Directory}
      {registration placement : History} {account : Account} {order : Order}
      {sessions : List History} {stop : Stop}
      (fetched : Directory.read lib answer = .ok directory)
      (registered : (Account.create lib directory request.contact true
        request.accountKey).Ends registration (.ok account))
      (ordered : Asks lib account account.directory.newOrder
        (Order.newOrderPayload lib request.identifiers) (Order.created lib) placement
        (.ok order))
      (authorizing : SessionsRun lib account request.solvers request.challengeTimeout
        order.authorizations sessions (.error stop)) :
      IssueRun lib request (got request.directoryUrl (.ok answer) ::
        (registration ++ placement ++ sessions.flatten)) (.error stop)
  /-- All authorizations succeeded, and the order was closed. -/
  | authorized {answer : HttpResponse} {directory : Directory}
      {registration placement closing : History} {account : Account} {order : Order}
      {sessions : List History} {outcome : Except Stop Bytes}
      (fetched : Directory.read lib answer = .ok directory)
      (registered : (Account.create lib directory request.contact true
        request.accountKey).Ends registration (.ok account))
      (ordered : Asks lib account account.directory.newOrder
        (Order.newOrderPayload lib request.identifiers) (Order.created lib) placement
        (.ok order))
      (authorized : SessionsRun lib account request.solvers request.challengeTimeout
        order.authorizations sessions (.ok ()))
      (closed : ClosingRun lib request account order closing outcome) :
      IssueRun lib request (got request.directoryUrl (.ok answer) ::
        (registration ++ placement ++ sessions.flatten ++ closing)) outcome

variable {lib : Libraries} {account : Account} {trace : History}

/-- The deadline that was set is the first reading of the clock and the time allowed. -/
theorem deadlineAfter_eq_ok {start deadline : Instant} {timeout : Duration}
    (representable : deadlineAfter lib start timeout = .ok deadline) :
    start + timeout.nanos = deadline := by
  unfold deadlineAfter at representable
  -- The sum is taken only when it is representable.
  split at representable
  · exact Except.ok.inj representable
  · cases representable

/-- A deadline that cannot be represented is a panic. -/
theorem deadlineAfter_eq_error {start : Instant} {timeout : Duration} {stop : Stop}
    (overflow : deadlineAfter lib start timeout = .error stop) :
    ∃ message, stop = .panic message := by
  unfold deadlineAfter at overflow
  -- Beyond the last instant the addition panics.
  split at overflow
  · cases overflow
  · exact ⟨_, (Except.error.inj overflow).symm⟩

/-- What is done with an armed challenge before it is polled. -/
def Challenge.prepare (lib : Libraries) (url : String) (account : Account) (ready : Handle)
    (timeout : Duration) : Client Instant := do
  selfCheck ready
  account.postKid lib url Challenge.kickPayload >>= fun answer => lift (answer.accepted lib)
  let start ← now
  Fallible.ofExcept (deadlineAfter lib start timeout)

/-- All ways an armed challenge is prepared for polling. -/
inductive PrepareRun (lib : Libraries) (url : String) (account : Account) (ready : Handle)
    (timeout : Duration) : History → Except Stop Instant → Prop where
  /-- The response could not be seen. -/
  | unseen (failure : AcmeError) :
      PrepareRun lib url account ready timeout [checked ready (.error failure)]
        (.error (.error failure))
  /-- The authority could not be told to validate. -/
  | unkicked {trace : History} {stop : Stop}
      (asked : Asks lib account url Challenge.kickPayload (HttpResponse.accepted lib) trace
        (.error stop)) :
      PrepareRun lib url account ready timeout (checked ready (.ok ()) :: trace) (.error stop)
  /-- The clock was read. -/
  | started {trace : History} {start : Instant}
      (asked : Asks lib account url Challenge.kickPayload (HttpResponse.accepted lib) trace
        (.ok ())) :
      PrepareRun lib url account ready timeout
        (checked ready (.ok ()) :: (trace ++ [clocked start])) (deadlineAfter lib start timeout)

/-- An armed challenge is prepared in one of these ways. -/
theorem prepare_run {url : String} {ready : Handle} {timeout : Duration}
    {outcome : Except Stop Instant}
    (run : (Challenge.prepare lib url account ready timeout).Ends trace outcome) :
    PrepareRun lib url account ready timeout trace outcome := by
  simp only [Challenge.prepare, selfCheck, Fallible.ends_ask_bind] at run
  obtain ⟨seen, trace, rfl, run⟩ := run
  cases seen with
  -- The response is not seen, and nothing is sent.
  | error failure =>
    obtain ⟨rfl, rfl⟩ := run
    exact .unseen failure
  | ok nothing =>
    simp only [result_ok] at run
    rcases Fallible.ends_bind.mp run with ⟨_, earlier, later, rfl, kicked, rest⟩ |
      ⟨stop, kicked, rfl⟩
    · -- The authority knows, so only the clock is left.
      simp only [now, Fallible.ends_ask_bind, Fallible.ends_ofExcept] at rest
      obtain ⟨start, later, rfl, rfl, rfl⟩ := rest
      exact .started (asks_run kicked)
    · exact .unkicked (asks_run kicked)

/-- Preparing an armed challenge is not cut short. -/
theorem PrepareRun.ne_unfinished {url : String} {ready : Handle} {timeout : Duration}
    {outcome : Except Stop Instant} (run : PrepareRun lib url account ready timeout trace outcome) :
    outcome ≠ .error .unfinished := by
  cases run with
  | unseen failure => simp
  | unkicked asked =>
    intro cut
    obtain rfl := Except.error.inj cut
    exact asked.ne_unfinished rfl
  | started asked =>
    -- A deadline that cannot be represented is a panic.
    unfold deadlineAfter
    split <;> simp

/-- When an armed challenge is prepared, the authority knows, and a deadline is set. -/
theorem PrepareRun.started_of_ok {url : String} {ready : Handle} {timeout : Duration}
    {deadline : Instant} (run : PrepareRun lib url account ready timeout trace (.ok deadline)) :
    ∃ kick start, trace = checked ready (.ok ()) :: (kick ++ [clocked start]) ∧
      Asks lib account url Challenge.kickPayload (HttpResponse.accepted lib) kick (.ok ()) ∧
      deadlineAfter lib start timeout = .ok deadline := by
  generalize result_eq : (Except.ok deadline : Except Stop Instant) = result at run
  -- There is a deadline only at the end of the preparation.
  cases run with
  | unseen failure | unkicked asked => cases result_eq
  | started asked => exact ⟨_, _, rfl, asked, rfl⟩

/-- Preparing an armed challenge is not cut short by itself. -/
theorem uncut_prepare (lib : Libraries) (url : String) (account : Account) (ready : Handle)
    (timeout : Duration) : Uncut (Challenge.prepare lib url account ready timeout) :=
  fun _ cut => (prepare_run cut).ne_unfinished rfl

/-- When a response is not used later, nothing but its success matters. -/
theorem post_accepted_bind {α : Type} (lib : Libraries) (account : Account) (url : String)
    (payload : Bytes) (rest : Client α) :
    (account.postKid lib url payload >>= fun response => lift (response.ok lib) >>= fun _ => rest)
      = (account.postKid lib url payload >>= fun answer => lift (answer.accepted lib)) >>=
        fun _ => rest := by
  rw [bind_assoc]
  -- Reading the status alone is what the code does with the answer.
  refine bind_congr fun answer => ?_
  unfold HttpResponse.accepted
  cases answer.ok lib <;> rfl

/-- An armed challenge is prepared, and then polled by the loop. -/
theorem pollChallengeWithInterval_eq (lib : Libraries) (fuel : Nat) (url : String)
    (account : Account) (ready : Handle) (timeout pause : Duration) :
    Challenge.pollChallengeWithInterval lib fuel url account ready timeout pause
      = guarding (some ready) (Challenge.prepare lib url account ready timeout) >>= fun deadline =>
        (Challenge.poll lib url account ready timeout).loop pause deadline fuel := by
  unfold Challenge.pollChallengeWithInterval
  -- The part before the loop is the preparation, and the loop is the one for challenges.
  rw [post_accepted_bind]
  exact bind_congr fun deadline => Challenge.pollUntil_eq lib url account ready timeout pause _ _

/-- An armed challenge is seen through up to its end, or up to the polling loop. -/
theorem drive_loop {fuel : Nat} {url : String} {ready : Handle} {timeout pause : Duration}
    {outcome : Except Stop Unit}
    (run : (Challenge.pollChallengeWithInterval lib fuel url account ready timeout pause).Ends
      trace outcome) :
    (DriveRun lib url account ready timeout pause trace outcome ∧ outcome ≠ .error .unfinished) ∨
      ∃ kick start deadline later, trace = checked ready (.ok ()) :: (kick ++ clocked start :: later) ∧
        Asks lib account url Challenge.kickPayload (HttpResponse.accepted lib) kick (.ok ()) ∧
        deadlineAfter lib start timeout = .ok deadline ∧
        ((Challenge.poll lib url account ready timeout).loop pause deadline fuel).Ends later
          outcome := by
  rw [pollChallengeWithInterval_eq] at run
  rcases guarding_bind_run (uncut_prepare lib url account ready timeout) run with
    ⟨deadline, earlier, later, rfl, prepared, rest⟩ | ⟨stop, earlier, rfl, prepared, rfl⟩
  · -- The preparation succeeded, so the handle is still up when the polling starts.
    obtain ⟨kick, start, rfl, asked, representable⟩ := (prepare_run prepared).started_of_ok
    exact .inr ⟨kick, start, deadline, later, by simp, asked, representable, rest⟩
  · -- The preparation failed, and its failure took the handle down.
    have uncut : (.error stop : Except Stop Unit) ≠ .error .unfinished := by
      intro cut
      obtain rfl := Except.error.inj cut
      exact uncut_prepare lib url account ready timeout earlier prepared
    refine .inl ⟨?_, uncut⟩
    generalize result_eq : (Except.error stop : Except Stop Instant) = result at prepared
    cases prepare_run prepared with
    | unseen failure =>
      obtain rfl := Except.error.inj result_eq
      exact .unseen failure
    | unkicked asked =>
      obtain rfl := Except.error.inj result_eq
      exact .unkicked asked
    | started asked => simpa [lettingGo] using DriveRun.endless asked result_eq.symm

/-- An armed challenge is seen through in one of these ways. -/
theorem drive_run {fuel : Nat} {url : String} {ready : Handle} {timeout pause : Duration}
    {outcome : Except Stop Unit}
    (run : (Challenge.pollChallengeWithInterval lib fuel url account ready timeout pause).Ends
      trace outcome) :
    DriveRun lib url account ready timeout pause trace outcome := by
  rcases drive_loop run with ⟨ended, _⟩ |
    ⟨kick, start, deadline, later, rfl, asked, representable, rest⟩
  · -- The run ended before the loop.
    exact ended
  · -- The loop was entered.
    have polling := Poll.loop_run (uncut_question lib account url (Challenge.read lib)) rest
    exact .polled asked representable polling

/-- What holds of the requests and of the calls in between holds while a challenge is driven. -/
theorem DriveRun.forall_mem {url : String} {ready : Handle} {timeout pause : Duration}
    {outcome : Except Stop Unit} {kind : Event calls → Prop}
    (asks : ∀ {α : Type} {payload : Bytes} {read : HttpResponse → Except AcmeError α}
      {trace : History} {outcome : Except Stop α}, Asks lib account url payload read trace outcome →
      ∀ event ∈ trace, kind event)
    (check : ∀ reply, kind (checked ready reply)) (clock : ∀ time, kind (clocked time))
    (wait : kind (slept pause)) (drop : kind (dropped ready))
    (run : DriveRun lib url account ready timeout pause trace outcome) :
    ∀ event ∈ trace, kind event := by
  -- The last call lets the handle go.
  have left : ∀ event ∈ [dropped ready], kind event := List.forall_mem_singleton.mpr drop
  cases run with
  | unseen failure => exact List.forall_mem_cons.mpr ⟨check _, left⟩
  | unkicked asked =>
    exact List.forall_mem_cons.mpr ⟨check _, List.forall_mem_append.mpr ⟨asks asked, left⟩⟩
  | endless asked =>
    exact List.forall_mem_cons.mpr ⟨check _, List.forall_mem_append.mpr
      ⟨asks asked, List.forall_mem_cons.mpr ⟨clock _, left⟩⟩⟩
  | polled asked _ polling =>
    -- The loop asks, reads the clock and waits, and drops the handle it owns.
    have owns : ∀ owned, some ready = some owned → kind (dropped owned) :=
      fun owned same => Option.some.inj same ▸ drop
    have polls := polling.forall_mem (fun question => asks (asks_run question)) clock wait owns
    exact List.forall_mem_cons.mpr ⟨check _, List.forall_mem_append.mpr
      ⟨asks asked, List.forall_mem_cons.mpr ⟨clock _, polls⟩⟩⟩

/-- An authorization goes in one of these ways. -/
theorem session_run {fuel : Nat} {url : String} {solvers : List ChallengeKind}
    {timeout : Duration} {outcome : Except Stop Unit}
    (run : (runOneAuthorization lib fuel url account solvers timeout).Ends trace outcome) :
    SessionRun lib account solvers timeout url trace outcome := by
  unfold runOneAuthorization at run
  rw [Authorization.fetch_eq] at run
  rcases Fallible.ends_bind.mp run with ⟨authz, earlier, later, rfl, fetched, rest⟩ |
    ⟨stop, fetched, rfl⟩
  · replace fetched := asks_run fetched
    by_cases valid : authz.statusEnum = .valid
    · -- A valid authorization needs no challenge.
      simp only [if_pos valid, Fallible.ends_pure] at rest
      obtain ⟨rfl, rfl⟩ := rest
      simpa using SessionRun.valid fetched valid
    · -- The authorization is still open, so a challenge is looked for.
      simp only [if_neg valid, lift, Fallible.ends_ofExcept_bind] at rest
      cases picked : pickSolverAndChallenge lib authz solvers with
      -- No solver fits.
      | error failure =>
        simp only [picked, result_error] at rest
        obtain ⟨rfl, rfl⟩ := rest
        simpa using SessionRun.unmatched fetched valid picked
      | ok choice =>
        obtain ⟨solver, challenge⟩ := choice
        simp only [picked, result_ok] at rest
        cases present : challenge.token with
        -- The challenge has no token.
        | none =>
          simp only [present, Fallible.ends_throw] at rest
          obtain ⟨rfl, rfl⟩ := rest
          simpa using SessionRun.tokenless fetched valid picked present
        | some token =>
          -- The solver is called, and what it makes of it decides.
          simp only [present, arm, Fallible.ends_ask_bind] at rest
          obtain ⟨arming, later, rfl, rest⟩ := rest
          cases arming with
          | error failure =>
            obtain ⟨rfl, rfl⟩ := rest
            exact .unarmed failure fetched valid picked present
          | ok ready => exact .driven fetched valid picked present (drive_run rest)
  · exact .unfetched (asks_run fetched)

/-- A list of authorizations goes in one of these ways. -/
theorem sessions_run {fuel : Nat} {urls : List String} {solvers : List ChallengeKind}
    {timeout : Duration} {outcome : Except Stop Unit}
    (run : (runAuthorizations lib fuel account solvers timeout urls).Ends trace outcome) :
    ∃ sessions, trace = sessions.flatten ∧
      SessionsRun lib account solvers timeout urls sessions outcome := by
  -- One authorization after the other is reached, until one of them fails.
  induction urls generalizing trace with
  | nil =>
    obtain ⟨rfl, rfl⟩ := Fallible.ends_pure.mp run
    exact ⟨[], rfl, .done⟩
  | cons url urls ih =>
    rcases Fallible.ends_bind.mp run with ⟨_, earlier, later, rfl, session, rest⟩ |
      ⟨stop, session, rfl⟩
    · obtain ⟨sessions, rfl, others⟩ := ih rest
      exact ⟨earlier :: sessions, by simp, .next (session_run session) others⟩
    · exact ⟨[trace], by simp, .stopped (session_run session)⟩

/-- An order is finalized up to the end of the run, or up to the polling loop. -/
theorem finalize_loop {fuel : Nat} {order : Order} {privateKey : CertificateKey}
    {timeout pause : Duration} {outcome : Except Stop Order}
    (run : (Certificate.finalizeWithIntervals lib fuel order privateKey account timeout
      pause).Ends trace outcome) :
    (FinalizeRun lib order privateKey account timeout pause trace outcome ∧
      outcome ≠ .error .unfinished) ∨
      ∃ submission csrDer start deadline later, trace = submission ++ clocked start :: later ∧
        Csr.buildCsr lib privateKey order.identifiers = .ok csrDer ∧
        Asks lib account order.finalize (Certificate.csrPayload lib csrDer)
          (HttpResponse.accepted lib) submission (.ok ()) ∧
        deadlineAfter lib start timeout = .ok deadline ∧
        ((Certificate.poll lib order account timeout).loop pause deadline fuel).Ends later
          outcome := by
  unfold Certificate.finalizeWithIntervals at run
  by_cases homeless : order.url = ""
  · -- An order without an address is turned away.
    simp only [if_pos homeless, Fallible.ends_throw] at run
    obtain ⟨rfl, rfl⟩ := run
    exact .inl ⟨.unbuilt _ fun home => absurd homeless home, by simp⟩
  · -- The certificate request is built before the first call.
    rw [if_neg homeless] at run
    cases built : Csr.buildCsr lib privateKey order.identifiers with
    | error failure =>
      obtain ⟨rfl, rfl⟩ := Fallible.ends_throw.mp (built ▸ run)
      exact .inl ⟨.unbuilt failure fun _ => built, by simp⟩
    | ok csrDer =>
      rw [built, lift_ok_bind, post_accepted_bind] at run
      rcases Fallible.ends_bind.mp run with ⟨_, earlier, later, rfl, submitted, rest⟩ |
        ⟨stop, submitted, rfl⟩
      · -- The request was accepted, so the clock is read.
        simp only [now, Fallible.ends_ask_bind, Fallible.ends_ofExcept_bind] at rest
        obtain ⟨start, later, rfl, rest⟩ := rest
        cases limited : deadlineAfter lib start timeout with
        -- The clock cannot hold the deadline.
        | error stop =>
          simp only [limited] at rest
          obtain ⟨rfl, rfl⟩ := rest
          obtain ⟨message, rfl⟩ := deadlineAfter_eq_error limited
          exact .inl ⟨.endless built (asks_run submitted) limited, by simp⟩
        | ok deadline =>
          simp only [limited, Certificate.pollUntil_eq] at rest
          exact .inr ⟨earlier, csrDer, start, deadline, later, rfl, rfl, asks_run submitted,
            limited, rest⟩
      · -- A request that was not accepted ends the run, and no request is ever cut.
        refine .inl ⟨.unsubmitted built (asks_run submitted), fun cut => ?_⟩
        obtain rfl := Except.error.inj cut
        exact (asks_run submitted).ne_unfinished rfl

/-- An order is finalized in one of these ways. -/
theorem finalize_run {fuel : Nat} {order : Order} {privateKey : CertificateKey}
    {timeout pause : Duration} {outcome : Except Stop Order}
    (run : (Certificate.finalizeWithIntervals lib fuel order privateKey account timeout
      pause).Ends trace outcome) :
    FinalizeRun lib order privateKey account timeout pause trace outcome := by
  rcases finalize_loop run with ⟨ended, _⟩ |
    ⟨submission, csrDer, start, deadline, later, rfl, built, asked, representable, rest⟩
  · -- The run ended before the loop.
    exact ended
  · -- The loop was entered.
    exact .polled built asked representable (Poll.loop_run
      (uncut_question lib account order.url (Order.refreshed lib order.url)) rest)

/-- What a finalized order is like: it is valid, and it has a certificate. -/
theorem verdict_ok {order final : Order} (settled : Certificate.verdict order = some (.ok final)) :
    final = order ∧ order.statusEnum = .valid ∧ ∃ url, order.certificate = some url := by
  unfold Certificate.verdict at settled
  -- Of the valid orders, those with a certificate are the successes.
  cases status : order.statusEnum with
  | valid =>
    cases present : order.certificate with
    | none => simp [status, present] at settled
    | some url => simp_all
  | invalid => simp [status] at settled
  | pending | ready | processing | unknown => simp [status] at settled

/-- Finalizing succeeds only with a certificate. -/
theorem FinalizeRun.present {order final : Order} {privateKey : CertificateKey}
    {timeout pause : Duration}
    (finalizing : FinalizeRun lib order privateKey account timeout pause trace (.ok final)) :
    ∃ url, final.certificate = some url := by
  generalize outcome_eq : (Except.ok final : Except Stop Order) = outcome at finalizing
  cases finalizing with
  -- The last question of the loop was answered with a valid order.
  | polled built asked representable polling =>
    obtain ⟨refreshed, _, _, _, settled⟩ := polling.question_ok final outcome_eq.symm
    obtain ⟨rfl, _, present⟩ := verdict_ok settled
    exact present
  | unbuilt | unsubmitted | endless => cases outcome_eq

/-- An order is finalized and its certificate downloaded in one of these ways. -/
theorem closing_run {fuel : Nat} {request : IssueRequest} {order : Order}
    {outcome : Except Stop Bytes}
    (run : (finalizeAndDownload lib fuel request account order).Ends trace outcome) :
    ClosingRun lib request account order trace outcome := by
  rcases Fallible.ends_bind.mp run with ⟨final, earlier, later, rfl, finalized, rest⟩ |
    ⟨stop, finalized, rfl⟩
  · have finalizing := finalize_run finalized
    -- Without a certificate the finalization would have failed.
    obtain ⟨url, present⟩ := finalizing.present
    simp only [present, Certificate.download_eq] at rest
    exact .finalized finalizing present (asks_run rest)
  · exact .unfinalized (finalize_run finalized)

/-- An issuance goes in one of these ways. -/
theorem issue_run {fuel : Nat} {request : IssueRequest} {outcome : Except Stop Bytes}
    (run : (issueCertificateWithTimeouts lib fuel request).Ends trace outcome) :
    IssueRun lib request trace outcome := by
  unfold issueCertificateWithTimeouts at run
  rw [Directory.fetch_eq] at run
  -- The parts follow one another; each of them ends the run when it fails.
  rcases Fallible.ends_bind.mp run with ⟨directory, first, later, rfl, fetched, registering⟩ |
    ⟨stop, fetched, rfl⟩
  · obtain ⟨original, asked, read⟩ := Fallible.ends_bind_ofExcept.mp fetched
    obtain ⟨reply, rfl, rfl⟩ := Fallible.ends_ask.mp asked
    obtain ⟨answer, came, read⟩ := bind_result_eq_ok.mp read.symm
    cases reply with
    | error failure => cases came
    | ok response =>
      obtain rfl := Except.ok.inj came
      -- The directory is known, and the account comes next.
      rcases Fallible.ends_bind.mp registering with
        ⟨account, registration, later, rfl, registered, ordering⟩ | ⟨stop, failing, rfl⟩
      · rw [Order.create_eq] at ordering
        rcases Fallible.ends_bind.mp ordering with
          ⟨order, placement, later, rfl, ordered, authorizing⟩ | ⟨stop, failing, rfl⟩
        · -- The order is placed, and its authorizations come next.
          rcases Fallible.ends_bind.mp authorizing with
            ⟨_, _, closing, rfl, authorized, closed⟩ | ⟨stop, failing, rfl⟩
          · obtain ⟨sessions, rfl, succeeded⟩ := sessions_run authorized
            simpa [List.append_assoc] using IssueRun.authorized read registered
              (asks_run ordered) succeeded (closing_run closed)
          · -- One of the authorizations has failed.
            obtain ⟨sessions, rfl, failed⟩ := sessions_run failing
            simpa [List.append_assoc] using IssueRun.unauthorized read registered
              (asks_run ordered) failed
        · -- The order could not be placed.
          simpa using IssueRun.unordered read registered (asks_run failing)
      · -- There is no account.
        exact .unregistered read failing
  · obtain ⟨original, asked, read⟩ := Fallible.ends_bind_ofExcept.mp fetched
    obtain ⟨reply, rfl, rfl⟩ := Fallible.ends_ask.mp asked
    exact .undirected read.symm

end Acme
