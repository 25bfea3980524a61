import Acme.Proofs.Authorized

/-! Where the names come from that the client has certified and provisions responses for. -/

namespace Acme

open Interaction

/-- The same identifiers, whatever their order and however often each is listed. -/
def SameNames (names requested : List Identifier) : Prop :=
  ∀ identifier, identifier ∈ names ↔ identifier ∈ requested

/-- An identifier is requested as it is, or as the base of a wildcard. -/
def Requested (requested : List Identifier) (identifier : Identifier) : Prop :=
  identifier ∈ requested ∨ { identifier with value := "*." ++ identifier.value } ∈ requested

/-- An attempt to arm a challenge for some identifier. -/
def isArm : Event calls → Bool
  | ⟨.arm _ _ _, _⟩ => true
  | _ => false

/-- The last response is an authorization. -/
def LastRead (lib : Libraries) (history : History) (authz : Authorization) : Prop :=
  ∃ url body answer, (posts history).getLast? = some (posted url body (.ok answer)) ∧
    Authorization.read lib answer = .ok authz

/-- The part of an issuance before the order is finalized: an account, and an authorized order. -/
def authorizeOrder (lib : Libraries) (fuel : Nat) (request : IssueRequest) :
    Client (Account × Order) := do
  let directory ← Directory.fetch lib request.directoryUrl
  let account ← Account.create lib directory request.contact true request.accountKey
  let order ← Order.create lib account request.identifiers
  runAuthorizations lib fuel account request.solvers request.challengeTimeout order.authorizations
  pure (account, order)

/-- The authority answers with the names it was asked about. -/
structure Truthful (lib : Libraries) (request : IssueRequest) (trace : History) : Prop where
  /-- An order whose authorizations are all settled is for the identifiers of the request. -/
  orders : ∀ order, Cleared lib request trace order →
    SameNames order.identifiers request.identifiers
  /-- The authorization that was read right before a challenge is armed is for one of them. -/
  authorizations : ∀ before solver identifier keyAuthorization reply after authz,
    trace = before ++ armed solver identifier keyAuthorization reply :: after →
    LastRead lib before authz → Requested request.identifiers authz.identifier

/-- The client uses no names but those the caller asked for. -/
structure AsRequested (lib : Libraries) (fuel : Nat) (request : IssueRequest) (trace : History) :
    Prop where
  /-- An order that is handed over to be finalized, is for the caller's identifiers. -/
  handed : ∀ earlier later account order, trace = earlier ++ later →
    (authorizeOrder lib fuel request).Ends earlier (.ok (account, order)) →
    SameNames order.identifiers request.identifiers
  /-- A certificate request that is submitted, was built of the caller's identifiers. -/
  submitted : ∀ event ∈ trace, ∀ csrDer, csrOf event = some csrDer →
    ∃ names, SameNames names request.identifiers ∧
      Csr.buildCsr lib request.certKey names = .ok csrDer
  /-- A challenge is armed for one of the caller's identifiers. -/
  armed : ∀ solver identifier keyAuthorization reply,
    armed solver identifier keyAuthorization reply ∈ trace →
    Requested request.identifiers identifier

variable {lib : Libraries} {account : Account} {trace : History}

/-- An issuance authorizes an order, and then finalizes it with that order's identifiers. -/
theorem issueCertificateWithTimeouts_eq (lib : Libraries) (fuel : Nat) (request : IssueRequest) :
    issueCertificateWithTimeouts lib fuel request
      = authorizeOrder lib fuel request >>= fun handed =>
        finalizeAndDownload lib fuel request handed.1 handed.2 := by
  simp only [issueCertificateWithTimeouts, authorizeOrder, bind_assoc, pure_bind]

/-- The order that is authorized was placed, and each of its authorizations was settled. -/
theorem cleared_of_authorizeOrder {fuel : Nat} {request : IssueRequest} {order : Order}
    (run : (authorizeOrder lib fuel request).Ends trace (.ok (account, order))) :
    Cleared lib request trace order := by
  -- Each of the four parts has succeeded, as the whole has.
  rcases Fallible.ends_bind.mp run with ⟨directory, first, _, rfl, _, run⟩ | ⟨_, _, stopped⟩
  · rcases Fallible.ends_bind.mp run with ⟨owner, second, _, rfl, _, run⟩ | ⟨_, _, stopped⟩
    · rw [Order.create_eq] at run
      rcases Fallible.ends_bind.mp run with ⟨placed, third, _, rfl, ordered, run⟩ | ⟨_, _, stopped⟩
      · rcases Fallible.ends_bind.mp run with ⟨_, fourth, _, rfl, authorized, run⟩ | ⟨_, _, stopped⟩
        · -- All four parts succeeded, so the order is the one that was placed.
          obtain ⟨rfl, same⟩ := Fallible.ends_pure.mp run
          obtain ⟨rfl, rfl⟩ := Prod.mk.inj (Except.ok.inj same)
          obtain ⟨sessions, rfl, succeeded⟩ := sessions_run authorized
          exact ⟨first ++ second ++ third, sessions, [], by simp,
            placed_of_asks _ (asks_run ordered), succeeded.settles rfl⟩
        · cases stopped
      · cases stopped
    · cases stopped
  · cases stopped

/-- What was cleared stays cleared. -/
theorem Cleared.append {request : IssueRequest} {order : Order} {earlier : History}
    (cleared : Cleared lib request earlier order) (later : History) :
    Cleared lib request (earlier ++ later) order := by
  obtain ⟨setup, sessions, rest, rfl, placed, settled⟩ := cleared
  exact ⟨setup, sessions, rest ++ later, by simp, placed, settled⟩

/-- Where no solver is called, nothing is armed. -/
theorem Quiet.unarmed (quiet : Quiet trace) : ∀ event ∈ trace, isArm event = false := by
  intro event member
  have silent := quiet event member
  obtain ⟨call, answer⟩ := event
  -- Arming is not quiet.
  cases call <;> first | rfl | cases silent

/-- Seeing a challenge through arms nothing. -/
theorem DriveRun.unarmed {url : String} {ready : Handle} {timeout pause : Duration}
    {outcome : Except Stop Unit} (run : DriveRun lib url account ready timeout pause trace outcome) :
    ∀ event ∈ trace, isArm event = false := by
  -- The check, the requests, the readings and the pauses arm nothing.
  exact run.forall_mem (fun asked => (Reads.quiet asked).unarmed) (fun _ => rfl) (fun _ => rfl)
    rfl rfl

/-- A challenge is armed for the authorization that was just read. -/
theorem SessionRun.lastRead {solvers : List ChallengeKind} {timeout : Duration} {url : String}
    {outcome : Except Stop Unit} {before after : History} {solver : Nat} {identifier : Identifier}
    {keyAuthorization : String} {reply : Except AcmeError Handle}
    (run : SessionRun lib account solvers timeout url
      (before ++ armed solver identifier keyAuthorization reply :: after) outcome) :
    ∃ authz, LastRead lib before authz ∧ authz.identifier = identifier := by
  -- The session has asked for one authorization, which is the last one read.
  have just : ∀ {trace : History} {authz : Authorization},
      Asks lib account url [] (Authorization.read lib) trace (.ok authz) →
      LastRead lib trace authz := by
    intro trace authz asked
    obtain ⟨body, answer, only, _, read⟩ := asked.posts_ok
    exact ⟨url, body, answer, by rw [only]; rfl, read⟩
  generalize split : before ++ armed solver identifier keyAuthorization reply :: after = trace
    at run
  cases run with
  -- Nothing is armed in these sessions.
  | unfetched asked | valid asked | unmatched asked | tokenless asked =>
    have silent := (Reads.quiet asked).unarmed (armed solver identifier keyAuthorization reply)
      (by simp [← split])
    cases silent
  -- The attempt is the call behind the question.
  | unarmed failure asked =>
    obtain ⟨middle, rfl, rest⟩ := split_second split.symm fun member => by
      cases Reads.quiet asked _ member
    cases middle with
    | nil =>
      obtain ⟨same, _⟩ := List.cons.inj rest
      cases same
      exact ⟨_, by simpa using just asked, rfl⟩
    | cons other middle => simp at rest
  -- So it is when the challenge is seen through afterwards.
  | driven asked _ _ _ driven =>
    obtain ⟨middle, rfl, rest⟩ := split_second split.symm fun member => by
      cases Reads.quiet asked _ member
    cases middle with
    | nil =>
      obtain ⟨same, _⟩ := List.cons.inj rest
      cases same
      exact ⟨_, by simpa using just asked, rfl⟩
    | cons other middle =>
      -- Nothing is armed while the challenge is seen through.
      obtain ⟨_, rfl⟩ := List.cons.inj rest
      have silent := driven.unarmed (armed solver identifier keyAuthorization reply) (by simp)
      cases silent

/-- What was read last is still what was read last after an earlier history. -/
theorem LastRead.after {history : History} {authz : Authorization}
    (last : LastRead lib history authz) (earlier : History) :
    LastRead lib (earlier ++ history) authz := by
  obtain ⟨url, body, answer, same, read⟩ := last
  exact ⟨url, body, answer, by rw [posts_append, List.getLast?_append, same]; rfl, read⟩

/-- In a list of authorizations, challenges are armed for the authorization just read. -/
theorem SessionsRun.lastRead {solvers : List ChallengeKind} {timeout : Duration}
    {urls : List String} {sessions : List History} {outcome : Except Stop Unit}
    {before after : History} {solver : Nat} {identifier : Identifier}
    {keyAuthorization : String} {reply : Except AcmeError Handle}
    (run : SessionsRun lib account solvers timeout urls sessions outcome)
    (split : sessions.flatten
      = before ++ armed solver identifier keyAuthorization reply :: after) :
    ∃ authz, LastRead lib before authz ∧ authz.identifier = identifier := by
  -- The attempt belongs to one of the sessions, all earlier ones having ended before it.
  induction run generalizing before with
  | done => simp at split
  | stopped session =>
    simp only [List.flatten_cons, List.flatten_nil, List.append_nil] at split
    subst split
    exact session.lastRead
  | next session rest ih =>
    rcases split_append split with ⟨_, rfl, _⟩ | ⟨middle, rfl, tail⟩
    · -- It is in this session, or in a later one.
      exact session.lastRead
    · obtain ⟨authz, last, same⟩ := ih tail
      exact ⟨authz, last.after _, same⟩

/-- A finalization submits only the certificate request that was built for the order. -/
theorem FinalizeRun.built {order : Order} {privateKey : CertificateKey}
    {timeout pause : Duration} {outcome : Except Stop Order} {event : Event calls}
    {csrDer : Bytes} (run : FinalizeRun lib order privateKey account timeout pause trace outcome)
    (member : event ∈ trace) (submits : csrOf event = some csrDer) :
    Csr.buildCsr lib privateKey order.identifiers = .ok csrDer := by
  obtain ⟨url, body, reply, rfl⟩ := posted_of_csrOf submits
  -- The certificate request of an order is the one that was built.
  have submitted : ∀ {trace : History} {csr : Bytes} {outcome : Except Stop Unit},
      Asks lib account order.finalize (Certificate.csrPayload lib csr)
        (HttpResponse.accepted lib) trace outcome →
      posted url body reply ∈ trace → csr = csrDer := by
    intro trace csr outcome asked member
    obtain ⟨_, carries, _, rfl⟩ := asked.sends url body reply member
    rw [csrOf_posted carries, submittedCsr_csrPayload] at submits
    exact Option.some.inj submits
  cases run with
  -- Nothing was submitted.
  | unbuilt failure => cases member
  | unsubmitted built asked =>
    obtain rfl := submitted asked member
    exact built
  | endless built asked =>
    obtain rfl := submitted asked (by simpa using member)
    exact built
  | polled built asked _ polling =>
    have polls := (polling.sends fun question => (asks_run question).sends).unsubmitted
      fun _ payload sent => sent.2 ▸ submittedCsr_nil
    -- Polls submit nothing, so the event belongs to the first request.
    rcases List.mem_append.mp member with first | later
    · obtain rfl := submitted asked first
      exact built
    · rcases List.mem_cons.mp later with clock | poll
      · cases clock
      · rw [polls _ poll] at submits
        cases submits

/-- Closing an order submits only the certificate request that was built for it. -/
theorem ClosingRun.built {request : IssueRequest} {order : Order} {outcome : Except Stop Bytes}
    {event : Event calls} {csrDer : Bytes}
    (run : ClosingRun lib request account order trace outcome) (member : event ∈ trace)
    (submits : csrOf event = some csrDer) :
    Csr.buildCsr lib request.certKey order.identifiers = .ok csrDer := by
  cases run with
  | unfinalized finalizing => exact finalizing.built member submits
  | finalized finalizing _ asked =>
    rcases List.mem_append.mp member with first | later
    · exact finalizing.built first submits
    · -- A download submits nothing.
      have silent := asked.sends.unsubmitted fun _ payload sent => sent.2 ▸ submittedCsr_nil
      rw [silent event later] at submits
      cases submits

/--
Whatever the solvers answer, and as long as the authority answers with the names it was asked
about, an issuance finalizes an order for the caller's identifiers, submits a certificate request
for them, and arms challenges for them only.
-/
theorem names_as_requested {lib : Libraries} {fuel : Nat} {request : IssueRequest}
    {trace : History} {outcome : Except Stop Bytes}
    (run : (issueCertificateWithTimeouts lib fuel request).Ends trace outcome)
    (truthful : Truthful lib request trace) : AsRequested lib fuel request trace where
  handed := by
    intro earlier later account order split authorized
    subst split
    -- An order that was authorized is one that was cleared.
    exact truthful.orders order ((cleared_of_authorizeOrder authorized).append later)
  submitted := by
    intro event member csrDer submits
    cases (issue_run run).stages with
    -- Before the finalization nothing is submitted.
    | early _ unsubmitted | stopped _ unsubmitted =>
      rw [unsubmitted event member] at submits
      cases submits
    | @closed setup closing sessions _ order _ _ unsubmitted placed _ succeeded closed =>
      rcases List.mem_append.mp member with early | late
      · rw [unsubmitted event early] at submits
        cases submits
      · -- The certificate request was built for the order that was cleared.
        refine ⟨order.identifiers, truthful.orders order ?_, closed.built late submits⟩
        exact ⟨setup, sessions, closing, rfl, placed, succeeded.settles rfl⟩
  armed := by
    intro solver identifier keyAuthorization reply member
    obtain ⟨before, after, split⟩ := List.append_of_mem member
    -- Whichever authorization was read last before the attempt, it is for that identifier.
    suffices found : ∃ authz, LastRead lib before authz ∧ authz.identifier = identifier by
      obtain ⟨authz, last, rfl⟩ := found
      exact truthful.authorizations before solver _ keyAuthorization reply after authz split last
    subst split
    generalize trace_eq : before ++ armed solver identifier keyAuthorization reply :: after = trace
      at run
    cases (issue_run run).stages with
    -- Nothing is armed before the authorizations.
    | early uninvolved =>
      have silent := uninvolved.quiet (armed solver identifier keyAuthorization reply) (by simp [← trace_eq])
      cases silent
    -- The attempt is in one of the sessions, up to the one that has failed.
    | stopped uninvolved _ _ _ failed =>
      obtain ⟨middle, rfl, rest⟩ := split_second trace_eq.symm fun member => by
        cases uninvolved.quiet _ member
      obtain ⟨authz, last, same⟩ := failed.lastRead rest
      exact ⟨authz, last.after _, same⟩
    -- The attempt is in one of the sessions, as the rest arms nothing.
    | closed uninvolved _ _ _ succeeded closed =>
      rw [List.append_assoc] at trace_eq
      obtain ⟨middle, rfl, rest⟩ := split_second trace_eq.symm fun member => by
        cases uninvolved.quiet _ member
      rcases split_append rest with ⟨later, sessions, _⟩ | ⟨other, _, rfl⟩
      · obtain ⟨authz, last, same⟩ := succeeded.lastRead sessions
        exact ⟨authz, last.after _, same⟩
      · have silent := closed.uninvolved.quiet (armed solver identifier keyAuthorization reply) (by simp)
        cases silent

/-- Whatever a script's responses are read as, they are about one name. -/
def isAbout (name : Identifier) (line : Except AcmeError HttpResponse) : Bool :=
  match line with
  | .ok answer =>
    (match Order.created sampleLibraries answer with
      | .ok order => order.identifiers = [name]
      | .error _ => true) &&
    match Authorization.read sampleLibraries answer with
      | .ok authz => authz.identifier = name
      | .error _ => true
  | .error _ => true

/-- The authority of the whole issuance answers with the names it was asked about. -/
theorem sampleIssuance_truthful : Truthful sampleLibraries sampleRequest sampleIssuance.1 := by
  -- Every line of the script is about the one identifier that is asked for.
  have about : ∀ line ∈ issueScript, isAbout (Identifier.dns "a.example") line = true := by
    decide +kernel
  -- So is every answer of the run, as the answers are the lines.
  have named : ∀ {url body answer}, posted url body (.ok answer) ∈ sampleIssuance.1 →
      isAbout (Identifier.dns "a.example") (.ok answer) = true := by
    intro url body answer member
    unfold sampleIssuance at member
    exact about _ (play_response member rfl)
  refine ⟨fun order cleared => ?_, fun before solver identifier keyAuthorization reply after authz
    split last => ?_⟩
  · -- The order lists the identifier it was placed for.
    obtain ⟨setup, sessions, rest, split, ⟨url, body, answer, member, _, created⟩, _⟩ := cleared
    have listed := named (split ▸ List.mem_append_left _ (List.mem_append_left _ member))
    simp only [isAbout, created, Bool.and_eq_true, decide_eq_true_eq] at listed
    intro identifier
    rw [listed.1]
    rfl
  · -- The authorization read last is the one for that identifier.
    obtain ⟨url, body, answer, same, read⟩ := last
    have member := (List.mem_filter.mp (List.mem_of_getLast? same)).1
    have listed := named (split ▸ List.mem_append_left _ member)
    simp only [isAbout, read, Bool.and_eq_true, decide_eq_true_eq] at listed
    rw [listed.2]
    exact .inl (by decide)

/-- In the whole issuance, only the requested name is used. -/
theorem names_as_requested_sample :
    AsRequested sampleLibraries 2 sampleRequest sampleIssuance.1 :=
  names_as_requested sampleIssuance_ends sampleIssuance_truthful

/-- An authority that answers about another name than the one it was asked about. -/
def strayScript : List (Except AcmeError HttpResponse) :=
  [answering 200 "" [] directoryText, answering 200 "n0" [] "",
    answering 201 "n1" [("Location", "ca/acct/1")] "{}",
    answering 201 "n2" [("Location", "ca/order/1")] (orderText "pending" "b.example" ""),
    answering 200 "n3" [] (authorizationText "b.example"), answering 200 "n4" [] "",
    answering 200 "n5" [] (challengeText "valid"), answering 200 "n6" [] "",
    answering 200 "n7" [] (orderText "valid" "a.example" certificateText),
    answering 200 "n8" [] "chain"]

/-- The issuance that this authority answers. -/
def strayRun : History × Except Stop Bytes :=
  play strayScript (issueCertificateWithTimeouts sampleLibraries 2 sampleRequest)

/-- The body of the finalize request in that issuance. -/
def strayBody : Bytes :=
  sampleBody "ca/order/1/finalize" (Certificate.csrPayload sampleLibraries (Utf8.bytes "b.example"))
    "n5"

set_option maxRecDepth 100000 in
/-- That issuance makes a certificate request for the other name, and arms a challenge for it. -/
theorem strayRun_events :
    posted "ca/order/1/finalize" strayBody (answering 200 "n6" [] "") ∈ strayRun.1 ∧
      armed 0 (Identifier.dns "b.example") (computeKeyAuthorization sampleLibraries "tok" sampleKey)
        (.ok 1) ∈ strayRun.1 := by
  -- The places are compared with the run as it is, since to compute the texts takes much longer.
  have finalized : strayRun.1[25]?
      = some (posted "ca/order/1/finalize" strayBody (answering 200 "n6" [] "")) := by
    with_unfolding_all rfl
  have provisioned : strayRun.1[14]? = some (armed 0 (Identifier.dns "b.example")
      (computeKeyAuthorization sampleLibraries "tok" sampleKey) (.ok 1)) := by
    with_unfolding_all rfl
  exact ⟨List.mem_of_getElem? finalized, List.mem_of_getElem? provisioned⟩

/-- Asked about one name, the client arms a challenge and requests a certificate for another. -/
theorem unrequested_name_served :
    (issueCertificateWithTimeouts sampleLibraries 2 sampleRequest).Ends strayRun.1 strayRun.2 ∧
      pool.Admits [] strayRun.1 ∧
      (∃ event ∈ strayRun.1, csrOf event = some (Utf8.bytes "b.example")) ∧
      (∃ event ∈ strayRun.1, ∃ solver keyAuthorization reply,
        event = armed solver (Identifier.dns "b.example") keyAuthorization reply) ∧
      Csr.buildCsr sampleLibraries sampleRequest.certKey sampleRequest.identifiers
        = .ok (Utf8.bytes "a.example") ∧
      ¬ AsRequested sampleLibraries 2 sampleRequest strayRun.1 := by
  obtain ⟨finalized, provisioned⟩ := strayRun_events
  -- The finalization carries a certificate request for the other name.
  have carries : Carries strayBody
      (Certificate.csrPayload sampleLibraries (Utf8.bytes "b.example")) :=
    ⟨_, says_kid (sampleBody_signed "ca/order/1/finalize" _ "n5")⟩
  have submits : csrOf (posted "ca/order/1/finalize" strayBody (answering 200 "n6" [] ""))
      = some (Utf8.bytes "b.example") := by
    rw [csrOf_posted carries, submittedCsr_csrPayload]
  -- The run is one of the program, and the pool is as the script has it.
  refine ⟨play_ends _ _, play_shared strayScript _, ⟨_, finalized, submits⟩,
    ⟨_, provisioned, 0, _, .ok 1, rfl⟩, by decide +kernel, fun requested => ?_⟩
  -- Neither the name itself nor a wildcard above it was asked for.
  rcases requested.armed 0 _ _ (.ok 1) provisioned with listed | wildcard
  · exact absurd listed (by decide)
  · exact absurd wildcard (by decide)

end Acme
