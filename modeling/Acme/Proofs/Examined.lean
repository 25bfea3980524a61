import Acme.Proofs.HonestIssue
import Acme.Proofs.Served

/-! An authority that decides on challenges by looking at the servers of the harness. -/

namespace Acme.Testing

open Interaction

variable {π : Type} {harness : Harness π}

section Examination

variable (documented : Documented harness) (solvers : List Adapter) (dealing : Dealing)
  (start : Bench harness)

/-- What an authority looks for to find a challenge met is there, if the challenge can be met. -/
def Displayed (index position : Nat) (servers : Servers harness) : Prop :=
  ∃ offer type token adapter, dealing.site.offers[index]? = some offer ∧
    offer.challenges[position]? = some (type, token) ∧ adapter ∈ solvers ∧
    adapter.kind = ChallengeKind.fromType type ∧
    -- A challenge that does not suit its solver is not one that an authority decides on by this.
    (adapter.Suits documented offer.identifier token →
      servers.Serves documented offer.identifier token dealing.request.accountKey adapter)

/-- It has been there since the authority was told to look. -/
def Watched (url : String) (index position : Nat) (history : History) : Prop :=
  ∃ earlier kick reply since, history = earlier ++ posted url kick reply :: since ∧
    Carries kick Challenge.kickPayload ∧ ∀ between rest, since = between ++ rest →
      Displayed documented solvers dealing index position
        ((bench harness solvers).after start (earlier ++ posted url kick reply :: between)).servers

/-- The authority is asked about a challenge that it may have found unmet since. -/
def Doubtful (history : History) (event : Event calls) : Prop :=
  ∃ url body reply message index position, event = posted url body reply ∧
    readJws body = some message ∧ message.payload = [] ∧
    dealing.site.locate url = some (.challenge index position) ∧
    ¬ Watched documented solvers dealing start url index position history

/-- An authority keeps its promises, except about a challenge that it may have found unmet. -/
def Examining (history : History) (event : Event calls) : Prop :=
  Doubtful documented solvers dealing start history event ∨
    dealing.Promises (dealing.contract.promising.after dealing.opening history) event

end Examination

/-- A response that is up, as something deployed. -/
def deployment (posting : Posting) : Deployment where
  ready := posting.ready
  solver := posting.solver
  identifier := posting.identifier
  keyAuthorization := posting.keyAuthorization

variable {dealing : Dealing}

/-- A request changes nothing about what is deployed. -/
theorem deployed_posted (desk : Desk) (url : String) (body : Bytes)
    (reply : Except AcmeError HttpResponse) :
    (dealing.next desk (posted url body reply)).docket.deployed = desk.docket.deployed := by
  -- Nothing changes before the message is read, answered, and found to be for some place.
  cases read : readJws body with
  | none => simp only [Dealing.next, read]
  | some message =>
    cases reply with
    | error failure => simp only [Dealing.next, read, Dealing.settle]
    | ok response =>
      cases located : dealing.site.locate url with
      | none => simp only [Dealing.next, read, Dealing.settle, located]
      | some place =>
        simp only [Dealing.next, read, Dealing.settle, located]
        -- What becomes of the order has nothing to do with what is deployed.
        cases place <;> simp only [Dealing.advance] <;> split_ifs <;> rfl

/-- What is deployed is what is up. -/
def Alike (desk : Desk) (up : Option Posting) : Prop :=
  desk.docket.deployed = up.toList.map deployment

/-- Every call keeps it so. -/
theorem Alike.step {desk : Desk} {up : Option Posting} {event : Event calls}
    (alike : Alike desk up) (promised : dealing.contract.promising.Allows desk event)
    (allowed : postings.Allows up event) :
    Alike (dealing.contract.promising.next desk event) (postings.next up event) := by
  obtain ⟨call, told⟩ := event
  cases call with
  | arm solver identifier keyAuthorization =>
    -- Nothing was up, so the new response is all there is.
    obtain rfl : up = none := allowed
    cases told with
    -- A solver that fails has deployed nothing.
    | error failure => exact alike
    | ok ready => exact congrArg (_ :: ·) alike
  | dropReady ready =>
    cases up with
    | none => cases allowed
    | some posting =>
      -- The one response that was deployed is taken away.
      obtain rfl : posting.ready = ready := Option.some.inj allowed
      show desk.docket.deployed.filter _ = []
      rw [show desk.docket.deployed = [deployment posting] from alike]
      simp [deployment]
  -- A POST moves the order along, and leaves what is deployed.
  | postJose url body => exact (deployed_posted desk url body told).trans alike
  | head url => cases told <;> exact alike
  | _ => exact alike

/-- An authorization arms one of the solvers. -/
theorem session_solver {lib : Libraries} {account : Account} {kinds : List ChallengeKind}
    {timeout : Duration} {url : String} {trace : History} {outcome : Except Stop Unit}
    {solver : Nat} {identifier : Identifier} {keyAuthorization : String}
    {reply : Except AcmeError Handle}
    (run : SessionRun lib account kinds timeout url trace outcome)
    (member : armed solver identifier keyAuthorization reply ∈ trace) : solver < kinds.length := by
  -- Fetching an authorization arms none.
  have fetched : ∀ {fetch outcome}, Asks lib account url [] (Authorization.read lib) fetch outcome →
      armed solver identifier keyAuthorization reply ∉ fetch := by
    intro fetch outcome asked member
    cases (Reads.quiet asked).unarmed _ member
  -- What is picked is among the solvers.
  have chosen : ∀ {authz position challenge},
      pickSolverAndChallenge lib authz kinds = .ok (position, challenge) →
      position < kinds.length := by
    intro authz position challenge picked
    rcases picked_cases lib authz kinds with ⟨_, _, selected, found⟩ | ⟨_, _, none⟩
    · rw [picked] at found
      obtain ⟨rfl, rfl⟩ := Prod.mk.inj (Except.ok.inj found)
      exact (List.getElem?_eq_some_iff.mp selected.fits).1
    · rw [picked] at none
      cases none
  cases run with
  | unfetched asked | valid asked | unmatched asked | tokenless asked =>
    exact absurd member (fetched asked)
  -- The attempt is the last call of the session.
  | unarmed failure asked pending picked =>
    rcases List.mem_append.mp member with early | late
    · exact absurd early (fetched asked)
    · obtain same := List.mem_singleton.mp late
      cases same
      exact chosen picked
  | driven asked pending picked present driven =>
    -- The fetch comes first, then the solver is armed, and nothing is armed after that.
    rcases List.mem_append.mp member with early | late
    · exact absurd early (fetched asked)
    · rcases List.mem_cons.mp late with same | later
      · cases same
        exact chosen picked
      · cases driven.unarmed _ later

/-- So do authorizations in turn. -/
theorem sessions_solver {lib : Libraries} {account : Account} {kinds : List ChallengeKind}
    {timeout : Duration} {urls : List String} {sessions : List History}
    {outcome : Except Stop Unit} {solver : Nat} {identifier : Identifier}
    {keyAuthorization : String} {reply : Except AcmeError Handle}
    (run : SessionsRun lib account kinds timeout urls sessions outcome)
    (member : armed solver identifier keyAuthorization reply ∈ sessions.flatten) :
    solver < kinds.length := by
  -- By induction on the authorizations: it was armed for the first one, or for a later one.
  induction run with
  | done => cases member
  | stopped failed => exact session_solver failed (by simpa using member)
  | next succeeded _ ih =>
    rcases List.mem_append.mp member with first | later
    · exact session_solver succeeded first
    · exact ih later

/-- And so does an issuance. -/
theorem issuance_solver {lib : Libraries} {request : IssueRequest} {trace : History}
    {outcome : Except Stop Bytes} {solver : Nat} {identifier : Identifier}
    {keyAuthorization : String} {reply : Except AcmeError Handle}
    (run : IssueRun lib request trace outcome)
    (member : armed solver identifier keyAuthorization reply ∈ trace) :
    solver < request.solvers.length := by
  -- Of the stages of an issuance, only the one that goes through the authorizations arms solvers.
  cases run.stages with
  | early uninvolved => cases uninvolved.quiet.unarmed _ member
  -- It is in one of the sessions, up to the one that has failed.
  | stopped uninvolved _ _ _ failed =>
    rcases List.mem_append.mp member with early | late
    · cases uninvolved.quiet.unarmed _ early
    · exact sessions_solver failed late
  | closed uninvolved _ _ _ succeeded closed =>
    rcases List.mem_append.mp member with before | after
    · rcases List.mem_append.mp before with early | late
      · cases uninvolved.quiet.unarmed _ early
      · exact sessions_solver succeeded late
    · cases closed.uninvolved.quiet.unarmed _ after

/-- There is a token in every key authorization. -/
theorem exists_tokenOf (keyAuthorization : String) :
    ∃ token, tokenOf keyAuthorization = .ok token := by
  -- It is what comes before the first dot, or everything when there is none.
  obtain ⟨token, rest, shape⟩ :=
    List.exists_cons_of_ne_nil (List.splitOn_ne_nil '.' keyAuthorization.toList)
  exact ⟨_, by rw [tokenOf, shape]⟩

/-- The handle of what is up is the one that is live. -/
def Live (up : Option Posting) (bench : Bench harness) : Prop :=
  ∀ ready, bench.live ready ≠ none ↔ up.map Posting.ready = some ready

/-- The HTTP-01 solver never fails, so it replies as it is promised to. -/
theorem responder_admitted {trace : History} {desk : Desk} {up : Option Posting}
    {state : Bench harness} (live : Live up state) (paired : postings.Admits up trace)
    (honest : dealing.contract.promising.Admits desk trace)
    (first : ∀ solver identifier keyAuthorization reply,
      armed solver identifier keyAuthorization reply ∈ trace → solver = 0) :
    (bench harness [.http01]).Admits state trace := by
  -- By induction on the trace, along which the handle of what is up stays the live one.
  induction trace generalizing desk up state with
  | nil => trivial
  | cons event later ih =>
    obtain ⟨allowed, further⟩ := paired
    obtain ⟨promised, onward⟩ := honest
    have rest : ∀ {next}, Live (postings.next up event) next →
        (bench harness [.http01]).Admits next later := fun alive =>
      ih alive further onward fun solver identifier keyAuthorization reply member =>
        first solver identifier keyAuthorization reply (.tail _ member)
    obtain ⟨call, told⟩ := event
    cases call with
    | arm solver identifier keyAuthorization =>
      obtain rfl : up = none := allowed
      obtain rfl := first solver identifier keyAuthorization told (.head _)
      -- The solver finds a token, and cannot fail.
      obtain ⟨token, found⟩ := exists_tokenOf keyAuthorization
      cases told with
      | error failure => cases promised
      | ok ready =>
        have arming : state.arming [.http01] 0 identifier keyAuthorization
            = some (.ok (.http01 ⟨token⟩), { state.servers with
                http := state.servers.http.insert token keyAuthorization }) := by
          simp [Bench.arming, Adapter.arm, Http01SolverAdapter.arm, found, bind, Except.bind]
        -- Nothing is up, so no handle is in use.
        have free : ∀ other, state.live other = none := by
          intro other
          by_contra taken
          cases (live other).mp taken
        refine ⟨⟨_, arming, free ready⟩, rest fun other => ?_⟩
        simp only [bench, arming]
        by_cases same : other = ready
        · simp [same, postings]
        · have unlike : ready ≠ other := Ne.symm same
          simp [same, unlike, postings, free]
    -- The handle that is checked is the one of the response that is up.
    | selfCheck ready =>
      have held := (live ready).mpr allowed
      obtain ⟨armed, is⟩ := Option.ne_none_iff_exists'.mp held
      refine ⟨?_, rest live⟩
      show (state.live ready).map ChallengeReady.selfCheck = some told
      rw [is, show told = .ok () from promised]
      rfl
    -- So is the handle that is dropped, and nothing is live after it.
    | dropReady ready =>
      have held := (live ready).mpr allowed
      obtain ⟨armed, is⟩ := Option.ne_none_iff_exists'.mp held
      refine ⟨held, rest fun other => ?_⟩
      simp only [bench, is]
      by_cases same : other = ready
      · simp [same, postings]
      · have other_free : state.live other = none := by
          by_contra taken
          exact same (Option.some.inj (((live other).mp taken).symm.trans allowed))
        simp [same, postings, other_free]
    | _ => exact ⟨trivial, rest live⟩

/-- What an authority that deals with an issuance has found all the time is what it was shown. -/
theorem not_doubtful {documented : Documented harness} {solvers : List Adapter}
    {start : Bench harness} {before : History} {event : Event calls}
    (same : dealing.lib = harness.lib)
    (fitting : dealing.request.solvers = solvers.map Adapter.kind)
    (matched : ∀ part rest, before = part ++ rest →
      Matches documented solvers (postings.after none part) ((bench harness solvers).after start part))
    (alike : Alike (dealing.contract.promising.after dealing.opening before)
      (postings.after none before))
    (pursued : Pursued before event)
    (demanded : dealing.Demands (dealing.contract.promising.after dealing.opening before)
      event.call) : ¬ Doubtful documented solvers dealing start before event := by
  rintro ⟨url, body, reply, message, index, position, rfl, read, empty, located, unwatched⟩
  -- What is asked is only asked about a challenge whose response is deployed.
  obtain ⟨demand, again, acceptable⟩ := demanded
  obtain rfl : message = demand := Option.some.inj (read.symm.trans again)
  obtain ⟨place, found, accepts⟩ := acceptable.place
  obtain rfl : Place.challenge index position = place := Option.some.inj (located.symm.trans found)
  obtain ⟨_, offer, type, token, there, listed, ⟨shown, member, solved, target, authorized⟩, _⟩ :=
    accepts
  rw [alike] at member
  obtain ⟨posting, up, rfl⟩ := List.mem_map.mp member
  -- It has been up since the authority was told, so the server has had it since.
  obtain ⟨earlier, kick, answer, since, split, carries, stays⟩ :=
    pursued url body reply rfl ⟨message.header, message, read, rfl, empty⟩ posting
      (Option.mem_toList.mp up)
  refine unwatched ⟨earlier, kick, answer, since, split, carries, fun between rest tail => ?_⟩
  have state := matched (earlier ++ posted url kick answer :: between) rest (by simp [split, tail])
  rw [stays between rest tail] at state
  obtain ⟨adapter, servers, armed, chosen, idle, arming, _⟩ := state
  -- The adapter is of the type of the challenge, as the solvers fit together.
  have kind : some adapter.kind = some (ChallengeKind.fromType type) := by
    rw [← solved, fitting, List.getElem?_map, show solvers[(deployment posting).solver]? = _ from chosen]
    rfl
  -- What it has been armed with is what the authority looks for.
  have authorization : posting.keyAuthorization
      = computeKeyAuthorization harness.lib token dealing.request.accountKey := same ▸ authorized
  refine ⟨offer, type, token, adapter, there, listed, List.mem_of_getElem? chosen,
    Option.some.inj kind, ?_⟩
  rw [authorization] at arming
  rw [← target]
  exact arming.serves idle

/--
An authority that looks at the servers of the harness to decide on a challenge, and otherwise
keeps to the protocol, is one that keeps to it altogether: it never finds a response missing.
So the issuance gets its certificate, unless it is cut short or runs out of time, and certainly
when the authority decides promptly.
-/
theorem examined_issuance_succeeds (documented : Documented harness) {solvers : List Adapter}
    {fuel : Nat} {start : Bench harness} {trace : History} {outcome : Except Stop Bytes}
    (equipped : dealing.Equipped) (same : dealing.lib = harness.lib)
    (fitting : dealing.request.solvers = solvers.map Adapter.kind)
    (idle : start.servers.Idle documented) (unused : ∀ ready, start.live ready = none)
    (run : (issueCertificateWithTimeouts dealing.lib fuel dealing.request).Ends trace outcome)
    (admitted : (bench harness solvers).Admits start trace)
    (examining : (World.chronicle (Examining documented solvers dealing start)).Admits [] trace) :
    dealing.contract.promising.Admits dealing.opening trace ∧
      dealing.Manages fuel (fun chain reached => chain = dealing.site.chain ∧
          reached.docket.deployed = [] ∧ reached.docket.issued = true)
        outcome (dealing.contract.promising.after dealing.opening trace) ∧
      (dealing.prompt = true → 0 < fuel → outcome = .ok dealing.site.chain) := by
  obtain ⟨paired, _, pursued, _⟩ := (issue_run run).posts
  have keeps := issue_keeps fuel equipped
  -- Each reply is as promised, or it is about a challenge in doubt, of which there is none.
  have honest : dealing.contract.promising.Admits dealing.opening trace := by
    refine Program.Keeps.promising keeps run fun before event after split kept demanded => ?_
    have judged := World.chronicle_admits_iff.mp examining before event after split
    have asked := World.chronicle_admits_iff.mp pursued before event after split
    rw [List.nil_append] at judged asked
    subst split
    refine judged.resolve_left (not_doubtful same fitting (fun part rest split => ?_) ?_ asked demanded)
    · subst split
      rw [List.append_assoc] at paired admitted
      exact World.related Matches.step (show Matches documented solvers none start from ⟨idle, unused⟩)
        (World.admits_append.mp paired).1 (World.admits_append.mp admitted).1
    · exact World.related Alike.step (show Alike dealing.opening none from rfl) kept
        (World.admits_append.mp paired).1
  -- With that the issuance deals with an authority that keeps to the protocol.
  obtain ⟨_, ends⟩ := Program.Keeps.leads keeps run honest
  refine ⟨honest, ends, fun prompt turns => ?_⟩
  obtain ⟨chain, rfl, issued, _⟩ := ends.certain prompt turns
  rw [issued]

/-- A harness for the client of concrete dealings. -/
def dealingHarness : Harness Dns.MockDnsProvider :=
  { sampleHarness with lib := sampleDealing.lib }

/-- What is documented about it, without certificates, which its solver does not need. -/
def dealingDocumented : Documented dealingHarness :=
  { mockZone with
    Named := fun _ => True
    Shows := fun _ _ _ => True
    built := fun _ _ => trivial }

/-- A dealing with an authority that looks at its responder. -/
def examinedIssuance : History × Except Stop Bytes :=
  deal (issueCertificateWithTimeouts sampleDealing.lib 1 sampleDealing.request)

/-- The authority is honest in it. -/
theorem examinedIssuance_honest :
    sampleDealing.contract.promising.Admits sampleDealing.opening examinedIssuance.1 :=
  deal_honest (issue_keeps 1 sampleDealing_equipped)

/-- The responder goes along with it. -/
theorem examinedIssuance_admitted :
    (bench dealingHarness [.http01]).Admits (.fresh []) examinedIssuance.1 := by
  have run := issue_run (deal_ends
    (issueCertificateWithTimeouts sampleDealing.lib 1 sampleDealing.request))
  refine responder_admitted (fun ready => ?_) run.posts.paired examinedIssuance_honest
    fun solver identifier keyAuthorization reply member => ?_
  · simp [Bench.fresh]
  · -- There is one solver.
    have bound : solver < 1 := issuance_solver run member
    omega

/-- Nothing is served before it. -/
theorem dealingHarness_idle :
    (Bench.fresh [] : Bench dealingHarness).servers.Idle dealingDocumented :=
  ⟨fun _ => rfl, rfl, rfl⟩

/-- The authority keeps its promises about challenges too. -/
theorem examinedIssuance_examining :
    (World.chronicle (Examining dealingDocumented [.http01] sampleDealing (.fresh []))).Admits []
      examinedIssuance.1 := by
  rw [World.chronicle_admits_iff]
  intro before event after split
  have honest := examinedIssuance_honest
  rw [split] at honest
  -- Every reply of the run is as promised.
  exact .inr (World.admits_at honest)

/-- It gets its certificate. -/
theorem examinedIssuance_succeeds : examinedIssuance.2 = .ok sampleDealing.site.chain :=
  (examined_issuance_succeeds dealingDocumented sampleDealing_equipped rfl rfl dealingHarness_idle
    (fun _ => rfl) (deal_ends _) examinedIssuance_admitted examinedIssuance_examining).2.2 rfl
    (by decide)

end Acme.Testing
