import Acme.Proofs.Panics
import Acme.Proofs.Postings
import Acme.Proofs.ScriptedAuthority

/-! One handle at a time, over a whole issuance. -/

namespace Acme

open Interaction

variable {lib : Libraries} {account : Account} {trace : History}

/-- A quiet part is allowed, and changes nothing about the live handle. -/
theorem Quiet.handles (quiet : Quiet trace) (live : Option Handle) :
    Acme.handles.Admits live trace ∧ Acme.handles.after live trace = live := by
  induction trace with
  | nil => exact ⟨trivial, rfl⟩
  | cons event later ih =>
    have rest := ih fun other member => quiet other (.tail _ member)
    have silent := quiet event (.head _)
    obtain ⟨call, answer⟩ := event
    -- A quiet event is none of those that move a handle.
    cases call with
    | arm | selfCheck | dropReady => cases silent
    | _ => exact ⟨⟨trivial, rest.1⟩, rest.2⟩

/-- A handle that is alone stays live. -/
theorem Alone.handles {url : String} {ready : Handle} (alone : Alone url ready trace) :
    Acme.handles.Admits (some ready) trace ∧
      Acme.handles.after (some ready) trace = some ready := by
  have solvers := alone.solvers
  clear alone
  -- By induction on the trace, along which the handle stays the one that is held.
  induction trace with
  | nil => exact ⟨trivial, rfl⟩
  | cons event later ih =>
    have rest := ih fun other member => solvers other (.tail _ member)
    by_cases called : isSolver event = true
    · obtain ⟨reply, rfl⟩ := solvers event (.head _) called
      exact ⟨⟨rfl, rest.1⟩, rest.2⟩
    · -- Any other call is none of the handle's business.
      have single : Quiet [event] := by simpa [Quiet] using called
      obtain ⟨⟨allowed, _⟩, same⟩ := single.handles (some ready)
      rw [World.after_cons, World.after_nil] at same
      rw [World.admits_cons, World.after_cons, same]
      exact ⟨⟨allowed, rest.1⟩, rest.2⟩

/-- Fetching an authorization calls no solver. -/
theorem Fetch.quiet {key : AccountKey} {url : String} {fetched : Except Stop Authorization}
    (fetching : Fetch lib key url trace fetched) : Quiet trace := by
  cases fetching <;> assumption

/-- A session that starts without a handle leaves none, unless it is cut short. -/
theorem Session.handles {key : AccountKey} {solvers : List ChallengeKind} {url : String}
    {outcome : Except Stop Unit} (session : Session lib key solvers url trace outcome) :
    Acme.handles.Admits none trace ∧
      (outcome ≠ .error .unfinished → Acme.handles.after none trace = none) := by
  cases session with
  | unfetched fetching | valid fetching | unfit failure fetching =>
    -- Fetching the authorization moves no handle.
    obtain ⟨allowed, same⟩ := fetching.quiet.handles none
    exact ⟨allowed, fun _ => same⟩
  | refused failure fetching =>
    -- A refused attempt brings no handle into being.
    obtain ⟨allowed, same⟩ := fetching.quiet.handles none
    refine ⟨World.admits_append.mpr ⟨allowed, ?_⟩, fun _ => ?_⟩
    · rw [same]
      exact ⟨rfl, trivial⟩
    · rw [World.after_append, same]
      rfl
  | held fetching _ alone =>
    obtain ⟨allowed, same⟩ := fetching.quiet.handles none
    obtain ⟨used, kept⟩ := alone.handles
    -- The handle comes into being, is used, and is torn down.
    refine ⟨World.admits_append.mpr ⟨allowed, ?_⟩, fun _ => ?_⟩
    · rw [same]
      refine ⟨rfl, World.admits_append.mpr ⟨used, ?_⟩⟩
      show Acme.handles.Admits (Acme.handles.after (some _) _) _
      rw [kept]
      exact ⟨rfl, trivial⟩
    · rw [World.after_append, World.after_cons, World.after_append]
      rfl
  -- The run was cut short while the handle was held.
  | cut fetching _ alone =>
    obtain ⟨allowed, same⟩ := fetching.quiet.handles none
    refine ⟨World.admits_append.mpr ⟨allowed, ?_⟩, fun finished => absurd rfl finished⟩
    rw [same]
    exact ⟨rfl, alone.handles.1⟩

/-- Sessions in turn never have two handles live, and each starts without one. -/
theorem InTurn.handles {key : AccountKey} {solvers : List ChallengeKind} {urls : List String}
    {sessions : List History} {outcome : Except Stop Unit}
    (turns : InTurn (Session lib key solvers) urls sessions outcome) :
    Acme.handles.Admits none sessions.flatten ∧
      (outcome ≠ .error .unfinished → Acme.handles.after none sessions.flatten = none) ∧
      ∀ earlier session later, sessions = earlier ++ session :: later →
        Acme.handles.after none earlier.flatten = none := by
  -- By induction on the authorizations; each one starts when no handle is held.
  induction turns with
  | done => exact ⟨trivial, fun _ => rfl, by simp⟩
  | stopped failed =>
    obtain ⟨allowed, released⟩ := failed.handles
    refine ⟨by simpa using allowed, by simpa using released, ?_⟩
    intro earlier session later split
    -- There is no session but the one that failed.
    cases earlier with
    | nil => rfl
    | cons first earlier => simp at split
  -- A session that has succeeded leaves no handle for the next one.
  | next succeeded _ ih =>
    obtain ⟨allowed, released⟩ := succeeded.handles
    have empty := released (by simp)
    obtain ⟨others, last, between⟩ := ih
    refine ⟨World.admits_append.mpr ⟨allowed, by rwa [empty]⟩, fun finished => ?_, ?_⟩
    · rw [List.flatten_cons, World.after_append, empty]
      exact last finished
    · intro earlier session later split
      cases earlier with
      | nil => rfl
      | cons first earlier =>
        obtain ⟨rfl, tail⟩ := List.cons.inj split
        rw [List.flatten_cons, World.after_append, empty]
        exact between earlier session later tail

/-- How an issuance divides: what comes before, the authorizations reached, what comes after. -/
structure Divides (lib : Libraries) (request : IssueRequest) (setup : History)
    (sessions : List History) (closing : History) (outcome : Except Stop Bytes) : Prop where
  /-- No solver is called before the first authorization. -/
  before : Quiet setup
  /-- No solver is called after the last one. -/
  after : Quiet closing
  /-- No certificate request is posted before all authorizations are over. -/
  unsubmitted : ∀ event ∈ setup ++ sessions.flatten, csrOf event = none
  /-- When an authorization is reached, no handle is live. -/
  between : ∀ earlier session later, sessions = earlier ++ session :: later →
    handles.after none (setup ++ earlier.flatten) = none
  /-- Unless no order was placed, its authorizations are taken in turn, until one of them fails. -/
  turns : (sessions = [] ∧ closing = [] ∧ (∃ stop, outcome = .error stop) ∧
      ∀ order, ¬ Placed lib request setup order) ∨
    ∃ order verdict, Placed lib request setup order ∧
      InTurn (Session lib request.accountKey request.solvers) order.authorizations sessions
        verdict ∧
      ∀ stop, verdict = .error stop → closing = [] ∧ outcome = .error stop

/-- How the solvers and their handles are called in an issuance. -/
structure Orderly (lib : Libraries) (request : IssueRequest) (trace : History)
    (outcome : Except Stop Bytes) : Prop where
  /-- At most one handle is live at a time, and only a live one is used or torn down. -/
  paired : handles.Admits none trace
  /-- No handle is live when the function returns. -/
  released : outcome ≠ .error .unfinished → handles.after none trace = none
  /-- No handle is live when a certificate request is posted. -/
  submitted : ∀ before event after csrDer, trace = before ++ event :: after →
    csrOf event = some csrDer → handles.after none before = none
  /-- A handle is live when the authority is told to validate. -/
  live : ∀ before url kick reply after, trace = before ++ posted url kick reply :: after →
    Carries kick Challenge.kickPayload → ∃ ready, handles.after none before = some ready
  /-- From then on it stays live until it is due. -/
  kept : Kept lib request.challengeTimeout trace
  /-- Each authorization that is reached has its own session with the solvers. -/
  divided : ∃ setup sessions closing, trace = setup ++ sessions.flatten ++ closing ∧
    Divides lib request setup sessions closing outcome

/-- The live handle is that of the response that is up. -/
theorem handles_after (up : Option Posting) :
    handles.after (up.map Posting.ready) trace = (postings.after up trace).map Posting.ready := by
  induction trace generalizing up with
  | nil => rfl
  | cons event later ih =>
    rw [World.after_cons, World.after_cons, ← ih]
    obtain ⟨call, answer⟩ := event
    -- The two change with the same calls.
    cases call with
    | arm => cases answer <;> rfl
    | _ => rfl

/-- When the authority is told to validate a challenge in an issuance, a handle is live. -/
theorem IssueRun.live {request : IssueRequest} {outcome : Except Stop Bytes}
    (run : IssueRun lib request trace outcome) {before after : History} {url : String}
    {kick : Bytes} {reply : Except AcmeError HttpResponse}
    (split : trace = before ++ posted url kick reply :: after)
    (carries : Carries kick Challenge.kickPayload) :
    ∃ ready, handles.after none before = some ready := by
  have announced := World.chronicle_admits_iff.mp run.posts.announced before _ after split
  obtain ⟨_, _, _, _, _, ready, _, _, _, up⟩ := announced url kick reply rfl carries
  rw [List.nil_append] at up
  have live : handles.after none before = _ := handles_after none
  -- The response that is up belongs to the handle that is held.
  rw [up] at live
  exact ⟨ready, live⟩

/-- A setup that places no order, and fails, is orderly. -/
theorem Uninvolved.orderly {request : IssueRequest} {outcome : Except Stop Bytes} {stop : Stop}
    (uninvolved : Uninvolved trace) (unsubmitted : ∀ event ∈ trace, csrOf event = none)
    (unplaced : ∀ order, ¬ Placed lib request trace order) (failed : outcome = .error stop) :
    Orderly lib request trace outcome where
  paired := (uninvolved.quiet.handles none).1
  released _ := (uninvolved.quiet.handles none).2
  submitted := by
    -- Nothing was submitted.
    intro before event after csrDer split submits
    subst split
    rw [unsubmitted event (by simp)] at submits
    cases submits
  live before url kick reply after split carries :=
    absurd carries (uninvolved.sends.untold (split ▸ List.mem_append_right _ (.head _)))
  kept := uninvolved.sends.kept
  divided := by
    -- The whole trace belongs to the setup, and the run failed there.
    refine ⟨trace, [], [], by simp, uninvolved.quiet, quiet_nil, by simpa using unsubmitted,
      by simp, ?_⟩
    exact .inl ⟨rfl, rfl, ⟨stop, failed⟩, unplaced⟩

/-- Sessions in turn after a quiet setup, and then at most a quiet closing, are orderly. -/
theorem InTurn.orderly {request : IssueRequest} {order : Order} {setup closing : History}
    {sessions : List History} {verdict : Except Stop Unit} {outcome : Except Stop Bytes}
    (before : Quiet setup) (after : Quiet closing)
    (unsubmitted : ∀ event ∈ setup ++ sessions.flatten, csrOf event = none)
    (placed : Placed lib request setup order)
    (turns : InTurn (Session lib request.accountKey request.solvers) order.authorizations
      sessions verdict)
    (failing : ∀ stop, verdict = .error stop → closing = [] ∧ outcome = .error stop)
    (run : IssueRun lib request (setup ++ sessions.flatten ++ closing) outcome)
    (kept : Kept lib request.challengeTimeout (setup ++ sessions.flatten ++ closing)) :
    Orderly lib request (setup ++ sessions.flatten ++ closing) outcome := by
  obtain ⟨starts, empty⟩ := before.handles none
  obtain ⟨allowed, released, between⟩ := turns.handles
  -- The setup leaves no handle behind.
  have joined : ∀ part, Acme.handles.after none (setup ++ part) = Acme.handles.after none part := by
    intro part
    rw [World.after_append, empty]
  -- Setup and authorizations follow one another without a handle in between.
  have paired : Acme.handles.Admits none (setup ++ sessions.flatten) :=
    World.admits_append.mpr ⟨starts, by rwa [empty]⟩
  have silent := fun live => after.handles live
  refine
    { paired := World.admits_append.mpr ⟨paired, (silent _).1⟩
      released := fun finished => ?_
      submitted := ?_
      live := fun _ _ _ _ _ split carries => run.live split carries
      kept
      divided := ⟨setup, sessions, closing, rfl, before, after, unsubmitted, ?_,
        .inr ⟨order, verdict, placed, turns, failing⟩⟩ }
  · rw [World.after_append, (silent _).2, joined]
    -- The closing moves no handle, so what counts is that the authorizations have ended.
    refine released fun cut => ?_
    exact finished (failing _ cut).2
  · intro earlier event later csrDer split submits
    -- The certificate request is posted in the closing, so the authorizations have succeeded.
    obtain ⟨rest, rfl, rfl⟩ := split_second split fun member => by
      simp [unsubmitted _ member] at submits
    have silent_rest : Quiet rest := fun other member => after other (List.mem_append_left _ member)
    -- When they have succeeded, no handle is left.
    have none_left : Acme.handles.after none (setup ++ sessions.flatten) = none := by
      rw [joined]
      refine released fun cut => ?_
      have closed := (failing _ cut).1
      simp at closed
    rw [World.after_append, none_left, (silent_rest.handles none).2]
  · intro earlier session later split
    rw [joined]
    exact between earlier session later split

/-- An issuance is orderly exactly when its handles are kept until they are due. -/
theorem IssueRun.orderly_iff {request : IssueRequest} {outcome : Except Stop Bytes}
    (run : IssueRun lib request trace outcome) (pooled : Pooled trace) :
    Orderly lib request trace outcome ↔ Kept lib request.challengeTimeout trace := by
  refine ⟨fun orderly => orderly.kept, fun kept => ?_⟩
  -- The stages of a run: it ended early, in an authorization, or while closing the order.
  cases run.stages with
  | early uninvolved unsubmitted unplaced =>
    exact uninvolved.orderly unsubmitted unplaced rfl
  | @stopped setup sessions _ _ stop uninvolved unsubmitted placed owner failed =>
    -- The authorizations were handled in turn until one of them failed.
    have turns := failed.inTurn pooled.split.2
    rw [owner] at turns
    have orderly : Orderly lib request (setup ++ sessions.flatten ++ []) (.error stop) := by
      refine turns.orderly uninvolved.quiet quiet_nil unsubmitted placed ?_ (by simpa using run)
        (by simpa using kept)
      intro other same
      exact ⟨rfl, congrArg _ (Except.error.inj same)⟩
    simpa using orderly
  | closed uninvolved unsubmitted placed owner succeeded closed =>
    -- All authorizations were settled, and closing the order touches no handle.
    have turns := succeeded.inTurn pooled.split.1.split.2
    rw [owner] at turns
    exact turns.orderly uninvolved.quiet closed.uninvolved.quiet unsubmitted placed (by simp) run
      kept

/-- After an accepted word to validate and one reading of the clock, no handle is due. -/
theorem not_due_of_accepted {url : String} {timeout : Duration} {kick : Bytes}
    {answer : HttpResponse} {start : Instant} (nonces : List String)
    (carries : Carries kick Challenge.kickPayload) (accepted : answer.isSuccess = true) :
    ¬ Due lib url timeout (posted url kick (.ok answer) :: (pushes nonces ++ [clocked start])) := by
  -- The word to validate is not a question.
  have asked : ¬ Carries kick [] := fun nothing => nil_ne_kickPayload (nothing.unique carries)
  intro due
  cases due with
  | settled seen =>
    -- The only POST is the word to validate itself.
    obtain ⟨challenge, ⟨body, response, member, nothing, _⟩, _⟩ := seen
    simp [pushes] at member
    exact asked (member.1 ▸ nothing)
  | failed event member fails =>
    simp only [pushes, List.mem_cons, List.mem_append, List.mem_map, List.not_mem_nil,
      or_false] at member
    rcases member with rfl | ⟨nonce, _, rfl⟩ | rfl
    · -- That POST was successful, and nothing has to be parsed.
      rcases fails with refused | ⟨nothing, _⟩
      · simp [accepted] at refused
      · exact asked nothing
    · exact fails
    · exact fails
  | expired first time rest readings member =>
    -- There is no second reading.
    have single : clocks (posted url kick (.ok answer) :: (pushes nonces ++ [clocked start]))
        = [start] := by simp [clocks, pushes]
    rw [single] at readings
    obtain ⟨_, rfl⟩ := List.cons.inj readings
    cases member

/-- A successful request is a POST at the end, and the nonces of its answer. -/
theorem Asks.ends_ok {α : Type} {url : String} {payload : Bytes}
    {read : HttpResponse → Except AcmeError α} {value : α}
    (asks : Asks lib account url payload read trace (.ok value)) :
    ∃ before body answer, trace = before ++ posted url body (.ok answer) :: pushes answer.nonces ∧
      Carries body payload ∧ read answer = .ok value := by
  obtain ⟨exchanged, run, came⟩ := asks
  obtain ⟨answer, rfl, learned⟩ := bind_result_eq_ok.mp came.symm
  -- Only an exchange that was answered has an outcome of this kind.
  cases run with
  | answered answer obtained signed => exact ⟨_, _, answer, rfl, ⟨_, says_kid signed⟩, learned⟩

/-- An armed challenge that panics does not keep its handle until it is due. -/
theorem DriveRun.not_kept {url : String} {ready : Handle} {timeout pause : Duration}
    {outcome : Except Stop Unit} (run : DriveRun lib url account ready timeout pause trace outcome)
    (signs : CanSign lib account.key) (panicked : Panicked outcome) :
    ¬ Kept lib timeout trace := by
  cases run with
  | unseen failure => exact absurd panicked not_panicked_error
  | unkicked asked => exact absurd (panicked_error.mp panicked) (asked.calm signs)
  | polled asked representable polling =>
    -- No question panics, as each can be signed.
    exact absurd panicked (polling.calm fun question => (asks_run question).calm signs)
  | @endless trace start stop asked overflow =>
    obtain ⟨before, kick, answer, rfl, carries, accepted⟩ := asked.ends_ok
    intro kept
    -- Between the word to validate and the end of the handle, nothing ends its time.
    have due := kept (checked ready (.ok ()) :: before) url kick (.ok answer)
      (pushes answer.nonces ++ [clocked start]) ready [] (by simp) carries (by simp [pushes])
    exact not_due_of_accepted answer.nonces carries (HttpResponse.accepted_eq_ok.mp accepted) due

/-- An authorization that panics does not keep its handle until it is due. -/
theorem SessionRun.not_kept {solvers : List ChallengeKind} {timeout : Duration} {url : String}
    {outcome : Except Stop Unit} (run : SessionRun lib account solvers timeout url trace outcome)
    (signs : CanSign lib account.key) (panicked : Panicked outcome) :
    ¬ Kept lib timeout trace := by
  cases run with
  -- A panic can only come from the driver, as the key signs.
  | unfetched asked => exact absurd (panicked_error.mp panicked) (asked.calm signs)
  | valid => exact absurd panicked not_panicked_ok
  | unmatched | tokenless | unarmed => exact absurd panicked not_panicked_error
  | driven asked pending picked present driven =>
    intro kept
    rw [List.append_cons] at kept
    exact driven.not_kept signs panicked kept.last

/-- Of authorizations in turn, the last one is the one that panics. -/
theorem SessionsRun.not_kept {solvers : List ChallengeKind} {timeout : Duration}
    {urls : List String} {sessions : List History} {outcome : Except Stop Unit}
    (run : SessionsRun lib account solvers timeout urls sessions outcome)
    (signs : CanSign lib account.key) (panicked : Panicked outcome) :
    ¬ Kept lib timeout sessions.flatten := by
  -- By induction on the sessions, of which the last one has panicked.
  induction run with
  | done => exact absurd panicked not_panicked_ok
  | stopped failed => simpa using failed.not_kept signs panicked
  | next succeeded rest ih =>
    intro kept
    rw [List.flatten_cons] at kept
    exact ih panicked kept.last

/-- With a key that cannot sign, no challenge is ever to be validated. -/
theorem SessionsRun.untold {solvers : List ChallengeKind} {timeout : Duration}
    {urls : List String} {sessions : List History} {outcome : Except Stop Unit}
    (run : SessionsRun lib account solvers timeout urls sessions outcome)
    (mute : CannotSign lib account.key) :
    Sends (fun _ payload => payload ≠ Challenge.kickPayload) sessions.flatten := by
  -- Not even the first authorization can be asked for.
  have failing : ∀ {url trace outcome},
      SessionRun lib account solvers timeout url trace outcome →
      Sends (fun _ payload => payload ≠ Challenge.kickPayload) trace ∧ outcome ≠ .ok () := by
    intro url trace outcome run
    cases run with
    | unfetched asked => exact ⟨(asked.uninvolved nil_ne_kickPayload).sends, by simp⟩
    | valid asked | unmatched asked | tokenless asked | unarmed failure asked | driven asked =>
      exact absurd rfl ((asked.mute mute).1 _)
  cases run with
  | done => exact sends_nil
  -- So the first session is the last one.
  | stopped failed => simpa using (failing failed).1
  | next succeeded => exact absurd rfl (failing succeeded).2

/-- A round is a POST of the run. -/
theorem mem_of_mem_rounds {round : Round} (member : round ∈ rounds trace) :
    posted round.url round.body round.answer ∈ trace := by
  induction trace with
  | nil => cases member
  | cons event later ih =>
    obtain ⟨call, answer⟩ := event
    cases call with
    | postJose url body =>
      -- The POST starts a round, and the others come later.
      rcases List.mem_cons.mp member with rfl | member
      · exact .head _
      · exact .tail _ (ih member)
    | _ => exact .tail _ (ih member)

/-- Where the authority is not told to validate anything, no challenge starts its time. -/
theorem Sends.fits {timeout : Duration}
    (sends : Sends (fun _ payload => payload ≠ Challenge.kickPayload) trace) :
    Fits lib (Challenge.grants timeout) trace := by
  intro round member payload time carries granted
  exact absurd (granted.1 ▸ carries) (sends.untold (mem_of_mem_rounds member))

/-- Only the authorizations start the time of challenges. -/
theorem fits_middle {timeout : Duration} {earlier later : History}
    (before : Sends (fun _ payload => payload ≠ Challenge.kickPayload) earlier)
    (after : Sends (fun _ payload => payload ≠ Challenge.kickPayload) later)
    (closed : (divide trace).1 = []) (last : (divide later).1 = []) :
    Fits lib (Challenge.grants timeout) (earlier ++ trace ++ later) ↔
      Fits lib (Challenge.grants timeout) trace := by
  -- Each part has its own rounds, as no reading of the clock belongs to a round before the part.
  have whole : rounds (earlier ++ trace ++ later) = rounds earlier ++ rounds trace ++ rounds later := by
    rw [rounds, divide_append_closed last, rounds, divide_append_closed closed]
  rw [Fits, whole, List.forall_mem_append, List.forall_mem_append]
  exact ⟨fun all => all.1.2, fun fits => ⟨⟨before.fits, fits⟩, after.fits⟩⟩

/-- Handles are kept in authorizations exactly when each of their challenges can have its time. -/
theorem SessionsRun.kept_iff {solvers : List ChallengeKind} {timeout : Duration}
    {urls : List String} {sessions : List History} {outcome : Except Stop Unit}
    (run : SessionsRun lib account solvers timeout urls sessions outcome)
    (signs : CanSign lib account.key) (pooled : Pooled sessions.flatten) :
    (divide sessions.flatten).1 = [] ∧
      (Kept lib timeout sessions.flatten ↔
        Fits lib (Challenge.grants timeout) sessions.flatten) := by
  -- The sessions panic exactly when a deadline does not fit.
  have timed : Timed lib (Challenge.grants timeout) sessions.flatten outcome :=
    SessionsRun.timed signs (by simp [Challenge.grants])
      (fun _ granted => nil_ne_kickPayload granted.1) run
  refine ⟨timed.closed, ?_⟩
  rw [← timed.panics]
  constructor
  · exact fun kept panicked => run.not_kept signs panicked kept
  · exact fun calm => (run.kept pooled fun message panicked => calm ⟨message, panicked⟩).1

/-- In an issuance, handles are kept exactly when each challenge can have its time. -/
theorem IssueRun.kept_iff {request : IssueRequest} {outcome : Except Stop Bytes}
    (run : IssueRun lib request trace outcome) (pooled : Pooled trace)
    (steady : Steady lib request.accountKey) :
    Kept lib request.challengeTimeout trace ↔
      Fits lib (Challenge.grants request.challengeTimeout) trace := by
  -- Where the authority is told nothing, both hold.
  have idle : ∀ {trace}, Sends (fun _ payload => payload ≠ Challenge.kickPayload) trace →
      (Kept lib request.challengeTimeout trace ↔
        Fits lib (Challenge.grants request.challengeTimeout) trace) := fun sends =>
    iff_of_true sends.kept sends.fits
  -- Between such parts, the authorizations decide.
  have between : ∀ {earlier sessions later : History}, Uninvolved earlier → Uninvolved later →
      (divide later).1 = [] → Sealed sessions ∨ later = [] →
      (divide sessions).1 = [] ∧ (Kept lib request.challengeTimeout sessions ↔
        Fits lib (Challenge.grants request.challengeTimeout) sessions) →
      (Kept lib request.challengeTimeout (earlier ++ sessions ++ later) ↔
        Fits lib (Challenge.grants request.challengeTimeout) (earlier ++ sessions ++ later)) := by
    intro earlier sessions later before after last ends decided
    rw [fits_middle before.sends after.sends decided.1 last, ← decided.2]
    refine ⟨Kept.part, fun kept => ?_⟩
    have first := before.sends.kept.append before.sends.closed kept
    rcases ends with sealed | rfl
    · exact first.append (before.sends.closed.append sealed) after.sends.kept
    · simpa using first
  cases run.stages with
  | early uninvolved => exact idle uninvolved.sends
  -- The sessions are all that matters, if the key can sign at all.
  | stopped uninvolved _ _ owner failed =>
    rcases steady with signs | mute
    · have decided := failed.kept_iff (owner ▸ signs) pooled.split.2
      simpa using between uninvolved uninvolved_nil rfl (.inr rfl) decided
    · exact idle (uninvolved.sends.append (failed.untold (owner ▸ mute)))
  -- What follows the sessions tells the authority nothing more.
  | closed uninvolved _ _ owner succeeded closed =>
    rcases steady with signs | mute
    · have timed : Timed lib (request.grants lib) _ _ :=
        closed.timed (owner ▸ signs) (fun _ _ => grants_csr) fun _ => grants_nothing
      have decided := succeeded.kept_iff (owner ▸ signs) pooled.split.1.split.2
      have ended := (succeeded.kept pooled.split.1.split.2 (by simp)).2 (by simp)
      exact between uninvolved closed.uninvolved timed.closed (.inl ended) decided
    · exact idle ((uninvolved.sends.append (succeeded.untold (owner ▸ mute))).append
        closed.uninvolved.sends)

/--
Whatever the authority and the solvers answer, handles come one at a time, and each is torn down
once: before the next authorization is fetched, before the certificate request is posted, and
before the function returns.
An authorization that is reached is armed once when it is open and a solver fits one of its
challenges that has a token, and otherwise not at all.
A handle is live when the authority is told to validate, and it stays live until its challenge
was seen settled, a request has failed or the deadline has passed.
All of that holds exactly when the deadlines of the challenges can be represented: without one,
the client panics and lets go of a handle that the authority may still need.
-/
theorem issuance_orderly {lib : Libraries} {fuel : Nat} {request : IssueRequest} {trace : History}
    {outcome : Except Stop Bytes}
    (run : (issueCertificateWithTimeouts lib fuel request).Ends trace outcome)
    (shared : pool.Admits [] trace) (steady : Steady lib request.accountKey) :
    Orderly lib request trace outcome ↔
      Fits lib (Challenge.grants request.challengeTimeout) trace := by
  have pooled : Pooled trace := ⟨[], shared⟩
  exact ((issue_run run).orderly_iff pooled).trans ((issue_run run).kept_iff pooled steady)

/-- A caller that sets no limit to the polls of a challenge. -/
def hastyRequest : IssueRequest := { sampleRequest with challengeTimeout := Duration.max }

/-- Its issuance. -/
def hastyRun : History × Except Stop Bytes :=
  play issueScript (issueCertificateWithTimeouts sampleLibraries 2 hastyRequest)

/-- The word to validate in that issuance. -/
def hastyKick : Bytes := sampleBody "ca/chall/1" Challenge.kickPayload "n3"

set_option maxRecDepth 100000 in
/-- What happens there from the word to validate on. -/
theorem hastyRun_last : hastyRun.1.drop 17 =
    posted "ca/chall/1" hastyKick (answering 200 "n4" [] "") ::
      (pushes ["n4"] ++ [clocked 0] ++ [dropped 1]) := by
  with_unfolding_all rfl

/-- The deadline of that issuance cannot be represented, so its handle is torn down by a panic. -/
theorem handle_dropped_by_panic :
    (issueCertificateWithTimeouts sampleLibraries 2 hastyRequest).Ends hastyRun.1 hastyRun.2 ∧
      pool.Admits [] hastyRun.1 ∧ Steady sampleLibraries hastyRequest.accountKey ∧
      ¬ Orderly sampleLibraries hastyRequest hastyRun.1 hastyRun.2 := by
  refine ⟨play_ends _ _, play_shared issueScript _, .inl (by simp [CanSign, sampleLibraries]),
    fun orderly => ?_⟩
  have carries : Carries hastyKick Challenge.kickPayload :=
    ⟨_, says_kid (sampleBody_signed "ca/chall/1" Challenge.kickPayload "n3")⟩
  -- The word to validate was accepted, and then only the clock was read.
  have split := (List.take_append_drop 17 hastyRun.1).symm
  rw [hastyRun_last] at split
  have due := orderly.kept _ _ _ _ _ 1 [] split carries (by simp [pushes])
  exact not_due_of_accepted ["n4"] carries (by decide) due

/-- The deadline of an ordinary issuance can be represented, and it leaves no handle behind. -/
theorem issuance_orderly_sample :
    Fits sampleLibraries (Challenge.grants sampleRequest.challengeTimeout) sampleIssuance.1 ∧
      handles.after none sampleIssuance.1 = none ∧
      Orderly sampleLibraries sampleRequest sampleIssuance.1 sampleIssuance.2 := by
  -- Each reading of the clock is at its beginning.
  have fits : Fits sampleLibraries (Challenge.grants sampleRequest.challengeTimeout)
      sampleIssuance.1 := by
    intro round member payload time carries granted start reading
    have early : ∀ round ∈ rounds sampleIssuance.1, ∀ start ∈ round.readings, start = 0 := by
      decide +kernel
    rw [early round member start reading, granted.2]
    decide
  exact ⟨fits, by decide +kernel, (issuance_orderly sampleIssuance_ends sampleIssuance_shared
    (.inl (by simp [CanSign, sampleLibraries]))).mpr fits⟩

end Acme
