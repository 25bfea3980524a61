import Acme.Interaction.Safety
import Acme.Proofs.Handles
import Acme.Proofs.Stages

/-! Which response is provisioned when the authority is told to validate a challenge. -/

namespace Acme

open Interaction

/-- A response that a solver has provisioned. -/
structure Posting where
  ready : Handle
  solver : Nat
  identifier : Identifier
  keyAuthorization : String
deriving DecidableEq

/-- The response that is up, if any: it must be none for the next to come, and only it is used. -/
def postings : World calls (Option Posting) where
  Allows up event := match event with
    | ⟨.arm _ _ _, _⟩ => up = none
    | ⟨.selfCheck ready, _⟩ => up.map Posting.ready = some ready
    | ⟨.dropReady ready, _⟩ => up.map Posting.ready = some ready
    | _ => True
  next up event := match event with
    | ⟨.arm solver identifier keyAuthorization, .ok ready⟩ =>
      some ⟨ready, solver, identifier, keyAuthorization⟩
    | ⟨.dropReady _, _⟩ => none
    | _ => up

/-- When the authority is told to validate a challenge, the response to it is up. -/
def Announced (lib : Libraries) (solvers : List ChallengeKind) (key : AccountKey)
    (history : History) (event : Event calls) : Prop :=
  ∀ url body reply, event = posted url body reply → Carries body Challenge.kickPayload →
    ∃ authzUrl authz solver challenge token ready,
      Saw (Authorization.read lib) history authzUrl authz ∧
      Arms lib solvers authz solver challenge token ∧ challenge.url = url ∧
      postings.after none history = some
        ⟨ready, solver, authz.identifier, computeKeyAuthorization lib token key⟩

/-- Since the authority was told to validate a challenge, a response has been up. -/
def Upheld (posting : Posting) (url : String) (history : History) : Prop :=
  ∃ earlier kick reply since, history = earlier ++ posted url kick reply :: since ∧
    Carries kick Challenge.kickPayload ∧ ∀ between rest, since = between ++ rest →
      postings.after none (earlier ++ posted url kick reply :: between) = some posting

/--
When the authority is asked for something while a response is up, it was told to validate what
it is asked about, and the response has been up since.
-/
def Pursued (history : History) (event : Event calls) : Prop :=
  ∀ url body reply, event = posted url body reply → Carries body [] →
    ∀ posting, postings.after none history = some posting → Upheld posting url history

variable {lib : Libraries} {account : Account} {trace : History}

/-- What is not posted needs no response to be up. -/
theorem announced_aside {solvers : List ChallengeKind} {key : AccountKey} {history : History}
    {event : Event calls} (aside : isPost event = false) :
    Announced lib solvers key history event := by
  intro url body reply same
  subst same
  -- Only a POST can tell the authority to validate.
  cases aside

/-- What is not posted asks for nothing. -/
theorem pursued_aside {history : History} {event : Event calls} (aside : isPost event = false) :
    Pursued history event := by
  intro url body reply same
  subst same
  -- Only a POST can ask about a challenge.
  cases aside

/-- A quiet part leaves the responses alone. -/
theorem Quiet.postings (quiet : Quiet trace) (up : Option Posting) :
    Acme.postings.Admits up trace ∧ Acme.postings.after up trace = up := by
  induction trace with
  | nil => exact ⟨trivial, rfl⟩
  | cons event later ih =>
    have rest := ih fun other member => quiet other (.tail _ member)
    have silent := quiet event (.head _)
    obtain ⟨call, answer⟩ := event
    -- A quiet event neither provisions a response nor takes one down.
    cases call with
    | arm | selfCheck | dropReady => cases silent
    | _ => exact ⟨⟨trivial, rest.1⟩, rest.2⟩

/-- While no response is up, anything may be asked for. -/
theorem Quiet.pursued {history : History} (quiet : Quiet trace)
    (idle : Acme.postings.after none history = none) :
    (World.chronicle Pursued).Admits history trace := by
  rw [World.chronicle_admits_iff]
  intro before event after split url body reply _ _ posting up
  subst split
  -- Before each call nothing was armed, so that nothing is up.
  have first : Quiet before := fun other member => quiet other (List.mem_append_left _ member)
  rw [World.after_append, idle, (first.postings none).2] at up
  cases up

/-- A part that tells the authority nothing needs no response to be up. -/
theorem Sends.announced {solvers : List ChallengeKind} {key : AccountKey}
    (sends : Sends (fun _ payload => payload ≠ Challenge.kickPayload) trace) (history : History) :
    (World.chronicle (Announced lib solvers key)).Admits history trace := by
  rw [World.chronicle_admits_iff]
  intro before event after split url body reply same carries
  subst split same
  -- What the body carries is something else.
  obtain ⟨payload, states, other⟩ := sends url body reply (by simp)
  exact absurd (states.unique carries) other

/-- While only its handle is called, a response stays up. -/
theorem Alone.postings {url : String} (posting : Posting) (alone : Alone url posting.ready trace) :
    Acme.postings.Admits (some posting) trace ∧
      Acme.postings.after (some posting) trace = some posting := by
  have solvers := alone.solvers
  clear alone
  -- By induction on the trace, along which the response stays up.
  induction trace with
  | nil => exact ⟨trivial, rfl⟩
  | cons event later ih =>
    have rest := ih fun other member => solvers other (.tail _ member)
    by_cases called : isSolver event = true
    · obtain ⟨reply, rfl⟩ := solvers event (.head _) called
      exact ⟨⟨rfl, rest.1⟩, rest.2⟩
    · -- Any other call is none of the handle's business.
      have single : Quiet [event] := by simpa [Quiet] using called
      obtain ⟨⟨allowed, _⟩, same⟩ := single.postings (some posting)
      rw [World.after_cons, World.after_nil] at same
      rw [World.admits_cons, World.after_cons, same]
      exact ⟨⟨allowed, rest.1⟩, rest.2⟩

/-- The beginning of a part in which a handle is alone is such a part. -/
theorem Alone.before {url : String} {ready : Handle} {later : History}
    (alone : Alone url ready (trace ++ later)) : Alone url ready trace where
  solvers event member := alone.solvers event (List.mem_append_left _ member)
  sends target body reply member := alone.sends target body reply (List.mem_append_left _ member)

/-- While a response is up, the authority may be told to validate its challenge. -/
theorem Alone.announced {solvers : List ChallengeKind} {key : AccountKey} {authzUrl : String}
    {authz : Authorization} {solver : Nat} {challenge : Challenge} {token : String}
    {ready : Handle} {history : History} (alone : Alone challenge.url ready trace)
    (saw : Saw (Authorization.read lib) history authzUrl authz)
    (arms : Arms lib solvers authz solver challenge token)
    (up : Acme.postings.after none history = some
      ⟨ready, solver, authz.identifier, computeKeyAuthorization lib token key⟩) :
    (World.chronicle (Announced lib solvers key)).Admits history trace := by
  rw [World.chronicle_admits_iff]
  intro before event after split url body reply same _
  subst split same
  obtain ⟨_, _, target, _⟩ := alone.sends url body reply (by simp)
  -- Up to the POST, only the handle was called.
  let posting : Posting := ⟨ready, solver, authz.identifier, computeKeyAuthorization lib token key⟩
  have kept := (Alone.postings posting alone.before).2
  refine ⟨authzUrl, authz, solver, challenge, token, ready,
    saw.mono fun _ member => List.mem_append_left _ member, arms, target.symm, ?_⟩
  rw [World.after_append, up, kept]

/-- What is asked for is not in a part that tells the authority to validate. -/
theorem Asks.kicks {α : Type} {url target : String} {body : Bytes}
    {read : HttpResponse → Except AcmeError α} {outcome : Except Stop α}
    {reply : Except AcmeError HttpResponse}
    (asks : Asks lib account url Challenge.kickPayload read trace outcome)
    (carries : Carries body []) : posted target body reply ∉ trace := by
  intro member
  -- A question about something carries its own payload, which is not this one.
  obtain ⟨payload, states, _, rfl⟩ := asks.sends target body reply member
  exact absurd (carries.unique states) (by decide)

/-- What is in the first part comes before everything that is not. -/
theorem mem_before {first second before after : History} {event other : Event calls}
    (split : first ++ second = before ++ event :: after) (later : event ∉ first)
    (member : other ∈ first) : other ∈ before := by
  -- The event stands in the second list, or the first one would contain it.
  rcases List.append_eq_append_iff.mp split with ⟨middle, rfl, _⟩ | ⟨middle, rfl, rest⟩
  · exact List.mem_append_left _ member
  · cases middle with
    | nil => simpa using member
    | cons head middle =>
      obtain ⟨rfl, _⟩ := List.cons.inj rest
      exact absurd (List.mem_append_right _ (.head _)) later

/-- When the authority is asked about a challenge, it was told to validate it before. -/
theorem DriveRun.kicked {url target : String} {ready : Handle} {timeout pause : Duration}
    {outcome : Except Stop Unit} {before after : History} {body : Bytes}
    {reply : Except AcmeError HttpResponse}
    (run : DriveRun lib url account ready timeout pause trace outcome)
    (split : trace = before ++ posted target body reply :: after) (carries : Carries body []) :
    ∃ kick answer, posted url kick answer ∈ before ∧ Carries kick Challenge.kickPayload := by
  have member : posted target body reply ∈ trace := split ▸ List.mem_append_right _ (.head _)
  cases run with
  | unseen failure => simp at member
  | unkicked asked | endless asked => simp [asked.kicks carries] at member
  | @polled kicking later start _ _ asked _ polling =>
    -- The question is not in the first part, so all of that comes before it.
    obtain ⟨kick, answer, only, states, _⟩ := asked.posts_ok
    have kicked : posted url kick (.ok answer) ∈ posts kicking := only ▸ .head _
    rw [← List.cons_append] at split
    exact ⟨kick, .ok answer, mem_before split (by simp [asked.kicks carries])
      (.tail _ (List.mem_filter.mp kicked).1), states⟩

/-- Up to a POST in it, a handle is alone in all of an armed challenge. -/
theorem DriveRun.alone_before {url target : String} {ready : Handle} {timeout pause : Duration}
    {outcome : Except Stop Unit} {before after : History} {body : Bytes}
    {reply : Except AcmeError HttpResponse}
    (run : DriveRun lib url account ready timeout pause trace outcome)
    (split : trace = before ++ posted target body reply :: after) :
    ∃ more, Alone url ready (before ++ posted target body reply :: more) := by
  subst split
  rcases run.alone with ⟨first, whole, alone⟩ | ⟨_, alone⟩
  · -- The handle is let go at the end, and so after the POST.
    rcases List.eq_nil_or_concat after with rfl | ⟨more, last, rfl⟩
    · have same := (List.append_inj' whole rfl).2
      cases same
    · rw [List.concat_eq_append, ← List.cons_append, ← List.append_assoc] at whole
      exact ⟨more, (List.append_inj' whole rfl).1 ▸ alone⟩
  · exact ⟨after, alone⟩

/-- The authority is asked about an armed challenge when it was told to validate it. -/
theorem DriveRun.pursued {url : String} {posting : Posting} {timeout pause : Duration}
    {outcome : Except Stop Unit} {history : History}
    (run : DriveRun lib url account posting.ready timeout pause trace outcome)
    (up : Acme.postings.after none history = some posting) :
    (World.chronicle Pursued).Admits history trace := by
  rw [World.chronicle_admits_iff]
  intro before event after split target body reply same carries found held
  subst same
  -- Up to the question the driver has only checked its own handle.
  obtain ⟨more, alone⟩ := run.alone_before split
  -- As long as the run goes on, its response is up.
  have stays : ∀ {part rest}, before = part ++ rest →
      Acme.postings.after none (history ++ part) = some posting := by
    intro part rest same
    rw [same, List.append_assoc] at alone
    rw [World.after_append, up, (Alone.postings posting alone.before).2]
  obtain rfl : posting = found := Option.some.inj ((stays (List.append_nil before).symm).symm.trans held)
  obtain ⟨_, _, rfl, _⟩ := alone.sends target body reply (by simp)
  -- The response stays up from the word to validate to the question.
  obtain ⟨kick, answer, member, states⟩ := run.kicked split carries
  obtain ⟨earlier, since, rfl⟩ := List.append_of_mem member
  refine ⟨history ++ earlier, kick, answer, since, by simp, states, fun between rest same => ?_⟩
  subst same
  rw [List.append_assoc]
  exact stays (show _ = (earlier ++ _ :: between) ++ rest by simp)

/-- How the responses go in a part of a run: it starts without one, and tells about it when up. -/
structure Posts (lib : Libraries) (solvers : List ChallengeKind) (key : AccountKey)
    (history trace : History) (cut : Prop) : Prop where
  paired : postings.Admits none trace
  announced : (World.chronicle (Announced lib solvers key)).Admits history trace
  pursued : (World.chronicle Pursued).Admits history trace
  /-- It leaves none behind, unless it is cut short. -/
  released : ¬ cut → postings.after none trace = none

/-- A part in which nothing is provisioned goes like that. -/
theorem Uninvolved.posts {solvers : List ChallengeKind} {key : AccountKey} {cut : Prop}
    {history : History} (uninvolved : Uninvolved trace)
    (idle : postings.after none history = none) : Posts lib solvers key history trace cut where
  -- Without a call to a solver and without a word to validate, all four hold.
  paired := (uninvolved.quiet.postings none).1
  announced := uninvolved.sends.announced history
  pursued := uninvolved.quiet.pursued idle
  released _ := (uninvolved.quiet.postings none).2

/-- Two such parts make one, when the first is not cut short. -/
theorem Posts.append {solvers : List ChallengeKind} {key : AccountKey} {history later : History}
    {cut : Prop} (first : Posts lib solvers key history trace False)
    (second : Posts lib solvers key (history ++ trace) later cut) :
    Posts lib solvers key history (trace ++ later) cut := by
  -- The first part leaves nothing up, so that the second starts as it should.
  have between := first.released id
  constructor
  · exact World.admits_append.mpr ⟨first.paired, by rw [between]; exact second.paired⟩
  · refine World.admits_append.mpr ⟨first.announced, ?_⟩
    rw [World.after_chronicle]
    exact second.announced
  · refine World.admits_append.mpr ⟨first.pursued, ?_⟩
    rw [World.after_chronicle]
    exact second.pursued
  · intro whole
    rw [World.after_append, between]
    exact second.released whole

/-- An authorization goes like that when nothing is up before. -/
theorem SessionRun.posts {solvers : List ChallengeKind} {timeout : Duration} {url : String}
    {outcome : Except Stop Unit} {history : History}
    (run : SessionRun lib account solvers timeout url trace outcome)
    (idle : postings.after none history = none) :
    Posts lib solvers account.key history trace (outcome = .error .unfinished) := by
  cases run with
  -- These ask for the authorization only.
  | unfetched asked | valid asked | unmatched asked | tokenless asked =>
    exact (asked.uninvolved nil_ne_kickPayload).posts idle
  | @unarmed fetch authz solver _ token failure asked =>
    refine (asked.uninvolved nil_ne_kickPayload).posts idle |>.append ?_
    -- The solver provisioned nothing.
    exact ⟨⟨rfl, trivial⟩, ⟨announced_aside rfl, trivial⟩, ⟨pursued_aside rfl, trivial⟩, fun _ => rfl⟩
  | @driven fetch later authz solver challenge token ready _ asked pending picked present driven =>
    refine (asked.uninvolved nil_ne_kickPayload).posts idle |>.append ?_
    have quiet := Reads.quiet asked
    -- Nothing was armed while the authorization was fetched.
    have silent : postings.after none (history ++ fetch) = none := by
      rw [World.after_append, idle, (quiet.postings none).2]
    let posting : Posting :=
      ⟨ready, solver, authz.identifier, computeKeyAuthorization lib token account.key⟩
    let arming := armed solver authz.identifier (computeKeyAuthorization lib token account.key)
      (.ok ready)
    -- From the arming on, the response is up.
    have up : postings.after none (history ++ fetch ++ [arming]) = some posting := by
      rw [World.after_append, silent]
      rfl
    -- The authorization is one that the session has fetched.
    have saw : Saw (Authorization.read lib) (history ++ fetch ++ [arming]) url authz :=
      asked.saw.mono fun _ member => by simp [member]
    -- What the driver tells the authority is for the challenge that was picked.
    have tell : ∀ {body}, Alone challenge.url ready body →
        (World.chronicle (Announced lib solvers account.key)).Admits (history ++ fetch)
          (arming :: body) := fun alone =>
      ⟨announced_aside rfl, alone.announced saw ⟨pending, picked, present⟩ up⟩
    -- Its questions are asked while the response is up.
    have pursued : (World.chronicle Pursued).Admits (history ++ fetch) (arming :: later) :=
      ⟨pursued_aside rfl, DriveRun.pursued (show DriveRun _ _ _ posting.ready _ _ _ _ from driven)
        up⟩
    -- The driver has dropped the handle, or the run was cut short before that.
    rcases driven.alone with ⟨body, rfl, alone⟩ | ⟨rfl, alone⟩
    · obtain ⟨used, kept⟩ := Alone.postings posting alone
      constructor
      · refine ⟨rfl, World.admits_append.mpr ⟨used, ?_⟩⟩
        show postings.Admits (postings.after (some posting) body) _
        rw [kept]
        exact ⟨rfl, trivial⟩
      · rw [← List.cons_append]
        exact World.admits_append.mpr ⟨tell alone, announced_aside rfl, trivial⟩
      · exact pursued
      · intro _
        rw [World.after_cons, World.after_append]
        rfl
    · exact ⟨⟨rfl, (Alone.postings posting alone).1⟩, tell alone, pursued,
        fun whole => absurd rfl whole⟩

/-- Authorizations in turn go like that. -/
theorem SessionsRun.posts {solvers : List ChallengeKind} {timeout : Duration}
    {urls : List String} {sessions : List History} {outcome : Except Stop Unit}
    {history : History} (run : SessionsRun lib account solvers timeout urls sessions outcome)
    (idle : postings.after none history = none) :
    Posts lib solvers account.key history sessions.flatten (outcome = .error .unfinished) := by
  -- By induction on the authorizations; each one leaves nothing up for the next.
  induction run generalizing history with
  | done => exact uninvolved_nil.posts idle
  | stopped failed => simpa using failed.posts idle
  | next succeeded _ ih =>
    obtain ⟨paired, announced, pursued, released⟩ := succeeded.posts idle
    have first : Posts lib solvers account.key history _ False :=
      ⟨paired, announced, pursued, fun _ => released (by simp)⟩
    refine first.append (ih ?_)
    rw [World.after_append, idle]
    exact released (by simp)

/--
An issuance starts without a response, and the authority is told about those that are up, and
asked about them when it was told.
-/
theorem IssueRun.posts {request : IssueRequest} {outcome : Except Stop Bytes}
    (run : IssueRun lib request trace outcome) :
    Posts lib request.solvers request.accountKey [] trace (outcome = .error .unfinished) := by
  have authorizing : ∀ {setup : History} {account : Account} {order : Order}
      {sessions : List History} {verdict : Except Stop Unit},
      Uninvolved setup → account.key = request.accountKey →
      SessionsRun lib account request.solvers request.challengeTimeout order.authorizations
        sessions verdict →
      Posts lib request.solvers request.accountKey [] (setup ++ sessions.flatten)
        (verdict = .error .unfinished) := by
    intro setup account order sessions verdict before owner run
    -- Before the authorizations nothing is up.
    have idle : postings.after none ([] ++ setup) = none := (before.quiet.postings none).2
    have sessions := run.posts idle
    rw [owner] at sessions
    exact (before.posts rfl).append sessions
  -- Only the authorizations provision anything.
  cases run.stages with
  -- It has not come to the authorizations.
  | early uninvolved => exact uninvolved.posts rfl
  -- An authorization has failed, and nothing follows.
  | stopped uninvolved _ _ owner failed =>
    obtain ⟨paired, announced, pursued, released⟩ := authorizing uninvolved owner failed
    exact ⟨paired, announced, pursued, fun whole => released fun cut => whole
      (by rw [Except.error.inj cut])⟩
  -- All have succeeded, and nothing of theirs is left up.
  | closed uninvolved _ _ owner succeeded closed =>
    obtain ⟨paired, announced, pursued, released⟩ := authorizing uninvolved owner succeeded
    have opened : Posts lib request.solvers request.accountKey [] _ False :=
      ⟨paired, announced, pursued, fun _ => released (by simp)⟩
    exact opened.append (closed.uninvolved.posts (by simpa using opened.released id))

/-- Even while it has not ended, an issuance has at most one response up, and tells only of it. -/
theorem issuance_posts {lib : Libraries} {fuel : Nat} {request : IssueRequest} {trace : History}
    {rest : Program calls (Except Stop Bytes)}
    (leads : (issueCertificateWithTimeouts lib fuel request).run.Leads trace rest) :
    postings.Admits none trace ∧
      (World.chronicle (Announced lib request.solvers request.accountKey)).Admits [] trace := by
  -- What holds of every run holds wherever a run stands, as each call can be answered.
  have paired : Fallible.Safe postings none (issueCertificateWithTimeouts lib fuel request)
      fun _ _ => True :=
    Fallible.safe_of_ends answerable fun _ _ ended => ⟨(issue_run ended).posts.paired, trivial⟩
  have announced : Fallible.Safe
      (World.chronicle (Announced lib request.solvers request.accountKey)) []
      (issueCertificateWithTimeouts lib fuel request) fun _ _ => True :=
    Fallible.safe_of_ends answerable fun _ _ ended => ⟨(issue_run ended).posts.announced, trivial⟩
  exact ⟨(Program.Safe.leads paired leads).1, (Program.Safe.leads announced leads).1⟩

end Acme
