import Acme.Proofs.Authorized
import Acme.Proofs.PoolLedger
import Acme.Proofs.Quiet

/-! The handles of armed challenges: one at a time, each kept until its challenge is over. -/

namespace Acme

open Interaction

/-- The live handle, if any: it must be none for the next to come, and only it is used. -/
def handles : World calls (Option Handle) where
  Allows live event := match event with
    | ⟨.arm _ _ _, _⟩ => live = none
    | ⟨.selfCheck ready, _⟩ => live = some ready
    | ⟨.dropReady ready, _⟩ => live = some ready
    | _ => True
  next live event := match event with
    | ⟨.arm _ _ _, .ok ready⟩ => some ready
    | ⟨.dropReady _, _⟩ => none
    | _ => live

/-- The readings of the clock in a history. -/
def clocks (history : History) : List Instant :=
  history.filterMap fun event => match event with
    | ⟨.now, time⟩ => some time
    | _ => none

/-- A request that failed, or whose response cannot be used. -/
def Fails (lib : Libraries) : Event calls → Prop
  | ⟨.head _, .error _⟩ | ⟨.postJose _ _, .error _⟩ => True
  | ⟨.head _, .ok answer⟩ => answer.isSuccess = false ∨ answer.nonces = []
  | ⟨.postJose _ body, .ok answer⟩ => answer.isSuccess = false ∨
      (Carries body [] ∧ ∃ text, lib.parseChallenge answer.body = .error text)
  | _ => False

/-- The challenge was seen valid or invalid. -/
def SeenSettled (lib : Libraries) (url : String) (since : History) : Prop :=
  ∃ seen, Saw (Challenge.read lib) since url seen ∧
    (seen.statusEnum = .valid ∨ seen.statusEnum = .invalid)

/-- What may end the life of a handle, after the authority was told to validate. -/
inductive Due (lib : Libraries) (url : String) (timeout : Duration) (since : History) : Prop where
  /-- A poll has shown the challenge valid or invalid. -/
  | settled (seen : SeenSettled lib url since)
  /-- A request or a parse has failed. -/
  | failed (event : Event calls) (member : event ∈ since) (fails : Fails lib event)
  /-- The deadline, counted from the first reading of the clock, has passed. -/
  | expired (start time : Instant) (rest : List Instant) (readings : clocks since = start :: rest)
      (member : time ∈ rest) (late : start + timeout.nanos ≤ time)

/-- While a handle is live, it alone is called, and only its challenge is sent anything. -/
structure Alone (url : String) (ready : Handle) (body : History) : Prop where
  solvers : ∀ event ∈ body, isSolver event = true → ∃ reply, event = checked ready reply
  sends : Sends (ToChallenge url) body

/-- After the word to validate, the first handle to be torn down is due. -/
def Kept (lib : Libraries) (timeout : Duration) (trace : History) : Prop :=
  ∀ before url kick reply since ready after,
    trace = before ++ posted url kick reply :: (since ++ dropped ready :: after) →
    Carries kick Challenge.kickPayload → (∀ other, dropped other ∉ since) →
    Due lib url timeout (posted url kick reply :: since)

/-- After each word to validate, a handle is torn down. -/
def Sealed (trace : History) : Prop :=
  ∀ before url kick reply after, trace = before ++ posted url kick reply :: after →
    Carries kick Challenge.kickPayload → ∃ ready, dropped ready ∈ after

/-- An open authorization with a challenge that fits a solver and has a token. -/
structure Arms (lib : Libraries) (solvers : List ChallengeKind) (authz : Authorization)
    (solver : Nat) (challenge : Challenge) (token : String) : Prop where
  pending : authz.statusEnum ≠ .valid
  picked : pickSolverAndChallenge lib authz solvers = .ok (solver, challenge)
  present : challenge.token = some token

/-- How an authorization is fetched, without any solver. -/
inductive Fetch (lib : Libraries) (key : AccountKey) (url : String) :
    History → Except Stop Authorization → Prop where
  /-- It could not be asked for: no nonce was to be had, or the request could not be signed. -/
  | unsent {fetch : History} {stop : Stop} (quiet : Quiet fetch) (silent : posts fetch = [])
      (reason : (∃ event ∈ fetch, Fails lib event) ∨
        ∃ message, lib.sign key message = none) : Fetch lib key url fetch (.error stop)
  /-- It was asked for once, and the reply says what it is. -/
  | asked {fetch : History} {body : Bytes} {reply : Except AcmeError HttpResponse}
      (quiet : Quiet fetch) (sent : posts fetch = [posted url body reply])
      (carries : Carries body []) :
      Fetch lib key url fetch
        (result reply >>= fun answer => result (Authorization.read lib answer))

/-- How the solvers are called for one authorization. -/
inductive Session (lib : Libraries) (key : AccountKey) (solvers : List ChallengeKind)
    (url : String) : History → Except Stop Unit → Prop where
  /-- It could not be fetched. -/
  | unfetched {fetch : History} {stop : Stop} (fetching : Fetch lib key url fetch (.error stop)) :
      Session lib key solvers url fetch (.error stop)
  /-- Nothing has to be armed, because it is valid. -/
  | valid {fetch : History} {authz : Authorization}
      (fetching : Fetch lib key url fetch (.ok authz)) (valid : authz.statusEnum = .valid) :
      Session lib key solvers url fetch (.ok ())
  /-- Nothing can be armed. -/
  | unfit {fetch : History} {authz : Authorization} (failure : AcmeError)
      (fetching : Fetch lib key url fetch (.ok authz)) (pending : authz.statusEnum ≠ .valid)
      (unfit : ∀ solver challenge token, ¬ Arms lib solvers authz solver challenge token) :
      Session lib key solvers url fetch (.error (.error failure))
  /-- The solver failed. -/
  | refused {fetch : History} {authz : Authorization} {solver : Nat} {challenge : Challenge}
      {token : String} (failure : AcmeError) (fetching : Fetch lib key url fetch (.ok authz))
      (arms : Arms lib solvers authz solver challenge token) :
      Session lib key solvers url (fetch ++
        [armed solver authz.identifier (computeKeyAuthorization lib token key)
          (.error failure)]) (.error (.error failure))
  /-- The handle was used for its challenge, and then torn down. -/
  | held {fetch body : History} {authz : Authorization} {solver : Nat} {challenge : Challenge}
      {token : String} {ready : Handle} {outcome : Except Stop Unit}
      (fetching : Fetch lib key url fetch (.ok authz))
      (arms : Arms lib solvers authz solver challenge token)
      (alone : Alone challenge.url ready body) :
      Session lib key solvers url (fetch ++
        armed solver authz.identifier (computeKeyAuthorization lib token key) (.ok ready) ::
          (body ++ [dropped ready])) outcome
  /-- The run is cut short while the handle is held. -/
  | cut {fetch body : History} {authz : Authorization} {solver : Nat} {challenge : Challenge}
      {token : String} {ready : Handle} (fetching : Fetch lib key url fetch (.ok authz))
      (arms : Arms lib solvers authz solver challenge token)
      (alone : Alone challenge.url ready body) :
      Session lib key solvers url (fetch ++
        armed solver authz.identifier (computeKeyAuthorization lib token key) (.ok ready) :: body)
        (.error .unfinished)

variable {lib : Libraries} {account : Account} {trace : History}

/-- The pool answered as a queue. -/
def Pooled (trace : History) : Prop :=
  ∃ queue, pool.Admits queue trace

/-- Both parts of a trace were answered by the queue. -/
theorem Pooled.split {later : History} (pooled : Pooled (trace ++ later)) :
    Pooled trace ∧ Pooled later := by
  -- The later part starts with the pool that the first part left.
  obtain ⟨queue, shared⟩ := pooled
  obtain ⟨first, second⟩ := World.admits_append.mp shared
  exact ⟨⟨_, first⟩, ⟨_, second⟩⟩

/-- After one call, the rest was answered by the queue. -/
theorem Pooled.tail {event : Event calls} (pooled : Pooled (event :: trace)) : Pooled trace := by
  obtain ⟨queue, shared⟩ := pooled
  exact ⟨_, shared.2⟩

/-- When no nonce could be obtained, the HEAD for one failed, or brought none. -/
theorem GetRun.fails {url : String} {outcome : Except Stop String} {stop : Stop}
    (run : GetRun url trace outcome) (failed : outcome = .error stop) (pooled : Pooled trace) :
    ∃ event ∈ trace, Fails lib event := by
  obtain ⟨queue, shared⟩ := pooled
  cases run with
  | pooled | fetched => cases failed
  | unreached failure => exact ⟨headed url (.error failure), by simp, trivial⟩
  | refused answer status => exact ⟨headed url (.ok answer), by simp, .inl status⟩
  | barren answer status =>
    -- The pool was empty and still is, so nothing was added.
    refine ⟨headed url (.ok answer), by simp, .inr ?_⟩
    have empty : queue = [] ∧ answer.nonces = [] := by
      cases queue <;> simp_all
    exact empty.2
  | robbed answer status =>
    -- A pool that was found filled has a nonce to give.
    exfalso
    cases queue with
    | nil => cases brought : answer.nonces <;> simp [brought] at shared
    | cons => simp at shared

@[simp] theorem clocks_append {later : History} :
    clocks (trace ++ later) = clocks trace ++ clocks later :=
  List.filterMap_append

/-- A signed request takes no reading of the clock. -/
theorem Reads.clocks {α : Type} {store : ReplayNonceStore} {sign : String → Except Stop Bytes}
    {url : String} {read : HttpResponse → Except AcmeError α} {outcome : Except Stop α}
    (reads : Reads store sign url read trace outcome) : clocks trace = [] := by
  refine List.filterMap_eq_nil_iff.mpr fun event member => ?_
  -- A request reads no clock.
  have plain := reads.plain event member
  obtain ⟨call, answer⟩ := event
  cases call <;> first | rfl | cases plain

/-- A request in an account's name takes no reading of the clock. -/
theorem Asks.clocks {α : Type} {url : String} {payload : Bytes}
    {read : HttpResponse → Except AcmeError α} {outcome : Except Stop α}
    (asks : Asks lib account url payload read trace outcome) : clocks trace = [] :=
  Reads.clocks asks

/-- A response that cannot be used is one of the failures of a challenge's requests. -/
def FailsWhenUnread {α : Type} (lib : Libraries) (payload : Bytes)
    (read : HttpResponse → Except AcmeError α) : Prop :=
  ∀ url body answer failure, Carries body payload → read answer = .error failure →
    Fails lib (posted url body (.ok answer))

/-- The word to validate fails only with its status. -/
theorem failsWhenUnread_kick :
    FailsWhenUnread lib Challenge.kickPayload (HttpResponse.accepted lib) := by
  intro url body answer failure _ unread
  -- Only the status is looked at, and a success would have been read.
  cases success : answer.isSuccess with
  | false => exact .inl success
  | true => simp [HttpResponse.accepted, HttpResponse.ok, success, Except.map] at unread

/-- A poll fails with its status, or because it cannot be parsed. -/
theorem failsWhenUnread_poll : FailsWhenUnread lib [] (Challenge.read lib) := by
  intro url body answer failure carries unread
  -- The status comes first.
  cases success : answer.isSuccess with
  | false => exact .inl success
  | true =>
    -- Then the body is parsed, and a challenge would have been read.
    cases parsed : lib.parseChallenge answer.body with
    | error text => exact .inr ⟨carries, text, parsed⟩
    | ok challenge =>
      simp [Challenge.read, HttpResponse.ok, success, parsed, bind, Except.bind,
        Except.mapError] at unread

/-- When a request was sent in vain, it has failed. -/
theorem Asks.posted_fails {α : Type} {url target : String} {payload body : Bytes}
    {read : HttpResponse → Except AcmeError α} {stop : Stop}
    {reply : Except AcmeError HttpResponse} (unread : FailsWhenUnread lib payload read)
    (asks : Asks lib account url payload read trace (.error stop))
    (member : posted target body reply ∈ trace) : Fails lib (posted target body reply) := by
  obtain ⟨_, carries, _, rfl⟩ := asks.sends target body reply member
  obtain ⟨exchanged, run, came⟩ := asks
  have listed : posted target body reply ∈ posts trace := List.mem_filter.mpr ⟨member, rfl⟩
  -- There is one POST at most, and this is it.
  rcases run.one_post with ⟨none, _⟩ | ⟨_, _, answer, _, only, rfl⟩
  · rw [none] at listed
    cases listed
  · rw [only, List.mem_singleton] at listed
    cases listed
    cases reply with
    | error failure => trivial
    | ok answer =>
      -- The response came, so it could not be used.
      cases read_eq : read answer with
      | ok value => simp [bind, Except.bind, read_eq] at came
      | error failure => exact unread url body answer failure carries read_eq

/-- A request that does not succeed has failed on the way, or the client panicked. -/
theorem Asks.fails {α : Type} {url : String} {payload : Bytes}
    {read : HttpResponse → Except AcmeError α} {stop : Stop}
    (unread : FailsWhenUnread lib payload read)
    (asks : Asks lib account url payload read trace (.error stop)) (pooled : Pooled trace) :
    (∃ event ∈ trace, Fails lib event) ∨ ∃ message, stop = .panic message := by
  obtain ⟨exchanged, run, came⟩ := id asks
  -- A request stops at the nonce, at the signature, on the way, or at what its answer says.
  cases run with
  -- Without a nonce, a request for one had failed.
  | noNonce obtained => exact .inl (obtained.fails rfl pooled)
  | unsigned obtained signed =>
    obtain ⟨message, rfl⟩ := signJwsInner_panics signed
    exact .inr ⟨message, Except.error.inj came⟩
  | @undelivered _ _ body failure =>
    exact .inl ⟨posted url body (.error failure), by simp, asks.posted_fails unread (by simp)⟩
  | @answered _ _ body answer =>
    exact .inl ⟨posted url body (.ok answer), by simp, asks.posted_fails unread (by simp)⟩

/-- Why a polled handle is let go, with the deadline that was set. -/
inductive LetGo (lib : Libraries) (url : String) (deadline : Instant) (body : History)
    (outcome : Except Stop Unit) : Prop where
  /-- A poll has shown the challenge valid or invalid. -/
  | settled (seen : SeenSettled lib url body)
  /-- A request or a parse has failed. -/
  | failed (event : Event calls) (member : event ∈ body) (fails : Fails lib event)
  /-- The deadline has passed. -/
  | expired (time : Instant) (member : time ∈ clocks body) (late : deadline ≤ time)
  /-- The client panicked. -/
  | panicked (message : String) (panic : outcome = .error (.panic message))

/-- What let a handle go is still there when more has happened before. -/
theorem LetGo.after {url : String} {deadline : Instant} {body : History}
    {outcome : Except Stop Unit} (letGo : LetGo lib url deadline body outcome)
    (before : History) : LetGo lib url deadline (before ++ body) outcome := by
  -- Each reason to let go is found in the longer history too.
  cases letGo with
  | settled seen =>
    obtain ⟨challenge, saw, status⟩ := seen
    exact .settled ⟨challenge, saw.mono fun _ member => List.mem_append_right _ member, status⟩
  | failed event member fails => exact .failed event (List.mem_append_right _ member) fails
  | expired time member late =>
    exact .expired time (by rw [clocks_append]; exact List.mem_append_right _ member) late
  | panicked message panic => exact .panicked message panic

/-- A challenge with a verdict is valid or invalid. -/
theorem Challenge.settled_of_verdict {challenge : Challenge} {outcome : Except AcmeError Unit}
    (settled : challenge.verdict = some outcome) :
    challenge.statusEnum = .valid ∨ challenge.statusEnum = .invalid := by
  unfold verdict at settled
  -- There are two final statuses, and no verdict on the others.
  split at settled
  · exact .inl ‹_›
  · exact .inr ‹_›
  · cases settled

/-- A question leaves the live handle alone. -/
theorem Asks.alone {α : Type} {url : String} {payload : Bytes} {ready : Handle}
    {read : HttpResponse → Except AcmeError α} {outcome : Except Stop α}
    (kind : payload = Challenge.kickPayload ∨ payload = [])
    (asks : Asks lib account url payload read trace outcome) : Alone url ready trace where
  solvers event member called := by
    -- A question calls no solver.
    rw [Reads.quiet asks event member] at called
    cases called
  sends := asks.sends.mono fun _ content sent => ⟨sent.1, by rw [sent.2]; exact kind⟩

/-- Two parts in which a handle is alone make one. -/
theorem Alone.append {url : String} {ready : Handle} {later : History}
    (first : Alone url ready trace) (second : Alone url ready later) :
    Alone url ready (trace ++ later) where
  solvers := List.forall_mem_append.mpr ⟨first.solvers, second.solvers⟩
  sends := first.sends.append second.sends

/-- Reading the clock, waiting and checking the handle leave it alone. -/
theorem Alone.cons {url : String} {ready : Handle} {event : Event calls}
    (silent : isPost event = false)
    (own : isSolver event = true → ∃ reply, event = checked ready reply)
    (rest : Alone url ready trace) : Alone url ready (event :: trace) where
  solvers := List.forall_mem_cons.mpr ⟨own, rest.solvers⟩
  sends := rest.sends.cons silent

/-- Where nothing happens, a handle is alone. -/
theorem alone_nil {url : String} {ready : Handle} : Alone url ready [] where
  solvers := nofun
  sends := sends_nil

/-- Polling an armed challenge lets its handle go for a reason, unless it is cut short. -/
theorem Polling.letsGo {url : String} {ready : Handle} {timeout pause : Duration}
    {deadline : Instant} {outcome : Except Stop Unit}
    (polling : Polling (Challenge.poll lib url account ready timeout) pause deadline trace outcome)
    (pooled : Pooled trace) :
    (∃ body, trace = body ++ [dropped ready] ∧ Alone url ready body ∧
      Sends (fun target content => target = url ∧ content = []) body ∧
      LetGo lib url deadline body outcome) ∨
    (outcome = .error .unfinished ∧ Alone url ready trace ∧
      Sends (fun target content => target = url ∧ content = []) trace) := by
  -- By induction on the rounds; each way to end lets the handle go once, as the last event.
  induction polling with
  | @failed trace stop question =>
    have asked := asks_run question
    refine .inl ⟨trace, rfl, asked.alone (.inr rfl), asked.sends, ?_⟩
    -- The question failed on the way, or the client panicked.
    rcases asked.fails failsWhenUnread_poll pooled.split.1 with ⟨event, member, fails⟩ |
      ⟨message, rfl⟩
    · exact .failed event member fails
    · exact .panicked message rfl
  | @settled trace challenge outcome question settled =>
    have asked := asks_run question
    -- The verdict was seen, and it is a final one.
    exact .inl ⟨trace, rfl, asked.alone (.inr rfl), asked.sends,
      .settled ⟨challenge, asked.saw, Challenge.settled_of_verdict settled⟩⟩
  | @expired trace challenge time question unsettled expired =>
    have asked := asks_run question
    refine .inl ⟨trace ++ [clocked time], by simp [lettingGo, Challenge.poll], ?_, ?_, ?_⟩
    · exact (asked.alone (.inr rfl)).append (alone_nil.cons rfl (by simp [isSolver]))
    · exact asked.sends.append (.cons rfl sends_nil)
    · -- The clock was read past the deadline.
      exact .expired time (by simp [clocks]) expired
  | @again trace later challenge time outcome question unsettled early rest ih =>
    have asked := asks_run question
    -- A round in front of the rest touches no handle.
    have waited : ∀ {body}, Alone url ready body →
        Alone url ready (trace ++ clocked time :: slept pause :: body) := fun alone =>
      (asked.alone (.inr rfl)).append
        ((alone.cons rfl (by simp [isSolver])).cons rfl (by simp [isSolver]))
    -- It sends one more question.
    have sent : ∀ {body}, Sends (fun target content => target = url ∧ content = []) body →
        Sends (fun target content => target = url ∧ content = [])
          (trace ++ clocked time :: slept pause :: body) := fun sends =>
      asked.sends.append (.cons rfl (.cons rfl sends))
    -- What the rest ends with is what the whole ends with.
    rcases ih pooled.split.2.tail.tail with ⟨body, rfl, alone, sends, reason⟩ |
      ⟨cut, alone, sends⟩
    · refine .inl ⟨trace ++ clocked time :: slept pause :: body, by simp, waited alone, sent sends,
        ?_⟩
      have later := reason.after (trace ++ [clocked time, slept pause])
      simpa using later
    · exact .inr ⟨cut, waited alone, sent sends⟩
  | cut => exact .inr ⟨rfl, alone_nil, sends_nil⟩

/-- A split of a question at the word to validate leaves no reading of the clock behind. -/
theorem Asks.clocks_after {α : Type} {url target : String} {payload body : Bytes}
    {read : HttpResponse → Except AcmeError α} {outcome : Except Stop α}
    {reply : Except AcmeError HttpResponse} {before after : History}
    (asks : Asks lib account url payload read (before ++ posted target body reply :: after)
      outcome) : Acme.clocks (posted target body reply :: after) = [] := by
  -- No part of a request reads the clock.
  have none := asks.clocks
  rw [clocks_append] at none
  exact (List.append_eq_nil_iff.mp none).2

/-- What let a polled handle go was due, counted from the word to validate. -/
theorem LetGo.due {url : String} {timeout : Duration} {start deadline : Instant}
    {body : History} {outcome : Except Stop Unit}
    (letGo : LetGo lib url deadline body outcome)
    (calm : ∀ message, outcome ≠ .error (.panic message))
    (representable : deadlineAfter lib start timeout = .ok deadline) {before : History}
    (unread : clocks before = []) : Due lib url timeout (before ++ clocked start :: body) := by
  cases letGo with
  -- What the loop has seen, the whole run has seen.
  | settled seen =>
    obtain ⟨challenge, saw, status⟩ := seen
    exact .settled ⟨challenge,
      saw.mono fun _ member => List.mem_append_right _ (.tail _ member), status⟩
  | failed event member fails =>
    exact .failed event (List.mem_append_right _ (.tail _ member)) fails
  | expired time member late =>
    -- The first reading of the clock is the one the deadline was computed from.
    refine .expired start time (clocks body) ?_ member ?_
    · rw [clocks_append, unread]
      rfl
    · rw [deadlineAfter_eq_ok representable]
      exact late
  | panicked message panic => exact absurd panic (calm message)

/-- Where the authority is not told to validate anything, no body says so. -/
theorem Sends.untold
    (sends : Sends (fun _ payload => payload ≠ Challenge.kickPayload) trace) {url : String}
    {kick : Bytes} {reply : Except AcmeError HttpResponse}
    (member : posted url kick reply ∈ trace) : ¬ Carries kick Challenge.kickPayload := by
  intro carries
  obtain ⟨payload, states, other⟩ := sends url kick reply member
  -- The body carries one payload, and it is another one.
  exact other (states.unique carries)

/-- There no handle has to be kept. -/
theorem Sends.kept {timeout : Duration}
    (sends : Sends (fun _ payload => payload ≠ Challenge.kickPayload) trace) :
    Kept lib timeout trace := by
  -- There is no word to validate that would bind the driver.
  intro before url kick reply since ready after split carries _
  exact absurd carries (sends.untold (split ▸ List.mem_append_right _ (.head _)))

/-- There no handle has to come to an end. -/
theorem Sends.closed
    (sends : Sends (fun _ payload => payload ≠ Challenge.kickPayload) trace) : Sealed trace := by
  intro before url kick reply after split carries
  exact absurd carries (sends.untold (split ▸ List.mem_append_right _ (.head _)))

/-- A word to validate in the first of two parts is followed by the end of a handle there. -/
theorem Kept.append {timeout : Duration} {later : History} (first : Kept lib timeout trace)
    (closed : Sealed trace) (second : Kept lib timeout later) :
    Kept lib timeout (trace ++ later) := by
  intro before url kick reply since ready after split carries still
  -- The word to validate is in the first part or in the second.
  rcases split_append split with ⟨rest, early, tail⟩ | ⟨middle, rfl, late⟩
  · obtain ⟨other, torn⟩ := closed before url kick reply rest early carries
    -- The first handle to be torn down is in the first part already.
    rcases List.append_eq_append_iff.mp tail.symm with ⟨more, rfl, _⟩ | ⟨more, rfl, behind⟩
    · exact absurd (List.mem_append_left _ torn) (still other)
    · cases more with
      | nil => exact absurd (by simpa using torn) (still other)
      | cons event more =>
        obtain ⟨rfl, _⟩ := List.cons.inj behind
        exact first before url kick reply since ready more early carries still
  · exact second middle url kick reply since ready after late carries still

/-- Two parts whose handles all come to an end make one. -/
theorem Sealed.append {later : History} (first : Sealed trace) (second : Sealed later) :
    Sealed (trace ++ later) := by
  intro before url kick reply after split carries
  -- The word to validate is in the one part or in the other, which seals it.
  rcases split_append split with ⟨rest, early, rfl⟩ | ⟨middle, rfl, late⟩
  · obtain ⟨ready, torn⟩ := first before url kick reply rest early carries
    exact ⟨ready, List.mem_append_left _ torn⟩
  · exact second middle url kick reply after late carries

/-- A part of a run in which handles are kept keeps them as well. -/
theorem Kept.part {timeout : Duration} {earlier later : History}
    (kept : Kept lib timeout (earlier ++ trace ++ later)) : Kept lib timeout trace := by
  intro before url kick reply since ready after split carries still
  subst split
  exact kept (earlier ++ before) url kick reply since ready (after ++ later) (by simp) carries still

/-- So does what comes last in it. -/
theorem Kept.last {timeout : Duration} {earlier : History}
    (kept : Kept lib timeout (earlier ++ trace)) : Kept lib timeout trace := by
  rw [← List.append_nil (earlier ++ trace)] at kept
  exact kept.part

/-- What ends with the end of a handle is sealed. -/
theorem sealed_of_dropped (body : History) (ready : Handle) : Sealed (body ++ [dropped ready]) := by
  intro before url kick reply after split _
  -- The word to validate is not the last event.
  rcases List.eq_nil_or_concat after with rfl | ⟨more, last, rfl⟩
  · have same := (List.append_inj' split rfl).2
    cases same
  · rw [List.concat_eq_append, ← List.cons_append, ← List.append_assoc] at split
    obtain ⟨-, same⟩ := List.append_inj' split rfl
    exact ⟨ready, by simp [List.cons.inj same]⟩

/-- While a handle is alone, it is not torn down. -/
theorem Alone.undropped {url : String} {ready : Handle} (alone : Alone url ready trace)
    (other : Handle) : dropped other ∉ trace := by
  intro member
  obtain ⟨reply, same⟩ := alone.solvers _ member rfl
  -- The only call to the solver is the check.
  cases same

/-- A handle that is due when it is torn down is kept, as is one that is not torn down. -/
theorem Alone.kept {url : String} {ready : Handle} {timeout : Duration} {body : History}
    (alone : Alone url ready body)
    (due : ∀ before kick reply rest, body = before ++ posted url kick reply :: rest →
      Carries kick Challenge.kickPayload → Due lib url timeout (posted url kick reply :: rest)) :
    Kept lib timeout (body ++ [dropped ready]) := by
  intro before target kick reply since other after split carries still
  rw [← List.cons_append, ← List.append_assoc] at split
  -- Nothing is torn down but at the end.
  rcases List.append_eq_append_iff.mp split with ⟨more, whole, tail⟩ | ⟨more, rfl, tail⟩
  · cases more with
    -- The run reaches just up to the end of the handle.
    | nil =>
      rw [List.append_nil] at whole
      obtain ⟨_, _, rfl, _⟩ := alone.sends target kick reply (by simp [← whole])
      exact due before kick reply since whole.symm carries
    | cons event more =>
      -- What is behind the end of the handle is nothing.
      simp at tail
  · cases more with
    | nil =>
      obtain ⟨_, _, rfl, _⟩ := alone.sends target kick reply (by simp)
      exact due before kick reply since (by simp) carries
    | cons event more =>
      obtain ⟨rfl, -⟩ := List.cons.inj tail
      exact absurd (by simp) (alone.undropped other)

/-- While a handle is not torn down, it is kept. -/
theorem Alone.kept_cut {url : String} {ready : Handle} {timeout : Duration}
    (alone : Alone url ready trace) : Kept lib timeout trace := by
  intro before target kick reply since other after split _ _
  exact absurd (by simp [split]) (alone.undropped other)

/-- An armed challenge keeps its handle until it is due, unless the client panics. -/
theorem DriveRun.kept {url : String} {ready : Handle} {timeout pause : Duration}
    {outcome : Except Stop Unit} (run : DriveRun lib url account ready timeout pause trace outcome)
    (pooled : Pooled trace) (calm : ∀ message, outcome ≠ .error (.panic message)) :
    Kept lib timeout trace := by
  -- The check is the driver's own call to the solver.
  have checking : ∀ {reply body}, Alone url ready body →
      Alone url ready (checked ready reply :: body) := fun alone =>
    alone.cons rfl fun _ => ⟨_, rfl⟩
  cases run with
  | unseen failure =>
    -- The authority was not told anything.
    have silent : Sends (fun _ payload => payload ≠ Challenge.kickPayload)
        [checked ready (.error failure), dropped ready] := .cons rfl (.cons rfl sends_nil)
    exact silent.kept
  | @unkicked trace stop asked =>
    -- The word to validate has failed, which is a reason to let go.
    refine (checking (asked.alone (.inl rfl))).kept fun before kick reply rest split carries => ?_
    have member : posted url kick reply ∈ trace := by
      have listed : posted url kick reply ∈ checked ready (.ok ()) :: trace := by simp [split]
      simpa using listed
    exact .failed _ (.head _) (asked.posted_fails failsWhenUnread_kick member)
  | endless asked overflow =>
    -- The deadline overflows, and the driver panics.
    obtain ⟨message, rfl⟩ := deadlineAfter_eq_error overflow
    exact absurd rfl (calm message)
  | @polled trace later start deadline _ asked representable polling =>
    -- The handle is untouched until the loop begins.
    have started : ∀ {body}, Alone url ready body →
        Alone url ready (checked ready (.ok ()) :: (trace ++ clocked start :: body)) :=
      fun alone => checking ((asked.alone (.inl rfl)).append (alone.cons rfl (by simp [isSolver])))
    rcases polling.letsGo pooled.tail.split.2.tail with ⟨body, rfl, alone, sends, reason⟩ |
      ⟨cut, alone, _⟩
    · have whole : checked ready (.ok ()) :: (trace ++ clocked start :: (body ++ [dropped ready]))
          = checked ready (.ok ()) :: (trace ++ clocked start :: body) ++ [dropped ready] := by simp
      rw [whole]
      refine (started alone).kept fun before kick reply rest split carries => ?_
      rw [← List.cons_append] at split
      rcases split_append split with ⟨rest, first, rfl⟩ | ⟨middle, rfl, second⟩
      · -- The word to validate is in the first request, before the clock is read.
        cases before with
        | nil => cases first
        | cons head before =>
          obtain ⟨_, rfl⟩ := List.cons.inj first
          exact reason.due calm representable asked.clocks_after
      · -- Later, nothing is sent but questions.
        exfalso
        have member : posted url kick reply ∈ body := by
          have listed : posted url kick reply ∈ clocked start :: body := by simp [second]
          simpa using listed
        obtain ⟨payload, states, _, rfl⟩ := sends url kick reply member
        exact absurd (carries.unique states) (by decide)
    · -- The run is cut short with the handle in place.
      exact (started alone).kept_cut

/-- A polled handle is alone until it is let go, unless the run is cut short. -/
theorem Polling.alone {url : String} {ready : Handle} {timeout pause : Duration}
    {deadline : Instant} {outcome : Except Stop Unit}
    (polling : Polling (Challenge.poll lib url account ready timeout) pause deadline trace
      outcome) :
    (∃ body, trace = body ++ [dropped ready] ∧ Alone url ready body) ∨
      (outcome = .error .unfinished ∧ Alone url ready trace) := by
  -- A question about the challenge calls no solver, and no more does the clock.
  have asking : ∀ {trace outcome},
      (Challenge.poll lib url account ready timeout).ask.Ends trace outcome →
      Alone url ready trace := fun question => (asks_run question).alone (.inr rfl)
  have reading : ∀ time, Alone url ready [clocked time] := fun _ =>
    alone_nil.cons rfl (by simp [isSolver])
  -- By induction on the rounds; the handle is let go at the end of the last one.
  induction polling with
  | failed question => exact .inl ⟨_, rfl, asking question⟩
  | settled question => exact .inl ⟨_, rfl, asking question⟩
  | @expired trace _ time question =>
    exact .inl ⟨trace ++ [clocked time], by simp [lettingGo, Challenge.poll],
      (asking question).append (reading time)⟩
  | @again trace later _ time _ question _ _ _ ih =>
    -- A round that does not end the loop leaves the handle alone.
    have round : Alone url ready (trace ++ [clocked time, slept pause]) :=
      (asking question).append ((alone_nil.cons rfl (by simp [isSolver])).cons rfl
        (by simp [isSolver]))
    rcases ih with ⟨body, rfl, alone⟩ | ⟨cut, alone⟩
    · exact .inl ⟨trace ++ [clocked time, slept pause] ++ body, by simp, round.append alone⟩
    · exact .inr ⟨cut, by simpa using round.append alone⟩
  | cut => exact .inr ⟨rfl, alone_nil⟩

/-- An armed challenge has its handle alone until it is let go, unless the run is cut short. -/
theorem DriveRun.alone {url : String} {ready : Handle} {timeout pause : Duration}
    {outcome : Except Stop Unit}
    (run : DriveRun lib url account ready timeout pause trace outcome) :
    (∃ body, trace = body ++ [dropped ready] ∧ Alone url ready body) ∨
      (outcome = .error .unfinished ∧ Alone url ready trace) := by
  -- The check is the driver's own, and the clock is no solver.
  have checking : ∀ {reply body}, Alone url ready body →
      Alone url ready (checked ready reply :: body) := fun alone =>
    alone.cons rfl fun _ => ⟨_, rfl⟩
  have reading : ∀ {time body}, Alone url ready body → Alone url ready (clocked time :: body) :=
    fun alone => alone.cons rfl (by simp [isSolver])
  cases run with
  | unseen failure => exact .inl ⟨_, rfl, checking alone_nil⟩
  | unkicked asked => exact .inl ⟨_, rfl, checking (asked.alone (.inl rfl))⟩
  | @endless trace start _ asked =>
    exact .inl ⟨checked ready (.ok ()) :: (trace ++ [clocked start]), by simp,
      checking ((asked.alone (.inl rfl)).append (reading alone_nil))⟩
  | @polled trace _ start _ _ asked _ polling =>
    -- The handle is let go, or not, at the end of the polling.
    rcases polling.alone with ⟨body, rfl, alone⟩ | ⟨cut, alone⟩
    · exact .inl ⟨checked ready (.ok ()) :: (trace ++ clocked start :: body), by simp,
        checking ((asked.alone (.inl rfl)).append (reading alone))⟩
    · exact .inr ⟨cut, checking ((asked.alone (.inl rfl)).append (reading alone))⟩

/-- Fetching an authorization calls no solver, and its one request is read. -/
theorem Asks.fetch {url : String} {outcome : Except Stop Authorization}
    (asked : Asks lib account url [] (Authorization.read lib) trace outcome)
    (pooled : Pooled trace) : Fetch lib account.key url trace outcome := by
  have quiet := Reads.quiet asked
  obtain ⟨exchanged, run, rfl⟩ := asked
  cases run with
  -- Without a nonce, a request for one had failed.
  | noNonce obtained => exact .unsent quiet obtained.no_posts (.inl (obtained.fails rfl pooled))
  | unsigned obtained refused =>
    exact .unsent quiet obtained.no_posts (.inr (sign_none_of_error refused))
  -- The question was sent once, with an answer or without.
  | @undelivered nonces _ body failure obtained signed =>
    have sent : posts (nonces ++ [posted url body (.error failure)])
        = [posted url body (.error failure)] := by simp [obtained.no_posts]
    exact .asked quiet sent ⟨_, says_kid signed⟩
  | @answered nonces _ body answer obtained signed =>
    have sent : posts (nonces ++ posted url body (.ok answer) :: pushes answer.nonces)
        = [posted url body (.ok answer)] := by simp [obtained.no_posts]
    exact .asked quiet sent ⟨_, says_kid signed⟩

/-- The solvers are called as they should be for every authorization. -/
theorem SessionRun.session {solvers : List ChallengeKind} {timeout : Duration} {url : String}
    {outcome : Except Stop Unit} (run : SessionRun lib account solvers timeout url trace outcome)
    (pooled : Pooled trace) : Session lib account.key solvers url trace outcome := by
  cases run with
  | unfetched asked => exact .unfetched (asked.fetch pooled)
  | valid asked valid => exact .valid (asked.fetch pooled) valid
  | unmatched asked pending unmatched =>
    -- Without a match there is nothing to arm.
    exact .unfit _ (asked.fetch pooled) pending fun solver challenge token arms => by
      cases unmatched.symm.trans arms.picked
  | tokenless asked pending picked missing =>
    refine .unfit _ (asked.fetch pooled) pending fun solver challenge token arms => ?_
    -- The solver and the challenge are the ones that were picked.
    cases picked.symm.trans arms.picked
    cases missing.symm.trans arms.present
  | unarmed failure asked pending picked present =>
    exact .refused failure (asked.fetch pooled.split.1) ⟨pending, picked, present⟩
  | driven asked pending picked present driven =>
    -- The challenge was seen through with its handle, or the run was cut in between.
    have fetching := asked.fetch pooled.split.1
    rcases driven.alone with ⟨body, rfl, alone⟩ | ⟨rfl, alone⟩
    · exact .held fetching ⟨pending, picked, present⟩ alone
    · exact .cut fetching ⟨pending, picked, present⟩ alone

/-- The solvers are called as they should be for a list of authorizations. -/
theorem SessionsRun.inTurn {solvers : List ChallengeKind} {timeout : Duration}
    {urls : List String} {sessions : List History} {outcome : Except Stop Unit}
    (run : SessionsRun lib account solvers timeout urls sessions outcome)
    (pooled : Pooled sessions.flatten) :
    InTurn (Session lib account.key solvers) urls sessions outcome := by
  -- By induction on the authorizations, each of which has its part of the pool's history.
  induction run with
  | done => exact .done
  | stopped failed =>
    rw [List.flatten_cons] at pooled
    exact .stopped (failed.session pooled.split.1)
  | next succeeded _ ih =>
    rw [List.flatten_cons] at pooled
    exact .next (succeeded.session pooled.split.1) (ih pooled.split.2)

/-- Handles are kept through an authorization, and torn down in it, unless the run is cut. -/
theorem SessionRun.kept {solvers : List ChallengeKind} {timeout : Duration} {url : String}
    {outcome : Except Stop Unit} (run : SessionRun lib account solvers timeout url trace outcome)
    (pooled : Pooled trace) (calm : ∀ message, outcome ≠ .error (.panic message)) :
    Kept lib timeout trace ∧ (outcome ≠ .error .unfinished → Sealed trace) := by
  cases run with
  -- These sessions ask a question, and nothing else.
  | unfetched asked | valid asked | unmatched asked | tokenless asked =>
    have sends := (asked.uninvolved nil_ne_kickPayload).sends
    exact ⟨sends.kept, fun _ => sends.closed⟩
  | @unarmed fetch authz solver _ token failure asked =>
    -- The authority is told nothing when the solver fails.
    have sends : Sends (fun _ payload => payload ≠ Challenge.kickPayload) (fetch ++ [armed solver
        authz.identifier (computeKeyAuthorization lib token account.key) (.error failure)]) :=
      (asked.uninvolved nil_ne_kickPayload).sends.append (.cons rfl sends_nil)
    exact ⟨sends.kept, fun _ => sends.closed⟩
  | @driven fetch later authz solver challenge token ready _ asked _ _ _ driven =>
    have sends : Sends (fun _ payload => payload ≠ Challenge.kickPayload) (fetch ++ [armed solver
        authz.identifier (computeKeyAuthorization lib token account.key) (.ok ready)]) :=
      (asked.uninvolved nil_ne_kickPayload).sends.append (.cons rfl sends_nil)
    rw [List.append_cons]
    refine ⟨sends.kept.append sends.closed (driven.kept pooled.split.2.tail calm),
      fun whole => ?_⟩
    -- A challenge that was not cut short ends with the end of its handle.
    rcases driven.alone with ⟨body, rfl, _⟩ | ⟨cut, _⟩
    · exact sends.closed.append (sealed_of_dropped body ready)
    · exact absurd cut whole

/-- Handles are kept through authorizations in turn. -/
theorem SessionsRun.kept {solvers : List ChallengeKind} {timeout : Duration}
    {urls : List String} {sessions : List History} {outcome : Except Stop Unit}
    (run : SessionsRun lib account solvers timeout urls sessions outcome)
    (pooled : Pooled sessions.flatten) (calm : ∀ message, outcome ≠ .error (.panic message)) :
    Kept lib timeout sessions.flatten ∧
      (outcome ≠ .error .unfinished → Sealed sessions.flatten) := by
  -- By induction on the authorizations; those before the last one tear their handles down.
  induction run with
  | done => exact ⟨sends_nil.kept, fun _ => sends_nil.closed⟩
  | stopped failed =>
    rw [List.flatten_cons] at pooled
    simpa using failed.kept pooled.split.1 calm
  | next succeeded _ ih =>
    rw [List.flatten_cons] at pooled ⊢
    obtain ⟨kept, closed⟩ := succeeded.kept pooled.split.1 (by simp)
    obtain ⟨rest, last⟩ := ih pooled.split.2 calm
    exact ⟨kept.append (closed (by simp)) rest, fun whole => (closed (by simp)).append (last whole)⟩

end Acme
