import Acme.Proofs.Handles

/-! The rounds of a run: each POST with its answer, and the clock readings that follow it. -/

namespace Acme

open Interaction

/-- A POST with its answer, and the readings of the clock before the next POST. -/
structure Round where
  url : String
  body : Bytes
  answer : Except AcmeError HttpResponse
  readings : List Instant

/-- Put one more event in front of the readings before the first POST, and the rounds from it on. -/
def addEvent : Event calls → List Instant × List Round → List Instant × List Round
  | ⟨.postJose url body, answer⟩, (readings, later) => ([], ⟨url, body, answer, readings⟩ :: later)
  | ⟨.now, time⟩, (readings, later) => (time :: readings, later)
  | _, rest => rest

/-- The readings of the clock before the first POST, and the rounds from it on. -/
def divide (history : History) : List Instant × List Round :=
  history.foldr addEvent ([], [])

/-- The rounds of a history, in order. -/
def rounds (history : History) : List Round :=
  (divide history).2

/-- The round posts a payload to a URL. -/
def Round.Posts (url : String) (payload : Bytes) (round : Round) : Prop :=
  round.url = url ∧ Carries round.body payload

/-- The answer of the round is read as a value. -/
def Round.Shows {α : Type} (read : HttpResponse → Except AcmeError α) (value : α)
    (round : Round) : Prop :=
  ∃ answer, round.answer = .ok answer ∧ read answer = .ok value

/-- The round shows an unsettled resource, and the clock was read once before the deadline. -/
def Round.Open {α : Type} (read : HttpResponse → Except AcmeError α) (unsettled : α → Prop)
    (deadline : Instant) (round : Round) : Prop :=
  ∃ value time, round.Shows read value ∧ unsettled value ∧ round.readings = [time] ∧
    time < deadline

/-- The round shows an unsettled resource, and the clock was read once, not before the deadline. -/
def Round.Late {α : Type} (read : HttpResponse → Except AcmeError α) (unsettled : α → Prop)
    (deadline : Instant) (round : Round) : Prop :=
  ∃ value time, round.Shows read value ∧ unsettled value ∧ round.readings = [time] ∧
    deadline ≤ time

/-- The run stopped because no nonce could be obtained for a request. -/
def Dry (account : Account) (trace : History) (stop : Stop) : Prop :=
  ∃ before attempt after, trace = before ++ (attempt ++ after) ∧
    GetRun account.nonce.newNonceUrl attempt (.error stop)

/-- The next request could not be sent: there was no nonce for it, or the client panicked. -/
def Unsent (account : Account) (trace : History) (stop : Stop) : Prop :=
  Dry account trace stop ∨ ∃ message, stop = .panic message

/-- The last request failed with an error of the transport. -/
def LastFailed (trace : History) (failure : AcmeError) : Prop :=
  ∃ event, (requests trace).getLast? = some event ∧ reply event = some (.error failure)

variable {lib : Libraries} {account : Account} {trace : History}

/-- The events of a trace are put in front one after the other. -/
theorem divide_append {later : History} :
    divide (trace ++ later) = trace.foldr addEvent (divide later) :=
  List.foldr_append

/-- Where the clock is not read, only the POSTs matter. -/
theorem foldr_addEvent (unread : clocks trace = []) (rest : List Instant × List Round) :
    trace.foldr addEvent rest = (posts trace).foldr addEvent rest := by
  -- By induction on the trace; every event other than a POST or a reading is skipped on both sides.
  induction trace with
  | nil => rfl
  | cons event later ih =>
    have unread_later : clocks later = [] := by
      refine List.filterMap_eq_nil_iff.mpr fun other member => ?_
      exact List.filterMap_eq_nil_iff.mp unread other (.tail _ member)
    obtain ⟨call, answer⟩ := event
    cases call with
    | postJose url body => simp [ih unread_later]
    -- There is no reading of the clock among the events.
    | now => cases List.filterMap_eq_nil_iff.mp unread _ (.head _)
    | _ => exact ih unread_later

/-- A request that was not sent leaves the round before it open to more readings. -/
theorem divide_silent {later : History} (unread : clocks trace = []) (silent : posts trace = []) :
    divide (trace ++ later) = divide later := by
  rw [divide_append, foldr_addEvent unread, silent]
  rfl

/-- A request that was sent starts a round, to which the next readings belong. -/
theorem divide_posted {later : History} {url : String} {body : Bytes}
    {answer : Except AcmeError HttpResponse} (unread : clocks trace = [])
    (sent : posts trace = [posted url body answer]) :
    divide (trace ++ later)
      = ([], ⟨url, body, answer, (divide later).1⟩ :: (divide later).2) := by
  rw [divide_append, foldr_addEvent unread, sent]
  rfl

@[simp] theorem divide_clocked {time : Instant} {later : History} :
    divide (clocked time :: later) = (time :: (divide later).1, (divide later).2) := rfl

@[simp] theorem divide_slept {time : Duration} {later : History} :
    divide (slept time :: later) = divide later := rfl

@[simp] theorem divide_lettingGo {handle : Option Handle} : divide (lettingGo handle) = ([], []) := by
  cases handle <;> rfl

/-- What a request in an account's name comes to: nothing that is sent, or one round. -/
inductive AskedRound {α : Type} (account : Account) (url : String) (payload : Bytes)
    (read : HttpResponse → Except AcmeError α) (trace : History) (outcome : Except Stop α) :
    Prop where
  /-- Nothing was sent. -/
  | unsent {stop : Stop} (failed : outcome = .error stop) (reason : Unsent account trace stop)
      (silent : ∀ later, divide (trace ++ later) = divide later)
  /-- One request was sent, and its answer was read. -/
  | sent {body : Bytes} {answer : Except AcmeError HttpResponse} (carries : Carries body payload)
      (shows : ∀ readings value,
        outcome = .ok value ↔ Round.Shows read value ⟨url, body, answer, readings⟩)
      (plain : ∀ stop, outcome = .error stop → ∃ failure, stop = .error failure)
      (round : ∀ later, divide (trace ++ later)
        = ([], ⟨url, body, answer, (divide later).1⟩ :: (divide later).2))

/-- A request in an account's name is one round, or is not sent. -/
theorem Asks.round {α : Type} {url : String} {payload : Bytes}
    {read : HttpResponse → Except AcmeError α} {outcome : Except Stop α}
    (asks : Asks lib account url payload read trace outcome) :
    AskedRound account url payload read trace outcome := by
  have unread := asks.clocks
  obtain ⟨exchanged, run, rfl⟩ := asks
  rcases run.one_post with ⟨silent, stop, rfl⟩ | ⟨nonce, body, answer, signed, sent, rfl⟩
  · -- No POST is made, and the history has no round of it.
    refine .unsent rfl ?_ fun later => divide_silent unread silent
    generalize failed : (Except.error stop : Except Stop HttpResponse) = exchanged at run
    -- Without a POST there was no nonce, or the request could not be signed.
    cases run with
    | noNonce obtained =>
      obtain rfl := Except.error.inj failed
      exact .inl ⟨[], trace, [], by simp, obtained⟩
    | unsigned obtained refused =>
      obtain rfl := Except.error.inj failed
      obtain ⟨message, rfl⟩ := signJwsInner_panics refused
      exact .inr ⟨message, rfl⟩
    -- In the other two cases a POST was made.
    | undelivered failure obtained signed => simp at silent
    | answered answer obtained signed => simp at silent
  · refine .sent ⟨_, says_kid signed⟩ ?_ ?_ fun later => divide_posted unread sent
    · intro readings value
      -- A value was read from an answer, and only an answer can be read.
      cases answer with
      | error failure => simp [Round.Shows, bind, Except.bind]
      | ok response => simp [Round.Shows]
    · -- A question without a value failed in transport, or its answer could not be read.
      intro stop failed
      cases answer with
      | error failure => exact ⟨failure, (Except.error.inj failed).symm⟩
      | ok response =>
        cases read_eq : read response <;> simp [bind, Except.bind, read_eq] at failed
        exact ⟨_, failed.symm⟩

/-- What could not be sent could not be sent in a longer run either. -/
theorem Unsent.within {stop : Stop} (unsent : Unsent account trace stop)
    (before after : History) : Unsent account (before ++ (trace ++ after)) stop := by
  -- The attempt stays where it is, with more in front of it and behind it.
  rcases unsent with ⟨earlier, attempt, later, rfl, obtained⟩ | panicked
  · exact .inl ⟨before ++ earlier, attempt, later ++ after, by simp, obtained⟩
  · exact .inr panicked

/-- An error that is never read from an answer. -/
def Foreign {α : Type} (read : HttpResponse → Except AcmeError α) (failure : AcmeError) : Prop :=
  ∀ answer, read answer ≠ .error failure

/-- Of what a request in an account's name ends with, a lapse of time comes from the transport. -/
theorem Asks.last_failed {α : Type} {url text : String} {payload : Bytes}
    {read : HttpResponse → Except AcmeError α} {outcome : Except Stop α}
    (asks : Asks lib account url payload read trace outcome)
    (foreign : Foreign read (.timeout text)) (lapsed : outcome = .error (.error (.timeout text))) :
    LastFailed trace (.timeout text) := by
  obtain ⟨exchanged, run, rfl⟩ := asks
  cases run with
  | noNonce obtained =>
    obtain rfl := Except.error.inj lapsed
    generalize failed : (Except.error (.error (.timeout text)) : Except Stop String) = ended
      at obtained
    -- Of the failures of the nonce store, only that of the HEAD can be a lapse of time.
    cases obtained with
    | unreached failure =>
      cases failed
      exact ⟨headed _ _, rfl, rfl⟩
    -- The others fail in ways of their own, or not at all.
    | refused answer status | barren answer status | robbed answer status => cases failed
    | pooled nonce | fetched answer status nonce => cases failed
  | unsigned obtained refused =>
    -- Signing fails by a panic only.
    obtain ⟨message, rfl⟩ := signJwsInner_panics refused
    cases lapsed
  -- The POST itself has lapsed, and it is the last request.
  | undelivered failure obtained signed =>
    cases lapsed
    refine ⟨posted url ‹Bytes› (.error (.timeout text)), ?_, rfl⟩
    simp [requests, reply]
  -- An answer does not speak of a lapse of time.
  | answered answer obtained signed =>
    cases read_eq : read answer with
    | ok value => simp [bind, Except.bind, read_eq] at lapsed
    | error failure =>
      simp only [bind, Except.bind, read_eq, result_error] at lapsed
      cases lapsed
      exact absurd read_eq (foreign answer)

/-- What the last request failed with stays the last failure when no more is requested. -/
theorem LastFailed.before {failure : AcmeError} {later : History}
    (failed : LastFailed trace failure) (silent : requests later = []) :
    LastFailed (trace ++ later) failure := by
  obtain ⟨event, last, came⟩ := failed
  exact ⟨event, by rw [requests_append, silent, List.append_nil, last], came⟩

/-- What the last request failed with is the last failure of a longer run. -/
theorem LastFailed.after {failure : AcmeError} {later : History}
    (failed : LastFailed later failure) (before : History) :
    LastFailed (before ++ later) failure := by
  obtain ⟨event, last, came⟩ := failed
  exact ⟨event, by rw [requests_append, List.getLast?_append, last]; rfl, came⟩

/-- Letting go of a handle is no request. -/
@[simp] theorem requests_lettingGo {handle : Option Handle} :
    requests (lettingGo handle) = [] := by
  cases handle <;> rfl

/-- A round shows one value only. -/
theorem Round.Shows.unique {α : Type} {read : HttpResponse → Except AcmeError α} {value other : α}
    {round : Round} (first : round.Shows read value) (second : round.Shows read other) :
    value = other := by
  -- The answer is one value, and reading it is a function.
  obtain ⟨answer, came, read_eq⟩ := first
  obtain ⟨same, again, reread⟩ := second
  obtain rfl := Except.ok.inj (came.symm.trans again)
  exact Except.ok.inj (read_eq.symm.trans reread)

/-- The resource is unsettled. -/
def Poll.Unsettled {α β : Type} (poll : Poll α β) (value : α) : Prop :=
  poll.verdict value = none

/-- The last of the questions is answered with success, and all before it were open. -/
def Succeeds {α β : Type} (poll : Poll α β) (read : HttpResponse → Except AcmeError α)
    (deadline : Instant) (asked : List Round) (value : β) : Prop :=
  ∃ earlier last found, asked = earlier ++ [last] ∧
    (∀ round ∈ earlier, round.Open read poll.Unsettled deadline) ∧
    last.Shows read found ∧ poll.verdict found = some (.ok value)

/-- The last of the questions is answered late, which is reported as a failure. -/
def Expires {α β : Type} (poll : Poll α β) (read : HttpResponse → Except AcmeError α)
    (deadline : Instant) (asked : List Round) (failure : AcmeError) : Prop :=
  ∃ earlier last, asked = earlier ++ [last] ∧
    last.Late read (fun seen => poll.Unsettled seen ∧ poll.late seen = failure) deadline

/-- Without a question there is no success. -/
@[simp] theorem succeeds_nil {α β : Type} {poll : Poll α β}
    {read : HttpResponse → Except AcmeError α} {deadline : Instant} {value : β} :
    ¬ Succeeds poll read deadline [] value := by
  -- A last question would be among the questions.
  intro succeeded
  obtain ⟨earlier, last, _, split, _⟩ := succeeded
  simp at split

/-- The first question is the last one and answered with success, or open before a success. -/
@[simp] theorem succeeds_cons {α β : Type} {poll : Poll α β}
    {read : HttpResponse → Except AcmeError α} {deadline : Instant} {round : Round}
    {later : List Round} {value : β} :
    Succeeds poll read deadline (round :: later) value ↔
      (later = [] ∧ ∃ found, round.Shows read found ∧ poll.verdict found = some (.ok value)) ∨
        (round.Open read poll.Unsettled deadline ∧ Succeeds poll read deadline later value) := by
  constructor
  · intro succeeded
    obtain ⟨earlier, last, found, split, opened, shown, verdict⟩ := succeeded
    -- Either nothing stands before the last question, or the first question does.
    cases earlier with
    | nil =>
      obtain ⟨rfl, rfl⟩ := List.cons.inj split
      exact .inl ⟨rfl, found, shown, verdict⟩
    | cons first between =>
      obtain ⟨rfl, rfl⟩ := List.cons.inj split
      obtain ⟨head, tail⟩ := List.forall_mem_cons.mp opened
      exact .inr ⟨head, between, last, found, rfl, tail, shown, verdict⟩
  · -- The first question shows the value, or one of the later ones does.
    intro either
    rcases either with ⟨rfl, found, shown, verdict⟩ |
      ⟨head, earlier, last, found, rfl, tail, shown, verdict⟩
    · exact ⟨[], round, found, rfl, by simp, shown, verdict⟩
    · exact ⟨round :: earlier, last, found, rfl, List.forall_mem_cons.mpr ⟨head, tail⟩, shown,
        verdict⟩

/-- What the rounds of a polling loop say about it. -/
structure Polled {α β : Type} (poll : Poll α β) (account : Account) (url : String)
    (read : HttpResponse → Except AcmeError α) (deadline : Instant) (trace : History)
    (outcome : Except Stop β) : Prop where
  /-- The clock is not read before the first question. -/
  unread : (divide trace).1 = []
  /-- Nothing but questions is sent. -/
  asks : ∀ round ∈ rounds trace, round.Posts url []
  /-- It succeeds exactly when its last question does. -/
  succeeds : ∀ value, outcome = .ok value ↔ Succeeds poll read deadline (rounds trace) value
  /-- A lapse of time comes from the transport, or the last question was answered late. -/
  lapses : ∀ text, outcome = .error (.error (.timeout text)) →
    LastFailed trace (.timeout text) ∨ Expires poll read deadline (rounds trace) (.timeout text)
  /-- When no question is sent, none can be, or the run is cut short. -/
  unsent : rounds trace = [] →
    ∃ stop, outcome = .error stop ∧ (Unsent account trace stop ∨ stop = .unfinished)

/-- A question that failed is the last one, or was not sent. -/
theorem Asks.polled_failed {α β : Type} {poll : Poll α β} {deadline : Instant}
    {url : String} {read : HttpResponse → Except AcmeError α} {stop : Stop}
    (foreign : ∀ text, Foreign read (.timeout text))
    (asks : Asks lib account url [] read trace (.error stop)) :
    Polled poll account url read deadline (trace ++ lettingGo poll.handle)
      (.error stop : Except Stop β) := by
  -- A lapse of time is an error of the transport on the last request.
  have lapses : ∀ text, (.error stop : Except Stop β) = .error (.error (.timeout text)) →
      LastFailed (trace ++ lettingGo poll.handle) (.timeout text) := by
    intro text lapsed
    obtain rfl := Except.error.inj lapsed
    exact (asks.last_failed (foreign text) rfl).before requests_lettingGo
  -- Whether anything was sent decides on the number of rounds.
  cases asks.round with
  | unsent failed reason silent =>
    -- Nothing was sent, so there is no round.
    obtain rfl := Except.error.inj failed
    have none : rounds (trace ++ lettingGo poll.handle) = [] := by simp [rounds, silent]
    exact
      { unread := by simp [silent]
        asks := by simp [none]
        succeeds := by simp [none]
        lapses := fun text lapsed => .inl (lapses text lapsed)
        unsent := fun _ => ⟨stop, rfl, .inl (reason.within [] _)⟩ }
  | @sent body answer carries shows _ round =>
    have one : rounds (trace ++ lettingGo poll.handle) = [⟨url, body, answer, []⟩] := by
      simp [rounds, round]
    -- The one question that was asked was not answered with a value.
    have unanswered : ∀ value, ¬ Round.Shows read value ⟨url, body, answer, []⟩ := by
      intro value shown
      cases (shows [] value).mpr shown
    exact
      { unread := by simp [round]
        asks := by
          rw [one]
          exact List.forall_mem_singleton.mpr ⟨rfl, carries⟩
        succeeds := by simp [one, unanswered]
        lapses := fun text lapsed => .inl (lapses text lapsed)
        unsent := by simp [one] }

/-- A question that was answered is a round that shows the value. -/
theorem Asks.shown {α : Type} {url : String} {payload : Bytes}
    {read : HttpResponse → Except AcmeError α} {value : α}
    (asks : Asks lib account url payload read trace (.ok value)) (readings : List Instant)
    (later : List Round) :
    ∃ round : Round, round.Posts url payload ∧ round.Shows read value ∧
      round.readings = readings ∧
      ∀ rest, divide rest = (readings, later) → divide (trace ++ rest) = ([], round :: later) := by
  -- A value is only there when the request was sent.
  cases asks.round with
  | unsent failed reason silent => cases failed
  | @sent body answer carries shows _ round =>
    refine ⟨⟨url, body, answer, readings⟩, ⟨rfl, carries⟩, (shows readings value).mp rfl, rfl, ?_⟩
    intro rest divided
    rw [round, divided]

/-- When the only question is answered, its verdict decides about success. -/
theorem Round.Shows.succeeds_single {α β : Type} {poll : Poll α β}
    {read : HttpResponse → Except AcmeError α} {deadline : Instant} {found : α} {round : Round}
    {value : β} (shown : round.Shows read found) :
    Succeeds poll read deadline [round] value ↔ poll.verdict found = some (.ok value) := by
  -- What the round shows is determined, so its verdict is.
  simp only [succeeds_cons, succeeds_nil, and_false, or_false, true_and]
  constructor
  · intro succeeded
    obtain ⟨other, again, verdict⟩ := succeeded
    rwa [shown.unique again]
  · exact fun verdict => ⟨found, shown, verdict⟩

/-- An unsettled answer before the deadline is one more round in front of those of the loop. -/
theorem Polled.again {α β : Type} {poll : Poll α β} {pause : Duration} {deadline : Instant}
    {url : String} {read : HttpResponse → Except AcmeError α} {value : α} {time : Instant}
    {later : History} {outcome : Except Stop β}
    (polled : Polled poll account url read deadline later outcome)
    (question : Asks lib account url [] read trace (.ok value))
    (unsettled : poll.verdict value = none) (early : time < deadline) :
    Polled poll account url read deadline (trace ++ clocked time :: slept pause :: later)
      outcome := by
  obtain ⟨round, posts, shown, readings, divided⟩ := question.shown [time] (rounds later)
  have whole := divided (clocked time :: slept pause :: later) (by simp [polled.unread, rounds])
  -- The first round has one look at the clock, and the others stay as they are.
  have more : rounds (trace ++ clocked time :: slept pause :: later) = round :: rounds later := by
    simp only [rounds, whole]
  -- It shows a resource that is not settled, early enough.
  have opened : round.Open read poll.Unsettled deadline :=
    ⟨value, time, shown, unsettled, readings, early⟩
  refine
    { unread := by simp [whole]
      asks := by
        rw [more]
        exact List.forall_mem_cons.mpr ⟨posts, polled.asks⟩
      succeeds := ?_
      lapses := ?_
      unsent := by simp [more] }
  · -- What this question shows is no success, so another question has to show one.
    intro result
    have open_ended : ∀ found, round.Shows read found → poll.verdict found ≠ some (.ok result) := by
      intro found again verdict
      obtain rfl := shown.unique again
      rw [unsettled] at verdict
      cases verdict
    rw [more, succeeds_cons, polled.succeeds result]
    constructor
    · exact fun succeeded => .inr ⟨opened, succeeded⟩
    · intro either
      rcases either with ⟨_, found, again, verdict⟩ | ⟨_, succeeded⟩
      · -- The first question is no success.
        exact absurd verdict (open_ended found again)
      · exact succeeded
  · -- The last round of the loop is the last round of all.
    intro text lapsed
    rcases polled.lapses text lapsed with failed | ⟨earlier, last, split, late⟩
    · -- The failed request is still the last one.
      left
      simpa using failed.after (trace ++ [clocked time, slept pause])
    · exact .inr ⟨round :: earlier, last, by rw [more, split]; rfl, late⟩

/-- A question whose answer settles the matter is the only round, and its verdict the outcome. -/
theorem Asks.polled_settled {α β : Type} {poll : Poll α β} {deadline : Instant}
    {url : String} {read : HttpResponse → Except AcmeError α} {found : α}
    {outcome : Except AcmeError β} (asks : Asks lib account url [] read trace (.ok found))
    (settled : poll.verdict found = some outcome)
    (timely : ∀ text, poll.verdict found ≠ some (.error (.timeout text))) :
    Polled poll account url read deadline (trace ++ lettingGo poll.handle)
      (result outcome) := by
  -- The question makes one round, and the clock is not read after it.
  obtain ⟨round, posts, shown, _, divided⟩ := asks.shown [] []
  have whole := divided (lettingGo poll.handle) divide_lettingGo
  have one : rounds (trace ++ lettingGo poll.handle) = [round] := by simp [rounds, whole]
  refine
    { unread := by simp [whole]
      asks := by simpa [one] using posts
      succeeds := ?_
      lapses := ?_
      unsent := by simp [one] }
  · -- The verdict on what was found is the outcome.
    intro value
    rw [one, shown.succeeds_single, settled]
    cases outcome <;> simp
  · -- No verdict is a lapse of time.
    intro text lapsed
    cases outcome with
    | ok value => cases lapsed
    | error failure =>
      cases lapsed
      exact absurd settled (timely text)

/-- A question whose answer came too late is the only round, which lapses. -/
theorem Asks.polled_expired {α β : Type} {poll : Poll α β} {deadline time : Instant}
    {url : String} {read : HttpResponse → Except AcmeError α} {value : α}
    (asks : Asks lib account url [] read trace (.ok value))
    (unsettled : poll.verdict value = none) (expired : deadline ≤ time) :
    Polled poll account url read deadline (trace ++ clocked time :: lettingGo poll.handle)
      (.error (.error (poll.late value)) : Except Stop β) := by
  -- The question makes one round, with the one reading in it.
  obtain ⟨round, posts, shown, readings, divided⟩ := asks.shown [time] []
  have whole := divided (clocked time :: lettingGo poll.handle) (by simp)
  have one : rounds (trace ++ clocked time :: lettingGo poll.handle) = [round] := by
    simp [rounds, whole]
  refine
    { unread := by simp [whole]
      asks := by simpa [one] using posts
      succeeds := ?_
      lapses := ?_
      unsent := by simp [one] }
  · -- An unsettled answer is no success.
    intro result
    rw [one, shown.succeeds_single, unsettled]
    simp
  · -- The answer came before a reading that is not before the deadline.
    intro text lapsed
    have named : poll.late value = .timeout text := by simpa using lapsed
    exact .inr ⟨[], round, one, value, time, shown, ⟨unsettled, named⟩, readings, expired⟩

/-- The rounds of a polling loop are its questions. -/
theorem Polling.polled {α β : Type} {poll : Poll α β} {pause : Duration} {deadline : Instant}
    {url : String} {read : HttpResponse → Except AcmeError α} {outcome : Except Stop β}
    (asked : ∀ {trace outcome}, poll.ask.Ends trace outcome →
      Asks lib account url [] read trace outcome)
    (foreign : ∀ text, Foreign read (.timeout text))
    (timely : ∀ value text, poll.verdict value ≠ some (.error (.timeout text)))
    (polling : Polling poll pause deadline trace outcome) :
    Polled poll account url read deadline trace outcome := by
  -- By induction on the rounds, the last of which decides how the loop ends.
  induction polling with
  | @failed trace stop question => exact (asked question).polled_failed foreign
  | settled question settled =>
    exact (asked question).polled_settled settled fun text => timely _ text
  | expired question unsettled expired =>
    exact (asked question).polled_expired unsettled expired
  | again question unsettled early rest ih => exact ih.again (asked question) unsettled early
  | cut =>
    -- Without a round nothing was asked, and nothing has ended.
    exact
      { unread := rfl
        asks := by simp [rounds, divide]
        succeeds := by simp [rounds, divide]
        lapses := by simp
        unsent := fun _ => ⟨.unfinished, rfl, .inr rfl⟩ }

end Acme
