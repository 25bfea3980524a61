import Acme.Proofs.OrderMachine

/-! When a run panics: a deadline that cannot be represented, or a key that cannot sign. -/

namespace Acme

open Interaction

/-- Every message can be signed with the key. -/
def CanSign (lib : Libraries) (key : AccountKey) : Prop :=
  ∀ message, lib.sign key message ≠ none

/-- No message can be signed with the key. -/
def CannotSign (lib : Libraries) (key : AccountKey) : Prop :=
  ∀ message, lib.sign key message = none

/-- Whether a message can be signed depends on the key alone, as the size of an RSA key does. -/
def Steady (lib : Libraries) (key : AccountKey) : Prop :=
  CanSign lib key ∨ CannotSign lib key

/-- Which payloads start a period of time, and how long it is. -/
abbrev Grants := Bytes → Duration → Prop

/-- The word to validate starts the time of a challenge. -/
def Challenge.grants (timeout : Duration) : Grants :=
  fun payload time => payload = Challenge.kickPayload ∧ time = timeout

/-- A certificate request starts the time of an order. -/
def Certificate.grants (lib : Libraries) (timeout : Duration) : Grants :=
  fun payload time => (∃ csrDer, payload = Certificate.csrPayload lib csrDer) ∧ time = timeout

/-- What starts the time of a challenge or of an order in an issuance. -/
def IssueRequest.grants (lib : Libraries) (request : IssueRequest) : Grants :=
  fun payload time => Challenge.grants request.challengeTimeout payload time ∨
    Certificate.grants lib request.finalizeTimeout payload time

/-- The period that a round starts ends at a representable instant. -/
def Round.Fits (lib : Libraries) (grants : Grants) (round : Round) : Prop :=
  ∀ payload time, Carries round.body payload → grants payload time →
    ∀ start ∈ round.readings, start + time.nanos ≤ lib.instantMax

/-- Every period that is started in a run ends at a representable instant. -/
def Fits (lib : Libraries) (grants : Grants) (trace : History) : Prop :=
  ∀ round ∈ rounds trace, round.Fits lib grants

/-- The run panicked. -/
def Panicked {α : Type} (outcome : Except Stop α) : Prop :=
  ∃ message, outcome = .error (.panic message)

/-- A part of a run that starts with a POST, and panics exactly when a period has no end. -/
structure Timed {α : Type} (lib : Libraries) (grants : Grants) (trace : History)
    (outcome : Except Stop α) : Prop where
  closed : (divide trace).1 = []
  panics : ¬ Panicked outcome ↔ Fits lib grants trace

/-- Whether a run panics is decided by its deadlines, or by its nonces when the key cannot sign. -/
structure Diagnosed {α : Type} (lib : Libraries) (key : AccountKey) (grants : Grants)
    (trace : History) (outcome : Except Stop α) : Prop where
  signing : CanSign lib key → (¬ Panicked outcome ↔ Fits lib grants trace)
  mute : CannotSign lib key → (¬ Panicked outcome ↔ ∀ nonce, popped (some nonce) ∉ trace)

variable {lib : Libraries} {account : Account} {trace : History} {grants : Grants}

/-- Behind a part that starts with a POST, the rounds of both parts follow each other. -/
theorem divide_append_closed {later : History} (closed : (divide later).1 = []) :
    divide (trace ++ later) = ((divide trace).1, rounds trace ++ rounds later) := by
  -- The first part has its own rounds, as no reading of the second belongs to them.
  unfold rounds
  induction trace with
  | nil => exact Prod.ext closed rfl
  | cons event trace ih =>
    obtain ⟨call, answer⟩ := event
    have step : ∀ rest, divide (⟨call, answer⟩ :: rest) = addEvent ⟨call, answer⟩ (divide rest) :=
      fun _ => rfl
    rw [List.cons_append, step, ih, step]
    cases call <;> rfl

/-- A period can be granted up to the last representable instant. -/
theorem representable_iff {start : Instant} {timeout : Duration} :
    (∃ deadline, deadlineAfter lib start timeout = .ok deadline) ↔
      start + timeout.nanos ≤ lib.instantMax := by
  -- This is the guard of the addition.
  unfold deadlineAfter
  by_cases fits : start + timeout.nanos ≤ lib.instantMax <;> simp [fits]

/-- A result is no panic. -/
@[simp] theorem not_panicked_ok {α : Type} {value : α} :
    ¬ Panicked (.ok value : Except Stop α) := by
  simp [Panicked]

/-- A failure of the client is no panic. -/
@[simp] theorem not_panicked_error {α : Type} {failure : AcmeError} :
    ¬ Panicked (.error (.error failure) : Except Stop α) := by
  simp [Panicked]

/-- A run that is cut short is no panic. -/
@[simp] theorem not_panicked_unfinished {α : Type} :
    ¬ Panicked (.error .unfinished : Except Stop α) := by
  simp [Panicked]

/-- A panic is the same whatever was to be computed. -/
theorem panicked_error {α β : Type} {stop : Stop} :
    Panicked (.error stop : Except Stop α) ↔ Panicked (.error stop : Except Stop β) := by
  simp [Panicked]

/-- Where nothing is sent and the clock is not read, nothing is granted. -/
theorem timed_silent {α : Type} {outcome : Except Stop α} (still : divide trace = ([], []))
    (calm : ¬ Panicked outcome) : Timed lib grants trace outcome where
  closed := by rw [still]
  panics := iff_of_true calm (by simp [Fits, rounds, still])

/-- What follows a part that succeeded decides whether both of them panic. -/
theorem Timed.append {α β : Type} {value : α} {later : History} {outcome : Except Stop β}
    (first : Timed lib grants trace (.ok value : Except Stop α))
    (second : Timed lib grants later outcome) : Timed lib grants (trace ++ later) outcome where
  closed := by rw [divide_append_closed second.closed, first.closed]
  panics := by
  -- A part that succeeded did not panic, so its periods fit.
    have both : rounds (trace ++ later) = rounds trace ++ rounds later := by
      rw [rounds, divide_append_closed second.closed]
    rw [second.panics, Fits, Fits, both, List.forall_mem_append]
    exact ⟨fun rest => ⟨first.panics.mp not_panicked_ok, rest⟩, And.right⟩

/-- What is made of a result afterwards without a call does not matter, unless it is a panic. -/
theorem Timed.closing {α β : Type} {value : α} {outcome : Except Stop β}
    (first : Timed lib grants trace (.ok value : Except Stop α)) (calm : ¬ Panicked outcome) :
    Timed lib grants trace outcome :=
  ⟨first.closed, iff_of_true calm (first.panics.mp not_panicked_ok)⟩

/-- An event that is neither a POST nor a reading of the clock changes nothing. -/
theorem Timed.cons {α : Type} {event : Event calls} {outcome : Except Stop α}
    (still : ∀ rest, addEvent event rest = rest) (rest : Timed lib grants trace outcome) :
    Timed lib grants (event :: trace) outcome := by
  -- The event is neither a POST nor a reading of the clock.
  have same : divide (event :: trace) = divide trace := still _
  exact ⟨by rw [same, rest.closed], by rw [rest.panics, Fits, Fits, rounds, rounds, same]⟩

/-- Nothing is granted after a part that failed, whatever was to be computed. -/
theorem Timed.before {α β : Type} {stop : Stop} {later : History}
    (first : Timed lib grants trace (.error stop : Except Stop α))
    (still : divide later = ([], [])) :
    Timed lib grants (trace ++ later) (.error stop : Except Stop β) := by
  -- The rounds are those of the first part.
  have same : divide (trace ++ later) = divide trace := by
    rw [divide_append, still]
    rfl
  refine ⟨by rw [same, first.closed], ?_⟩
  rw [← panicked_error.not, first.panics, Fits, Fits, rounds, rounds, same]

/-- A part that failed fails for whatever was to be computed. -/
theorem Timed.failed {α β : Type} {stop : Stop}
    (first : Timed lib grants trace (.error stop : Except Stop α)) :
    Timed lib grants trace (.error stop : Except Stop β) := by
  have longer : Timed lib grants (trace ++ []) (.error stop : Except Stop β) := first.before rfl
  rwa [List.append_nil] at longer

/-- A signed request is one round without readings, or none. -/
theorem Reads.divided {α : Type} {store : ReplayNonceStore} {sign : String → Except Stop Bytes}
    {url : String} {read : HttpResponse → Except AcmeError α} {outcome : Except Stop α}
    (reads : Reads store sign url read trace outcome) :
    divide trace = ([], []) ∨ ∃ body answer, divide trace = ([], [⟨url, body, answer, []⟩]) := by
  -- The one POST of the request is its only round.
  have unread := reads.clocks
  obtain ⟨exchanged, run, _⟩ := reads
  rw [← List.append_nil trace]
  rcases run.one_post with ⟨silent, _⟩ | ⟨_, body, answer, _, sent, _⟩
  · exact .inl (divide_silent unread silent)
  · exact .inr ⟨body, answer, divide_posted unread sent⟩

/-- Obtaining a nonce never panics. -/
theorem GetRun.calm {url : String} {outcome : Except Stop String}
    (run : GetRun url trace outcome) : ¬ Panicked outcome := by
  -- The store fails with errors of the transport and with its own error.
  cases run <;> simp [noNonce]

/-- A nonce is obtained exactly when one is taken out of the pool. -/
theorem GetRun.taken {url : String} {outcome : Except Stop String}
    (run : GetRun url trace outcome) :
    (∃ nonce, outcome = .ok nonce) ↔ ∃ nonce, popped (some nonce) ∈ trace := by
  -- Every way to a nonce ends in taking it.
  cases run <;> simp [pushes]

/-- A request that can be signed does not panic. -/
theorem Reads.calm {α : Type} {store : ReplayNonceStore} {sign : String → Except Stop Bytes}
    {url : String} {read : HttpResponse → Except AcmeError α} {outcome : Except Stop α}
    (signs : ∀ nonce, ∃ body, sign nonce = .ok body)
    (reads : Reads store sign url read trace outcome) : ¬ Panicked outcome := by
  obtain ⟨exchanged, run, rfl⟩ := reads
  cases run with
  | noNonce obtained => exact panicked_error.not.mp obtained.calm
  | @unsigned trace nonce stop obtained refused =>
    obtain ⟨body, signed⟩ := signs nonce
    cases refused.symm.trans signed
  | undelivered failure obtained signed => exact not_panicked_error
  | answered answer obtained signed =>
    -- Reading a response fails with an error of the client.
    cases read_eq : read answer <;> simp [bind, Except.bind, read_eq]

/-- A request that cannot be signed fails, and panics exactly when a nonce was there for it. -/
theorem Reads.mute {α : Type} {store : ReplayNonceStore} {sign : String → Except Stop Bytes}
    {url : String} {read : HttpResponse → Except AcmeError α} {outcome : Except Stop α}
    (mute : ∀ nonce, ∃ message, sign nonce = .error (.panic message))
    (reads : Reads store sign url read trace outcome) :
    (∀ value, outcome ≠ .ok value) ∧
      (¬ Panicked outcome ↔ ∀ nonce, popped (some nonce) ∉ trace) := by
  -- With a nonce at hand the attempt to sign comes next, and panics.
  obtain ⟨exchanged, run, rfl⟩ := reads
  -- The library cannot sign, so that no body is ever made.
  have unsigned : ∀ {nonce body}, sign nonce ≠ .ok body := by
    intro nonce body signed
    obtain ⟨message, refused⟩ := mute nonce
    cases signed.symm.trans refused
  cases run with
  | noNonce obtained =>
    -- No nonce was taken, and the failure is no panic.
    have untaken := obtained.taken.not.mp (by simp)
    refine ⟨by simp [bind, Except.bind], iff_of_true (panicked_error.not.mp obtained.calm) ?_⟩
    exact fun nonce member => untaken ⟨nonce, member⟩
  | unsigned obtained refused =>
    -- The nonce was taken from the pool, and signing panics.
    have taken := obtained.taken.mp ⟨_, rfl⟩
    obtain ⟨message, panics⟩ := mute _
    refine ⟨by simp [bind, Except.bind], iff_of_false (not_not.mpr ⟨message, ?_⟩) ?_⟩
    · rw [Except.error.inj (refused.symm.trans panics)]
      rfl
    · exact fun untaken => taken.elim untaken
  | undelivered failure obtained signed => exact absurd signed unsigned
  | answered answer obtained signed => exact absurd signed unsigned

/-- A request that can be signed does not panic, and grants nothing by itself. -/
theorem Reads.timed {α : Type} {store : ReplayNonceStore} {sign : String → Except Stop Bytes}
    {url : String} {read : HttpResponse → Except AcmeError α} {outcome : Except Stop α}
    (signs : ∀ nonce, ∃ body, sign nonce = .ok body)
    (reads : Reads store sign url read trace outcome) : Timed lib grants trace outcome := by
  -- A round without readings starts no period.
  have calm := reads.calm signs
  rcases reads.divided with still | ⟨body, answer, one⟩
  · exact timed_silent still calm
  · exact ⟨by rw [one], iff_of_true calm (by simp [Fits, Round.Fits, rounds, one])⟩

/-- With a key that can sign, every request is signed. -/
theorem CanSign.signs {key : AccountKey} (signs : CanSign lib key) (payload : Bytes)
    (url nonce : String) (jwk : Option Json) (kid : Option String) :
    ∃ body, signJwsInner lib payload url nonce jwk kid key = .ok body := by
  -- The only way not to get a body is the failure of the signature.
  simp only [signJwsInner]
  split
  · exact absurd ‹_› (signs _)
  · exact ⟨_, rfl⟩

/-- With a key that cannot sign, every attempt to sign a request panics. -/
theorem CannotSign.panics {key : AccountKey} (mute : CannotSign lib key) (payload : Bytes)
    (url nonce : String) (jwk : Option Json) (kid : Option String) :
    ∃ message, signJwsInner lib payload url nonce jwk kid key = .error (.panic message) := by
  -- The branch in which there is a signature does not occur.
  simp only [signJwsInner]
  split
  · exact ⟨_, rfl⟩
  · rename_i signed
    cases (mute _).symm.trans signed

/-- A request in an account's name does not panic when its key can sign. -/
theorem Asks.calm {α : Type} {url : String} {payload : Bytes}
    {read : HttpResponse → Except AcmeError α} {outcome : Except Stop α}
    (signs : CanSign lib account.key) (asks : Asks lib account url payload read trace outcome) :
    ¬ Panicked outcome :=
  Reads.calm (fun nonce => signs.signs payload url nonce none (some account.kid)) asks

/-- A request in an account's name grants nothing by itself. -/
theorem Asks.timed {α : Type} {url : String} {payload : Bytes}
    {read : HttpResponse → Except AcmeError α} {outcome : Except Stop α}
    (signs : CanSign lib account.key) (asks : Asks lib account url payload read trace outcome) :
    Timed lib grants trace outcome :=
  Reads.timed (fun nonce => signs.signs payload url nonce none (some account.kid)) asks

/-- A request in an account's name fails when its key cannot sign. -/
theorem Asks.mute {α : Type} {url : String} {payload : Bytes}
    {read : HttpResponse → Except AcmeError α} {outcome : Except Stop α}
    (mute : CannotSign lib account.key)
    (asks : Asks lib account url payload read trace outcome) :
    (∀ value, outcome ≠ .ok value) ∧
      (¬ Panicked outcome ↔ ∀ nonce, popped (some nonce) ∉ trace) :=
  Reads.mute (fun nonce => mute.panics payload url nonce none (some account.kid)) asks

/-- A polling loop does not panic when its questions do not. -/
theorem Polling.calm {α β : Type} {poll : Poll α β} {pause : Duration} {deadline : Instant}
    {outcome : Except Stop β}
    (asked : ∀ {trace outcome}, poll.ask.Ends trace outcome → ¬ Panicked outcome)
    (polling : Polling poll pause deadline trace outcome) : ¬ Panicked outcome := by
  -- The loop itself only fails with errors of the client.
  induction polling with
  | failed question => exact panicked_error.not.mp (asked question)
  | @settled trace value outcome question settled => cases outcome <;> simp
  | expired question unsettled expired => exact not_panicked_error
  | again question unsettled early rest ih => exact ih
  | cut => exact not_panicked_unfinished

/-- A polling loop does not panic when the key can sign, and grants nothing. -/
theorem Poll.Follows.timed {α β : Type} {poll : Poll α β} {machine : Machine α β}
    {pause : Duration} {deadline : Instant} {outcome : Except Stop β}
    (signs : CanSign lib account.key) (follows : poll.Follows machine lib account)
    (free : ∀ time, ¬ grants [] time) (polling : Polling poll pause deadline trace outcome) :
    Timed lib grants trace outcome := by
  have polled := follows.polled polling
  have calm := polling.calm fun question => (follows.asks question).calm signs
  refine ⟨polled.unread, iff_of_true calm ?_⟩
  -- Only questions are sent, and they carry nothing.
  intro round member payload time carries granted
  obtain ⟨_, nothing⟩ := polled.asks round member
  rw [carries.unique nothing] at granted
  exact absurd granted (free time)

/-- After an accepted submission, its period has to end at a representable instant. -/
theorem Asks.fits_iff {target : String} {payload : Bytes} {timeout : Duration}
    {start : Instant} {later : History}
    (asks : Asks lib account target payload (HttpResponse.accepted lib) trace (.ok ()))
    (granted : ∀ time, grants payload time ↔ time = timeout) (closed : (divide later).1 = []) :
    (divide (trace ++ clocked start :: later)).1 = [] ∧
      (Fits lib grants (trace ++ clocked start :: later) ↔
        start + timeout.nanos ≤ lib.instantMax ∧ Fits lib grants later) := by
  -- The submission is the first round, and its only reading is the start of the period.
  obtain ⟨submission, ⟨_, carries⟩, _, readings, divided⟩ := asks.shown [start] (rounds later)
  have whole := divided (clocked start :: later) (by simp [closed, rounds])
  have more : rounds (trace ++ clocked start :: later) = submission :: rounds later := by
    simp only [rounds, whole]
  refine ⟨by rw [whole], ?_⟩
  rw [Fits, more, List.forall_mem_cons]
  refine and_congr_left' ⟨fun fits => ?_, fun fits => ?_⟩
  · -- The submission itself starts a period that has to fit.
    exact fits payload timeout carries ((granted timeout).mpr rfl) start (by simp [readings])
  · intro content time carried given
    rw [carried.unique carries, granted] at given
    simp [readings, given, fits]

/-- After an accepted submission without a deadline, the run has panicked. -/
theorem Asks.timed_endless {α : Type} {target : String} {payload : Bytes} {timeout : Duration}
    {start : Instant} {stop : Stop} {later : History}
    (asks : Asks lib account target payload (HttpResponse.accepted lib) trace (.ok ()))
    (granted : ∀ time, grants payload time ↔ time = timeout)
    (overflow : deadlineAfter lib start timeout = .error stop) (still : divide later = ([], [])) :
    Timed lib grants (trace ++ clocked start :: later) (.error stop : Except Stop α) := by
  -- The reading after the submission is the one whose period has no end.
  obtain ⟨closed, fits_iff⟩ := asks.fits_iff granted (by rw [still] : (divide later).1 = [])
  obtain ⟨message, rfl⟩ := deadlineAfter_eq_error overflow
  refine ⟨closed, iff_of_false (not_not.mpr ⟨message, rfl⟩) fun fits => ?_⟩
  obtain ⟨deadline, representable⟩ := representable_iff.mpr (fits_iff.mp fits).1
  cases overflow.symm.trans representable

/-- After an accepted submission with a deadline, the polling loop decides. -/
theorem Asks.timed_polled {α : Type} {target : String} {payload : Bytes} {timeout : Duration}
    {start deadline : Instant} {outcome : Except Stop α} {later : History}
    (asks : Asks lib account target payload (HttpResponse.accepted lib) trace (.ok ()))
    (granted : ∀ time, grants payload time ↔ time = timeout)
    (representable : deadlineAfter lib start timeout = .ok deadline)
    (rest : Timed lib grants later outcome) :
    Timed lib grants (trace ++ clocked start :: later) outcome := by
  -- That there is a deadline says that the period has an end.
  obtain ⟨closed, fits_iff⟩ := asks.fits_iff granted rest.closed
  have fits := representable_iff.mp ⟨deadline, representable⟩
  refine ⟨closed, ?_⟩
  rw [rest.panics, fits_iff]
  exact ⟨fun others => ⟨fits, others⟩, And.right⟩

/-- Seeing a challenge through panics exactly when its period has no end. -/
theorem DriveRun.timed {url : String} {ready : Handle} {timeout pause : Duration}
    {outcome : Except Stop Unit} (signs : CanSign lib account.key)
    (granted : ∀ time, grants Challenge.kickPayload time ↔ time = timeout)
    (free : ∀ time, ¬ grants [] time)
    (run : DriveRun lib url account ready timeout pause trace outcome) :
    Timed lib grants trace outcome := by
  -- The word to validate is the only submission.
  have follows : (Challenge.poll lib url account ready timeout).Follows
      (Challenge.machine lib url) lib account := Challenge.poll_follows url ready timeout
  cases run with
  | unseen failure => exact timed_silent rfl not_panicked_error
  | unkicked asked => exact ((asked.timed signs).before rfl).cons fun _ => rfl
  | endless asked overflow =>
    exact (asked.timed_endless granted overflow rfl).cons fun _ => rfl
  | polled asked representable polling =>
    have polls := follows.timed signs free polling
    exact (asked.timed_polled granted representable polls).cons fun _ => rfl

/-- Finalizing an order panics exactly when its period has no end. -/
theorem FinalizeRun.timed {order : Order} {privateKey : CertificateKey} {timeout pause : Duration}
    {outcome : Except Stop Order} (signs : CanSign lib account.key)
    (granted : ∀ csrDer time, grants (Certificate.csrPayload lib csrDer) time ↔ time = timeout)
    (free : ∀ time, ¬ grants [] time)
    (run : FinalizeRun lib order privateKey account timeout pause trace outcome) :
    Timed lib grants trace outcome := by
  -- The certificate request is the only submission.
  cases run with
  | unbuilt failure => exact timed_silent rfl not_panicked_error
  | unsubmitted built asked => exact (asked.timed signs).failed
  | endless built asked overflow => exact asked.timed_endless (granted _) overflow rfl
  | @polled _ _ csrDer start deadline _ built asked representable polling =>
    have polls := (Certificate.poll_follows order csrDer timeout).timed signs free polling
    exact asked.timed_polled (granted _) representable polls

/-- An authorization panics exactly when the period of its challenge has no end. -/
theorem SessionRun.timed {solvers : List ChallengeKind} {timeout : Duration} {url : String}
    {outcome : Except Stop Unit} (signs : CanSign lib account.key)
    (granted : ∀ time, grants Challenge.kickPayload time ↔ time = timeout)
    (free : ∀ time, ¬ grants [] time)
    (run : SessionRun lib account solvers timeout url trace outcome) :
    Timed lib grants trace outcome := by
  -- Fetching the authorization and arming the challenge start no period.
  cases run with
  | unfetched asked => exact (asked.timed signs).failed
  | valid asked => exact (asked.timed signs).closing not_panicked_ok
  | unmatched asked | tokenless asked => exact (asked.timed signs).closing not_panicked_error
  | unarmed failure asked =>
    exact (asked.timed signs).append (timed_silent rfl not_panicked_error)
  | driven asked _ _ _ driven =>
    exact (asked.timed signs).append ((driven.timed signs granted free).cons fun _ => rfl)

/-- Authorizations panic exactly when the period of one of their challenges has no end. -/
theorem SessionsRun.timed {solvers : List ChallengeKind} {timeout : Duration}
    {urls : List String} {sessions : List History} {outcome : Except Stop Unit}
    (signs : CanSign lib account.key)
    (granted : ∀ time, grants Challenge.kickPayload time ↔ time = timeout)
    (free : ∀ time, ¬ grants [] time)
    (run : SessionsRun lib account solvers timeout urls sessions outcome) :
    Timed lib grants sessions.flatten outcome := by
  -- By induction on the authorizations; those before the last one succeeded.
  induction run with
  | done => exact timed_silent rfl not_panicked_ok
  | stopped failed =>
    rw [List.flatten_cons]
    exact (SessionRun.timed signs granted free failed).before rfl
  | next succeeded rest ih =>
    rw [List.flatten_cons]
    exact (SessionRun.timed signs granted free succeeded).append ih

/-- Closing an order panics exactly when the period of the order has no end. -/
theorem ClosingRun.timed {request : IssueRequest} {order : Order} {outcome : Except Stop Bytes}
    (signs : CanSign lib account.key)
    (granted : ∀ csrDer time,
      grants (Certificate.csrPayload lib csrDer) time ↔ time = request.finalizeTimeout)
    (free : ∀ time, ¬ grants [] time)
    (run : ClosingRun lib request account order trace outcome) :
    Timed lib grants trace outcome := by
  -- The download that follows starts no period.
  cases run with
  | unfinalized finalizing => exact (finalizing.timed signs granted free).failed
  | finalized finalizing _ asked =>
    exact (finalizing.timed signs granted free).append (asked.timed signs)

/-- A certificate request is neither the word to validate nor an empty payload. -/
theorem csrPayload_ne {csrDer : Bytes} :
    Certificate.csrPayload lib csrDer ≠ Challenge.kickPayload ∧
      Certificate.csrPayload lib csrDer ≠ [] := by
  -- Reading the payloads back tells them apart.
  have submits := submittedCsr_csrPayload lib csrDer
  constructor
  · intro same
    rw [same, submittedCsr_kickPayload] at submits
    cases submits
  · intro same
    rw [same, submittedCsr_nil] at submits
    cases submits

/-- In an issuance the word to validate starts the time of a challenge. -/
theorem grants_kick {request : IssueRequest} {time : Duration} :
    request.grants lib Challenge.kickPayload time ↔ time = request.challengeTimeout := by
  -- The word to validate is no certificate request.
  have other : ∀ csrDer, Challenge.kickPayload ≠ Certificate.csrPayload lib csrDer :=
    fun csrDer => csrPayload_ne.1.symm
  simp [IssueRequest.grants, Challenge.grants, Certificate.grants, other]

/-- In an issuance a certificate request starts the time of the order. -/
theorem grants_csr {request : IssueRequest} {csrDer : Bytes} {time : Duration} :
    request.grants lib (Certificate.csrPayload lib csrDer) time ↔
      time = request.finalizeTimeout := by
  -- A certificate request is not the word to validate.
  have other : Certificate.csrPayload lib csrDer ≠ Challenge.kickPayload := csrPayload_ne.1
  simp [IssueRequest.grants, Challenge.grants, Certificate.grants, other]

/-- In an issuance a question starts nothing. -/
theorem grants_nothing {request : IssueRequest} {time : Duration} :
    ¬ request.grants lib [] time := by
  -- The empty payload is neither of the two.
  have kick : [] ≠ Challenge.kickPayload := by decide
  have other : ∀ csrDer, [] ≠ Certificate.csrPayload lib csrDer := fun csrDer => csrPayload_ne.2.symm
  simp [IssueRequest.grants, Challenge.grants, Certificate.grants, kick, other]

/-- Creating an account does not panic when its key can sign. -/
theorem create_timed {directory : Directory} {contact : List String} {key : AccountKey}
    {outcome : Except Stop Account} (signs : CanSign lib key)
    (registering : (Account.create lib directory contact true key).Ends trace outcome) :
    Timed lib grants trace outcome :=
  Reads.timed (fun nonce => signs.signs _ directory.newAccount nonce (some (key.publicJwk lib)) none)
    (create_run registering)

/-- Fetching the directory fails with an error of the client only. -/
theorem undirected_calm {answer : Except AcmeError HttpResponse} {stop : Stop}
    (fetched : (result answer >>= fun answer => result (Directory.read lib answer)) = .error stop) :
    ∃ failure, stop = .error failure := by
  -- The transport, the status and the parser all fail with errors of the client.
  cases answer with
  | error failure => exact ⟨failure, (Except.error.inj fetched).symm⟩
  | ok response =>
    cases read_eq : Directory.read lib response with
    | ok directory => simp [bind, Except.bind, read_eq] at fetched
    | error failure =>
      simp only [result_ok, bind, Except.bind, read_eq, result_error] at fetched
      exact ⟨failure, (Except.error.inj fetched).symm⟩

/-- An issuance panics exactly when one of its periods has no end. -/
theorem IssueRun.timed {request : IssueRequest} {outcome : Except Stop Bytes}
    (signs : CanSign lib request.accountKey) (run : IssueRun lib request trace outcome) :
    Timed lib (request.grants lib) trace outcome := by
  -- The parts follow each other, and each but the last one succeeded.
  cases run with
  | undirected fetched =>
    obtain ⟨failure, rfl⟩ := undirected_calm fetched
    exact timed_silent rfl not_panicked_error
  -- The account could not be made, for want of anything but a deadline.
  | unregistered fetched registering =>
    exact (create_timed signs registering).failed.cons fun _ => rfl
  | unordered fetched registered ordering =>
    -- The account signs with the key of the request, from here on.
    have key := key_of_create registered
    have registering : Timed lib (request.grants lib) _ _ := create_timed signs registered
    exact (registering.append (ordering.timed (key ▸ signs)).failed).cons fun _ => rfl
  -- An authorization has stopped the run, and the sessions account for the panic.
  | unauthorized fetched registered ordered authorizing =>
    have key := key_of_create registered
    have placed : Timed lib (request.grants lib) _ _ :=
      (create_timed signs registered).append (ordered.timed (key ▸ signs))
    have failing : Timed lib (request.grants lib) _ _ :=
      SessionsRun.timed (key ▸ signs) (fun _ => grants_kick) (fun _ => grants_nothing) authorizing
    exact (placed.append failing.failed).cons fun _ => rfl
  -- The finalization has readings of the clock as well.
  | authorized fetched registered ordered authorized closed =>
    have key := key_of_create registered
    have placed : Timed lib (request.grants lib) _ _ :=
      (create_timed signs registered).append (ordered.timed (key ▸ signs))
    have settled : Timed lib (request.grants lib) _ _ :=
      SessionsRun.timed (key ▸ signs) (fun _ => grants_kick) (fun _ => grants_nothing) authorized
    have closing : Timed lib (request.grants lib) _ _ :=
      closed.timed (key ▸ signs) (fun _ _ => grants_csr) fun _ => grants_nothing
    exact ((placed.append settled).append closing).cons fun _ => rfl

/-- With a key that cannot sign, a challenge panics exactly when a nonce was there for it. -/
theorem DriveRun.mute {url : String} {ready : Handle} {timeout pause : Duration}
    {outcome : Except Stop Unit} (mute : CannotSign lib account.key)
    (run : DriveRun lib url account ready timeout pause trace outcome) :
    ¬ Panicked outcome ↔ ∀ nonce, popped (some nonce) ∉ trace := by
  -- The word to validate is the first request, and it cannot be signed.
  cases run with
  | unseen failure => simp
  | unkicked asked => simpa using (asked.mute mute).2
  | endless asked => exact absurd rfl ((asked.mute mute).1 ())
  | polled asked => exact absurd rfl ((asked.mute mute).1 ())

/-- With a key that cannot sign, an order panics exactly when a nonce was there for it. -/
theorem FinalizeRun.mute {order : Order} {privateKey : CertificateKey} {timeout pause : Duration}
    {outcome : Except Stop Order} (mute : CannotSign lib account.key)
    (run : FinalizeRun lib order privateKey account timeout pause trace outcome) :
    ¬ Panicked outcome ↔ ∀ nonce, popped (some nonce) ∉ trace := by
  -- The certificate request is the first request, and it cannot be signed.
  cases run with
  | unbuilt failure => simp
  | unsubmitted built asked => exact panicked_error.not.trans (asked.mute mute).2
  | endless built asked => exact absurd rfl ((asked.mute mute).1 ())
  | polled built asked => exact absurd rfl ((asked.mute mute).1 ())

/-- With a key that cannot sign, no account is created. -/
theorem create_mute {directory : Directory} {contact : List String} {key : AccountKey}
    {outcome : Except Stop Account} (mute : CannotSign lib key)
    (registering : (Account.create lib directory contact true key).Ends trace outcome) :
    (∀ value, outcome ≠ .ok value) ∧
      (¬ Panicked outcome ↔ ∀ nonce, popped (some nonce) ∉ trace) :=
  Reads.mute (fun nonce => mute.panics _ directory.newAccount nonce (some (key.publicJwk lib)) none)
    (create_run registering)

/-- With a key that cannot sign, an issuance panics exactly when a nonce was there for it. -/
theorem IssueRun.mute {request : IssueRequest} {outcome : Except Stop Bytes}
    (mute : CannotSign lib request.accountKey) (run : IssueRun lib request trace outcome) :
    ¬ Panicked outcome ↔ ∀ nonce, popped (some nonce) ∉ trace := by
  cases run with
  | undirected fetched =>
    obtain ⟨failure, rfl⟩ := undirected_calm fetched
    simp
  | unregistered fetched registering =>
    simpa using panicked_error.not.trans (create_mute mute registering).2
  | unordered fetched registered | unauthorized fetched registered
  | authorized fetched registered =>
    -- Only a signed request creates an account.
    exact absurd rfl ((create_mute mute registered).1 _)

/-- Whether either driver or the whole issuance panics is decided by its deadlines and its key. -/
theorem panics_diagnosed {fuel : Nat} :
    (∀ url ready timeout pollInterval outcome,
      (Challenge.pollChallengeWithInterval lib fuel url account ready timeout pollInterval).Ends
        trace outcome →
      Diagnosed lib account.key (Challenge.grants timeout) trace outcome) ∧
    (∀ order privateKey timeout pollInterval outcome,
      (Certificate.finalizeWithIntervals lib fuel order privateKey account timeout
        pollInterval).Ends trace outcome →
      Diagnosed lib account.key (Certificate.grants lib timeout) trace outcome) ∧
    ∀ request outcome, (issueCertificateWithTimeouts lib fuel request).Ends trace outcome →
      Diagnosed lib request.accountKey (request.grants lib) trace outcome := by
  -- For each operation, its payloads are matched with the periods they start.
  refine ⟨fun url ready timeout pollInterval outcome run => ?_,
    fun order privateKey timeout pollInterval outcome run => ?_, fun request outcome run => ?_⟩
  · -- The word to validate starts the period of the challenge.
    have kick : ∀ time, Challenge.grants timeout Challenge.kickPayload time ↔ time = timeout := by
      simp [Challenge.grants]
    have free : ∀ time, ¬ Challenge.grants timeout [] time := by
      have empty : [] ≠ Challenge.kickPayload := by decide
      simp [Challenge.grants, empty]
    exact ⟨fun signs => ((drive_run run).timed signs kick free).panics, (drive_run run).mute⟩
  · -- The certificate request starts the period of the order.
    have submission : ∀ csrDer time,
        Certificate.grants lib timeout (Certificate.csrPayload lib csrDer) time ↔
          time = timeout := by
      simp [Certificate.grants]
    have free : ∀ time, ¬ Certificate.grants lib timeout [] time := by
      have empty : ∀ csrDer, [] ≠ Certificate.csrPayload lib csrDer :=
        fun csrDer => csrPayload_ne.2.symm
      simp [Certificate.grants, empty]
    exact ⟨fun signs => ((finalize_run run).timed signs submission free).panics,
      (finalize_run run).mute⟩
  · -- An issuance starts a period for each of them.
    exact ⟨fun signs => ((issue_run run).timed signs).panics, (issue_run run).mute⟩

/-- A challenge that may take as long as it wants. -/
def limitlessChallenge : History × Except Stop Unit :=
  play [answering 200 "n0" [] "", answering 200 "n1" [] ""]
    (Challenge.pollChallengeWithInterval sampleLibraries 2 "ca/chall/1" sampleAccount 1
      Duration.max (Duration.fromSecs 2))

/-- An issuance whose order may take as long as it wants. -/
def limitlessIssuance : History × Except Stop Bytes :=
  play issueScript (issueCertificateWithTimeouts sampleLibraries 2
    { sampleRequest with finalizeTimeout := Duration.max })

/-- The one panics once the authority was told to validate, the other after its request. -/
theorem limitless_panics :
    ((Challenge.pollChallengeWithInterval sampleLibraries 2 "ca/chall/1" sampleAccount 1
        Duration.max (Duration.fromSecs 2)).Ends limitlessChallenge.1 limitlessChallenge.2 ∧
      (posts limitlessChallenge.1).length = 1 ∧ Panicked limitlessChallenge.2) ∧
    (issueCertificateWithTimeouts sampleLibraries 2
        { sampleRequest with finalizeTimeout := Duration.max }).Ends limitlessIssuance.1
          limitlessIssuance.2 ∧
      (posts limitlessIssuance.1).length = 7 ∧ Panicked limitlessIssuance.2 :=
  -- Each run is evaluated, and has come to its panic.
  ⟨⟨play_ends _ _, by decide +kernel, "overflow when adding duration to instant",
      by decide +kernel⟩,
    play_ends _ _, by decide +kernel, "overflow when adding duration to instant",
      by decide +kernel⟩

/-- Those panics are diagnosed: the deadlines cannot be represented. -/
theorem panics_diagnosed_sample :
    Diagnosed sampleLibraries sampleAccount.key (Challenge.grants Duration.max)
        limitlessChallenge.1 limitlessChallenge.2 ∧
      Diagnosed sampleLibraries sampleKey
        (IssueRequest.grants sampleLibraries { sampleRequest with finalizeTimeout := Duration.max })
        limitlessIssuance.1 limitlessIssuance.2 := by
  -- Both operations were played against a script.
  have drives : (Challenge.pollChallengeWithInterval sampleLibraries 2 "ca/chall/1" sampleAccount 1
      Duration.max (Duration.fromSecs 2)).Ends limitlessChallenge.1 limitlessChallenge.2 :=
    play_ends _ _
  have issues : (issueCertificateWithTimeouts sampleLibraries 2
      { sampleRequest with finalizeTimeout := Duration.max }).Ends limitlessIssuance.1
        limitlessIssuance.2 := play_ends _ _
  exact ⟨(@panics_diagnosed sampleLibraries sampleAccount limitlessChallenge.1 2).1 _ _ _ _ _ drives,
    (@panics_diagnosed sampleLibraries sampleAccount limitlessIssuance.1 2).2.2 _ _ issues⟩

end Acme
