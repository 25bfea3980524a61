import Acme.Proofs.Driving
import Acme.Proofs.ScriptedAuthority

/-! Seeing an armed challenge through follows the machine: one word to validate, then polls. -/

namespace Acme

open Interaction

/-- A status that is neither of the two final ones. -/
def Undecided (status : String) : Prop :=
  status ≠ "valid" ∧ status ≠ "invalid"

/-- A challenge as a machine: the authority is told to validate it, and asked about it. -/
def Challenge.machine (lib : Libraries) (url : String) : Machine Challenge Unit where
  target := url
  payload := Challenge.kickPayload
  url := url
  read := Challenge.read lib
  undecided seen := Undecided seen.status
  accepts seen _ := seen.status = "valid"

variable {lib : Libraries} {account : Account} {trace : History}

/-- Only the word `valid` stands for a valid challenge. -/
theorem Challenge.statusEnum_eq_valid {challenge : Challenge} :
    challenge.statusEnum = .valid ↔ challenge.status = "valid" := by
  unfold statusEnum ChallengeStatus.fromWire
  split <;> simp_all

/-- Only the word `invalid` stands for an invalid challenge. -/
theorem Challenge.statusEnum_eq_invalid {challenge : Challenge} :
    challenge.statusEnum = .invalid ↔ challenge.status = "invalid" := by
  unfold statusEnum ChallengeStatus.fromWire
  split <;> simp_all

/-- There is no verdict on a challenge exactly while its status is not final. -/
theorem Challenge.verdict_eq_none {challenge : Challenge} :
    challenge.verdict = none ↔ Undecided challenge.status := by
  -- The two words with a verdict are the two final ones.
  rw [Undecided, ← not_or, ← Challenge.statusEnum_eq_valid, ← Challenge.statusEnum_eq_invalid]
  unfold verdict
  cases challenge.statusEnum <;> simp

/-- The verdict on a challenge is a success exactly when it is valid. -/
theorem Challenge.verdict_eq_ok {challenge : Challenge} {value : Unit} :
    challenge.verdict = some (.ok value) ↔ challenge.status = "valid" := by
  -- Of the verdicts only that on a valid challenge is a success.
  rw [← Challenge.statusEnum_eq_valid]
  unfold verdict
  cases challenge.statusEnum <;> simp

/-- A challenge is polled as its machine says. -/
theorem Challenge.poll_follows (url : String) (ready : Handle) (timeout : Duration) :
    (Challenge.poll lib url account ready timeout).Follows (Challenge.machine lib url) lib
      account where
  asked := rfl
  undecided _ := Challenge.verdict_eq_none
  accepts _ _ := Challenge.verdict_eq_ok
  foreign text := foreign_ok_bind fun answer => by
    -- A body that is no challenge is an error of its own.
    cases parsed : lib.parseChallenge answer.body <;> simp [Except.mapError]
  timely found text := by
    simp only [Challenge.poll, Challenge.verdict]
    -- A challenge in a final state is never late.
    cases found.statusEnum <;> simp

/-- A challenge that is polled at all is polled once before the run can be cut short. -/
theorem Poll.loop_started {α β : Type} {poll : Poll α β} {pause : Duration} {deadline : Instant}
    {fuel : Nat} {url : String} {read : HttpResponse → Except AcmeError α}
    (asked : poll.ask = question lib account url read)
    (run : (poll.loop pause deadline (fuel + 1)).Ends trace (.error .unfinished)) :
    rounds trace ≠ [] := by
  have uncut : Uncut poll.ask := by
    rw [asked]
    exact uncut_question lib account url read
  rcases Poll.loop_succ uncut run with ⟨_, finished⟩ |
    ⟨questioned, value, time, later, rfl, ended, _⟩
  · exact absurd rfl finished
  · -- The answer to the first question came with a round.
    rw [asked] at ended
    obtain ⟨round, _, _, _, divided⟩ := (asks_run ended).shown (time :: (divide later).1)
      (divide later).2
    simp [rounds, divided (clocked time :: slept pause :: later) (by simp)]

/-- When its response is not seen an armed challenge is given up, and otherwise the machine runs. -/
theorem machine_of_challenge {fuel : Nat} {url : String} {ready : Handle}
    {timeout pollInterval : Duration} {outcome : Except Stop Unit}
    (run : (Challenge.pollChallengeWithInterval lib (fuel + 1) url account ready timeout
      pollInterval).Ends trace outcome) :
    (∃ failure, trace = [checked ready (.error failure), dropped ready] ∧
        outcome = .error (.error failure)) ∨
      ∃ rest, trace = checked ready (.ok ()) :: rest ∧
        (Challenge.machine lib url).Runs account timeout rest outcome := by
  -- The first call is the check; all that follows it is the business of the machine.
  have follows : (Challenge.poll lib url account ready timeout).Follows
      (Challenge.machine lib url) lib account := Challenge.poll_follows url ready timeout
  rcases drive_loop run with ⟨ended, uncut⟩ |
    ⟨kick, start, deadline, later, rfl, asked, representable, rest⟩
  · cases ended with
    | unseen failure => exact .inl ⟨failure, rfl, rfl⟩
    | unkicked asked => exact .inr ⟨_, rfl, Machine.runs_unsubmitted asked rfl rfl⟩
    | endless asked overflow => exact .inr ⟨_, rfl, Machine.runs_endless asked overflow rfl⟩
    | polled asked representable polling =>
      exact .inr ⟨_, rfl, Machine.runs_polled follows asked representable polling
        fun cut => absurd cut uncut⟩
  · -- A run that is cut short was polling.
    have polling := Poll.loop_run (uncut_question lib account url (Challenge.read lib)) rest
    exact .inr ⟨_, rfl, Machine.runs_polled follows asked representable polling
      fun cut => Poll.loop_started rfl (cut ▸ rest)⟩

/-- An armed challenge is checked first, and only when it is seen the machine runs. -/
theorem challenge_follows_machine {fuel : Nat} {url : String} {ready : Handle}
    {timeout pollInterval : Duration} {outcome : Except Stop Unit}
    (run : (Challenge.pollChallengeWithInterval lib (fuel + 1) url account ready timeout
      pollInterval).Ends trace outcome) :
    ∃ seen rest, trace = checked ready seen :: rest ∧
      (∀ failure, seen = .error failure →
        requests rest = [] ∧ outcome = .error (.error failure)) ∧
      (seen = .ok () → (Challenge.machine lib url).Runs account timeout rest outcome) := by
  rcases machine_of_challenge run with ⟨failure, rfl, rfl⟩ | ⟨rest, rfl, runs⟩
  · -- What follows a failed check is the end of the handle.
    exact ⟨_, _, rfl, by simp [requests, reply], by simp⟩
  · exact ⟨_, rest, rfl, by simp, fun _ => runs⟩

/-- An armed challenge that an authority validates at the second look. -/
def validatedChallenge : History × Except Stop Unit :=
  play [answering 200 "n0" [] "", answering 200 "n1" [] "",
      answering 200 "n2" [] (challengeText "processing"),
      answering 200 "n3" [] (challengeText "valid")]
    (Challenge.pollChallengeWithInterval sampleLibraries 2 "ca/chall/1" sampleAccount 1
      (Duration.fromSecs 60) (Duration.fromSecs 2))

/-- That challenge follows the machine. -/
theorem challenge_follows_machine_sample :
    ∃ seen rest, validatedChallenge.1 = checked 1 seen :: rest ∧
      (∀ failure, seen = .error failure →
        requests rest = [] ∧ validatedChallenge.2 = .error (.error failure)) ∧
      (seen = .ok () → (Challenge.machine sampleLibraries "ca/chall/1").Runs sampleAccount
        (Duration.fromSecs 60) rest validatedChallenge.2) :=
  challenge_follows_machine (play_ends _ _)

/-- An armed challenge whose response is seen, while the transport only reports lapses of time. -/
def lapsedChallenge : History × Except Stop Unit :=
  play [.error (.timeout "connect")]
    (Challenge.pollChallengeWithInterval sampleLibraries 2 "ca/chall/1" sampleAccount 1
      (Duration.fromSecs 60) (Duration.fromSecs 2))

/-- The authority is not told to validate it, nothing is polled, and yet a lapse is reported. -/
theorem lapse_before_validation :
    (Challenge.pollChallengeWithInterval sampleLibraries 2 "ca/chall/1" sampleAccount 1
        (Duration.fromSecs 60) (Duration.fromSecs 2)).Ends lapsedChallenge.1 lapsedChallenge.2 ∧
      checked 1 (.ok ()) ∈ lapsedChallenge.1 ∧ posts lapsedChallenge.1 = [] ∧
      lapsedChallenge.2 = .error (.error (.timeout "connect")) :=
  ⟨play_ends _ _, by decide +kernel, by decide +kernel, by decide +kernel⟩

end Acme
