import Acme.Proofs.ChallengeMachine
import Acme.Proofs.Provenance

/-! Which solver is armed for an authorization, and with what. -/

namespace Acme

open Interaction

/-- The solver and the challenge that go together: the first solver whose kind is offered, and
the first challenge of that kind. -/
structure Selected (challenges : List Challenge) (solvers : List ChallengeKind) (position : Nat)
    (challenge : Challenge) : Prop where
  /-- The challenge is of the solver's kind. -/
  fits : solvers[position]? = some challenge.kind
  /-- The kind of no earlier solver is offered. -/
  earliest : ∀ earlier kind, earlier < position → solvers[earlier]? = some kind →
    ∀ other ∈ challenges, other.kind ≠ kind
  /-- No challenge in front of it is of that kind. -/
  first : ∃ before behind, challenges = before ++ challenge :: behind ∧
    ∀ other ∈ before, other.kind ≠ challenge.kind

/-- No solver's kind is offered. -/
def Unmatched (challenges : List Challenge) (solvers : List ChallengeKind) : Prop :=
  ∀ kind ∈ solvers, ∀ challenge ∈ challenges, challenge.kind ≠ kind

/-- Among the challenges, the first one of a kind is found. -/
theorem find_kind_iff {challenges : List Challenge} {kind : ChallengeKind}
    {challenge : Challenge} :
    challenges.find? (fun c => c.kind = kind) = some challenge ↔
      challenge.kind = kind ∧ ∃ before behind, challenges = before ++ challenge :: behind ∧
        ∀ other ∈ before, other.kind ≠ kind := by
  rw [List.find?_eq_some_iff_append]
  simp

/-- A kind is not found when it is not offered. -/
theorem find_kind_eq_none {challenges : List Challenge} {kind : ChallengeKind} :
    challenges.find? (fun c => c.kind = kind) = none ↔
      ∀ challenge ∈ challenges, challenge.kind ≠ kind := by
  rw [List.find?_eq_none]
  simp

/-- The search finds nothing exactly when no solver fits. -/
theorem findSolver_eq_none {challenges : List Challenge} {solvers : List ChallengeKind}
    {start : Nat} : findSolver challenges solvers start = none ↔ Unmatched challenges solvers := by
  -- By induction on the solvers, which are tried in order.
  induction solvers generalizing start with
  | nil => simp [findSolver, Unmatched]
  | cons want rest ih =>
    unfold findSolver
    cases found : challenges.find? fun c => c.kind = want with
    | none =>
      have missing := find_kind_eq_none.mp found
      simp only [ih, Unmatched, List.forall_mem_cons]
      exact (and_iff_right missing).symm
    | some challenge =>
      simp only [reduceCtorEq, false_iff]
      -- With a challenge for the first solver there is a match.
      intro unmatched
      exact absurd (find_kind_eq_none.mpr (unmatched want List.mem_cons_self)) (by simp [found])

/-- When the first solver's kind is not offered, the selection is that of the others. -/
theorem selected_cons_missing {challenges : List Challenge} {want : ChallengeKind}
    {rest : List ChallengeKind} {position : Nat} {challenge : Challenge}
    (missing : ∀ other ∈ challenges, other.kind ≠ want) :
    Selected challenges (want :: rest) position challenge ↔
      ∃ later, position = later + 1 ∧ Selected challenges rest later challenge := by
  constructor
  · intro selected
    cases position with
    | zero =>
      -- The challenge would be of the kind that is not offered.
      have same : want = challenge.kind := Option.some.inj selected.fits
      obtain ⟨before, behind, split, _⟩ := selected.first
      exact absurd same.symm (missing challenge (by simp [split]))
    -- The first solver plays no part, so its place can be left out.
    | succ later =>
      refine ⟨later, rfl, selected.fits, ?_, selected.first⟩
      intro earlier kind early
      exact selected.earliest (earlier + 1) kind (Nat.succ_lt_succ early)
  · rintro ⟨later, same, selected⟩
    subst same
    refine ⟨selected.fits, ?_, selected.first⟩
    intro earlier kind early found
    cases earlier with
    -- The first solver is for the kind that is not offered.
    | zero => exact Option.some.inj found ▸ missing
    | succ earlier => exact selected.earliest earlier kind (Nat.lt_of_succ_lt_succ early) found

/-- When the first solver's kind is offered, it is selected, with the first such challenge. -/
theorem selected_cons_offered {challenges : List Challenge} {want : ChallengeKind}
    {rest : List ChallengeKind} {position : Nat} {offered challenge : Challenge}
    (found : challenges.find? (fun c => c.kind = want) = some offered) :
    Selected challenges (want :: rest) position challenge ↔
      position = 0 ∧ challenge = offered := by
  obtain ⟨kind, first⟩ := find_kind_iff.mp found
  constructor
  · intro selected
    cases position with
    | zero =>
      have same : want = challenge.kind := Option.some.inj selected.fits
      -- The challenge is the first one of its kind, as is the one that was found.
      have also := find_kind_iff.mpr ⟨same.symm, same ▸ selected.first⟩
      rw [found] at also
      exact ⟨rfl, (Option.some.inj also).symm⟩
    | succ later =>
      -- The kind of the first solver is offered, so no later one is selected.
      have absent := selected.earliest 0 want (Nat.succ_pos _) rfl
      rw [find_kind_eq_none.mpr absent] at found
      cases found
  · -- No solver stands before the first one.
    rintro ⟨place, same⟩
    subst place same
    refine ⟨congrArg some kind.symm, fun _ _ early => absurd early (Nat.not_lt_zero _), ?_⟩
    rw [kind]
    exact first

/-- The search finds the solver and the challenge that go together. -/
theorem findSolver_eq_some {challenges : List Challenge} {solvers : List ChallengeKind}
    {start index : Nat} {challenge : Challenge} :
    findSolver challenges solvers start = some (index, challenge) ↔
      ∃ position, index = start + position ∧ Selected challenges solvers position challenge := by
  -- By induction on the solvers; the first one is taken when its kind is offered.
  induction solvers generalizing start with
  | nil =>
    constructor
    · intro found
      cases found
    · rintro ⟨position, _, selected⟩
      cases selected.fits
  | cons want rest ih =>
    unfold findSolver
    cases found : challenges.find? fun c => c.kind = want with
    -- The first solver is taken, with the first challenge of its kind.
    | some offered => simp [selected_cons_offered found, eq_comm]
    -- It is passed over, and the search goes on behind it.
    | none =>
      simp only [ih, selected_cons_missing (find_kind_eq_none.mp found)]
      constructor
      · rintro ⟨position, place, selected⟩
        exact ⟨position + 1, by omega, position, rfl, selected⟩
      · rintro ⟨_, place, later, same, selected⟩
        exact ⟨later, by omega, selected⟩

/-- The client picks the solver and the challenge that go together, or reports that none do. -/
theorem picked_cases (lib : Libraries) (authz : Authorization) (solvers : List ChallengeKind) :
    (∃ position challenge, Selected authz.challenges solvers position challenge ∧
        pickSolverAndChallenge lib authz solvers = .ok (position, challenge)) ∨
      (Unmatched authz.challenges solvers ∧ ∃ text,
        pickSolverAndChallenge lib authz solvers = .error (.unsupportedIdentifier text)) := by
  unfold pickSolverAndChallenge
  cases found : findSolver authz.challenges solvers 0 with
  -- No solver has been found for any challenge.
  | none => exact .inr ⟨findSolver_eq_none.mp found, _, rfl⟩
  | some choice =>
    obtain ⟨index, challenge⟩ := choice
    obtain ⟨position, place, selected⟩ := findSolver_eq_some.mp found
    -- The search has started to count from zero.
    obtain rfl : index = position := by omega
    exact .inl ⟨index, challenge, selected, rfl⟩

/-- A solver and a challenge are found exactly when a solver handles some challenge's kind. -/
theorem pickSolverAndChallenge_ok_iff {lib : Libraries} {authz : Authorization}
    {solvers : List ChallengeKind} :
    (∃ picked, pickSolverAndChallenge lib authz solvers = .ok picked) ↔
      ∃ challenge ∈ authz.challenges, challenge.kind ∈ solvers := by
  rcases picked_cases lib authz solvers with ⟨position, challenge, selected, picked⟩ |
    ⟨unmatched, text, picked⟩
  · -- What is selected is offered, and its solver was brought.
    obtain ⟨before, behind, split, _⟩ := selected.first
    have offered : challenge ∈ authz.challenges := by simp [split]
    exact iff_of_true ⟨_, picked⟩ ⟨challenge, offered, List.mem_of_getElem? selected.fits⟩
  · refine iff_of_false ?_ ?_
    · rintro ⟨choice, found⟩
      rw [picked] at found
      cases found
    · -- A solver that fits to a challenge would have been found.
      rintro ⟨challenge, offered, handled⟩
      exact unmatched challenge.kind handled challenge offered rfl

/-- A selection is what the search finds. -/
theorem Selected.found {challenges : List Challenge} {solvers : List ChallengeKind}
    {position : Nat} {challenge : Challenge}
    (selected : Selected challenges solvers position challenge) :
    findSolver challenges solvers 0 = some (position, challenge) :=
  findSolver_eq_some.mpr ⟨position, (Nat.zero_add position).symm, selected⟩

/-- There is at most one selection. -/
theorem Selected.unique {challenges : List Challenge} {solvers : List ChallengeKind}
    {position other : Nat} {challenge offered : Challenge}
    (here : Selected challenges solvers position challenge)
    (there : Selected challenges solvers other offered) :
    position = other ∧ challenge = offered := by
  -- The search is a function, and it finds both.
  have found := here.found
  rw [there.found] at found
  obtain ⟨rfl, rfl⟩ := Prod.mk.inj (Option.some.inj found)
  exact ⟨rfl, rfl⟩

/-- There is none when no solver fits. -/
theorem Selected.matched {challenges : List Challenge} {solvers : List ChallengeKind}
    {position : Nat} {challenge : Challenge}
    (selected : Selected challenges solvers position challenge) :
    ¬ Unmatched challenges solvers := by
  intro unmatched
  have found := selected.found
  -- It would be found and not be found.
  rw [findSolver_eq_none.mpr unmatched] at found
  cases found

variable {lib : Libraries} {account : Account} {trace : History}

/-- Seeing a challenge through sends nothing to any other URL. -/
theorem DriveRun.addressed {url : String} {ready : Handle} {timeout pause : Duration}
    {outcome : Except Stop Unit}
    (run : DriveRun lib url account ready timeout pause trace outcome) :
    ∀ event ∈ trace, ∀ target body reply, event = posted target body reply → target = url := by
  refine run.forall_mem ?_ (fun _ => by simp) (fun _ => by simp) (by simp) (by simp)
  intro α payload read trace outcome asked event member target body reply same
  obtain ⟨exchanged, exchange, _⟩ := asked
  -- Of the calls of a request, the POST alone is one.
  rcases exchange.storeCall event member with store | ⟨content, answer, found⟩
  · subst same
    cases store
  · rw [same] at found
    exact (Call.postJose.inj (congrArg Event.call found)).1

section Cases

variable {fuel : Nat} {solvers : List ChallengeKind} {timeout : Duration} {authz : Authorization}
  {rest : History} {outcome : Except Stop Unit} {position : Nat} {challenge : Challenge}

end Cases

end Acme
