import Mathlib.Logic.Function.Basic
import Mathlib.Data.List.Basic

/-! A cache in front of a source that may fail: what it answers, and when it asks. -/

namespace Memo

variable {κ ν ε : Type*} [DecidableEq κ]

/-- What is remembered of each key. -/
abbrev Cache (κ ν : Type*) := κ → Option ν

/-- Nothing is remembered. -/
def empty : Cache κ ν := fun _ => none

/-- What a lookup does. -/
structure Lookup (κ ν ε : Type*) where
  /-- The source was asked. -/
  asked : Bool
  /-- The answer. -/
  outcome : Except ε ν
  /-- What is remembered from then on. -/
  cache : Cache κ ν

/-- Look a key up: an answer of the source is remembered, a failure is not. -/
def look (source : κ → Except ε ν) (cache : Cache κ ν) (key : κ) : Lookup κ ν ε :=
  match cache key with
  -- It is in memory, and the source is left alone.
  | some value => ⟨false, .ok value, cache⟩
  | none =>
    match source key with
    | .ok value => ⟨true, .ok value, Function.update cache key (some value)⟩
    -- A failure may pass, so that the source is asked again the next time.
    | .error failure => ⟨true, .error failure, cache⟩

/-- What is remembered after a row of lookups. -/
def after (source : κ → Except ε ν) (cache : Cache κ ν) (keys : List κ) : Cache κ ν :=
  keys.foldl (fun cache key => (look source cache key).cache) cache

/-- Only answers of the source are remembered. -/
def Sound (source : κ → Except ε ν) (cache : Cache κ ν) : Prop :=
  ∀ key value, cache key = some value → source key = .ok value

variable {source : κ → Except ε ν} {cache : Cache κ ν} {key : κ}

/-- A key that is remembered is answered from memory. -/
theorem look_known {value : ν} (known : cache key = some value) :
    look source cache key = ⟨false, .ok value, cache⟩ := by
  simp only [look, known]

/-- A key that is not remembered is answered by the source. -/
theorem look_unknown (unknown : cache key = none) :
    (look source cache key).asked = true ∧ (look source cache key).outcome = source key := by
  simp only [look, unknown]
  -- The source answers or it fails; its outcome is passed on in either case.
  cases source key <;> exact ⟨rfl, rfl⟩

/-- The source is asked exactly when nothing is remembered. -/
theorem asked_iff : (look source cache key).asked = true ↔ cache key = none := by
  -- The memory decides, whatever the source would say.
  cases known : cache key with
  | none => simp [look_unknown known]
  | some value => simp [look_known known]

/-- With a sound memory, the answer is that of the source. -/
theorem Sound.outcome (sound : Sound source cache) :
    (look source cache key).outcome = source key := by
  cases known : cache key with
  | none => exact (look_unknown known).2
  -- What is remembered is what the source would answer again.
  | some value => rw [look_known known, sound key value known]

/-- A failure leaves the memory as it was, and the source was asked. -/
theorem look_failed {failure : ε} (failed : (look source cache key).outcome = .error failure) :
    (look source cache key).asked = true ∧ (look source cache key).cache = cache := by
  cases known : cache key with
  -- The memory only answers with successes.
  | some value =>
    rw [look_known known] at failed
    cases failed
  -- The failure is that of the source, and failures are not remembered.
  | none =>
    have answered : (look source cache key).outcome = source key := (look_unknown known).2
    rw [failed] at answered
    simp only [look, known, ← answered, and_self]

/-- What is remembered after one lookup: what was before, and the answer to its key. -/
theorem look_cache_iff {other : κ} {value : ν} :
    (look source cache key).cache other = some value ↔
      cache other = some value ∨ (cache other = none ∧ other = key ∧ source key = .ok value) := by
  cases known : cache key with
  | some found =>
    -- Nothing new is remembered, and the key itself was not unknown.
    rw [look_known known]
    constructor
    · exact .inl
    · intro either
      rcases either with same | ⟨unknown, rfl, _⟩
      · exact same
      · rw [known] at unknown
        cases unknown
  | none =>
    cases answered : source key with
    -- The source has failed, and nothing is added.
    | error failure => simp [look, known, answered]
    -- The answer is remembered under its key, and under no other.
    | ok found =>
      by_cases same : other = key
      · subst same
        simp [look, known, answered]
      · simp [look, known, answered, same]

/-- A lookup leaves what is remembered of every other key. -/
theorem look_cache_ne {other : κ} (different : other ≠ key) :
    (look source cache key).cache other = cache other := by
  -- It is enough that the same values are remembered.
  apply Option.ext
  intro value
  rw [look_cache_iff]
  constructor
  · intro either
    rcases either with before | ⟨_, same, _⟩
    · exact before
    · exact absurd same different
  · exact .inl

/-- What is remembered after a row of lookups: what was before, and the answers to its keys. -/
theorem after_iff {keys : List κ} {value : ν} :
    after source cache keys key = some value ↔
      cache key = some value ∨ (cache key = none ∧ key ∈ keys ∧ source key = .ok value) := by
  -- By induction on the keys, one lookup at a time.
  induction keys generalizing cache with
  | nil => simp [after]
  | cons first rest ih =>
    have later : after source cache (first :: rest) =
        after source (look source cache first).cache rest := rfl
    -- A key is still unknown when it was before, and this lookup has not answered it.
    have unknown : (look source cache first).cache key = none ↔
        cache key = none ∧ (key = first → ∀ value, source key ≠ .ok value) := by
      rw [Option.eq_none_iff_forall_ne_some, Option.eq_none_iff_forall_ne_some]
      constructor
      · -- If it were remembered before, or answered now, it would be remembered afterwards.
        intro never
        refine ⟨fun value before => never value (look_cache_iff.mpr (.inl before)), ?_⟩
        intro same value answered
        subst same
        cases before : cache key with
        | some found => exact never found (look_cache_iff.mpr (.inl before))
        | none => exact never value (look_cache_iff.mpr (.inr ⟨before, rfl, answered⟩))
      · -- What is remembered afterwards was there before, or is the answer of now.
        intro ⟨before, silent⟩ value remembered
        rcases look_cache_iff.mp remembered with known | ⟨_, same, answered⟩
        · exact before value known
        · exact silent same value (same ▸ answered)
    rw [later, ih, look_cache_iff, unknown, List.mem_cons]
    constructor
    · intro either
      -- It was there, or the first lookup answered it, or a later one.
      rcases either with (known | ⟨fresh, same, answered⟩) | ⟨⟨fresh, _⟩, member, answered⟩
      · exact .inl known
      · exact .inr ⟨fresh, .inl same, same ▸ answered⟩
      · exact .inr ⟨fresh, .inr member, answered⟩
    · intro either
      -- In the last case it matters whether the first lookup was for this key too.
      rcases either with known | ⟨fresh, same | member, answered⟩
      · exact .inl (.inl known)
      · exact .inl (.inr ⟨fresh, same, same ▸ answered⟩)
      · by_cases same : key = first
        · exact .inl (.inr ⟨fresh, same, same ▸ answered⟩)
        · exact .inr ⟨⟨fresh, fun also => absurd also same⟩, member, answered⟩

/-- The memory of a row of lookups that starts with none is sound. -/
theorem sound_after (keys : List κ) : Sound source (after source empty keys) := by
  intro key value remembered
  -- Nothing was remembered at first, so it is an answer to one of the keys.
  rcases after_iff.mp remembered with known | ⟨_, _, answered⟩
  · cases known
  · exact answered

/-- Starting with nothing, a key is asked for until the source has answered it once. -/
theorem asked_after_iff {keys : List κ} :
    (look source (after source empty keys) key).asked = true ↔
      ∀ value, source key = .ok value → key ∉ keys := by
  -- The source is asked when no value is remembered.
  rw [asked_iff, Option.eq_none_iff_forall_ne_some]
  constructor
  · -- An answer to an earlier lookup for the key would be remembered.
    intro never value answered member
    exact never value (after_iff.mpr (.inr ⟨rfl, member, answered⟩))
  · -- What is remembered was answered to an earlier lookup for the key.
    intro silent value remembered
    rcases after_iff.mp remembered with known | ⟨_, member, answered⟩
    · cases known
    · exact silent value answered member

end Memo
