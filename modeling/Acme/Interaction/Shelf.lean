import Mathlib.Logic.Function.Basic

/-! A store that several holders share: what each of them has put there, under a key of its own. -/

namespace Interaction

variable {ι α η κ β : Type} {handle : α → η} {body : α → β} {up : ι → Option α}
  {live : η → Option κ} {store : κ → Option β} {holder : ι} {thing : α} {key : κ}

/-- What is left when what a holder has up changes. -/
theorem update_eq_some [DecidableEq ι] {other : ι} {changed : Option α}
    (found : Function.update up holder changed other = some thing) :
    (other = holder ∧ changed = some thing) ∨ (other ≠ holder ∧ up other = some thing) := by
  -- The change concerns one holder.
  by_cases same : other = holder
  · subst same
    rw [Function.update_self] at found
    exact .inl ⟨rfl, found⟩
  · rw [Function.update_of_ne same] at found
    exact .inr ⟨same, found⟩

/-- The store holds what is up for the holders, and nothing else. -/
structure Shelved (handle : α → η) (body : α → β) (up : ι → Option α) (live : η → Option κ)
    (store : κ → Option β) : Prop where
  /-- What is up is found under the key that its handle stands for. -/
  kept : ∀ holder thing, up holder = some thing →
    ∃ key, live (handle thing) = some key ∧ store key = some (body thing)
  /-- No two holders have something up under one key. -/
  apart : ∀ holder other thing second key, up holder = some thing → up other = some second →
    live (handle thing) = some key → live (handle second) = some key → holder = other
  /-- Whatever is in the store is up for somebody. -/
  only : ∀ key content, store key = some content →
    ∃ holder thing, up holder = some thing ∧ live (handle thing) = some key

variable [DecidableEq ι] [DecidableEq η] [DecidableEq κ]

/-- What is put under a key that is not in use leaves the others alone. -/
theorem Shelved.insert (shelved : Shelved handle body up live store) (idle : up holder = none)
    (unused : live (handle thing) = none) (free : store key = none) :
    Shelved handle body (Function.update up holder (some thing))
      (Function.update live (handle thing) (some key))
      (Function.update store key (some (body thing))) := by
  obtain ⟨kept, apart, only⟩ := shelved
  -- What is up for the others has other handles and other keys.
  have unlike : ∀ other second, up other = some second → handle second ≠ handle thing := by
    intro other second held same
    obtain ⟨_, lives, _⟩ := kept other second held
    rw [same, unused] at lives
    cases lives
  -- The key was free, so nothing of theirs is stored under it.
  have elsewhere : ∀ other second own, up other = some second →
      live (handle second) = some own → own ≠ key := by
    intro other second own held lives same
    obtain ⟨stored, alive, mapped⟩ := kept other second held
    obtain rfl : own = stored := Option.some.inj (lives.symm.trans alive)
    rw [same, free] at mapped
    cases mapped
  constructor
  · -- The new thing is in its place, and the old ones stay in theirs.
    intro other second held
    rcases update_eq_some held with ⟨_, new⟩ | ⟨_, old⟩
    · obtain rfl := Option.some.inj new
      exact ⟨key, Function.update_self .., Function.update_self ..⟩
    · obtain ⟨own, lives, mapped⟩ := kept other second old
      refine ⟨own, ?_, ?_⟩
      · rwa [Function.update_of_ne (unlike other second old)]
      · rwa [Function.update_of_ne (elsewhere other second own old lives)]
  · -- Two holders with one key are one holder.
    intro one other first second shared held also lives alive
    rcases update_eq_some held with ⟨rfl, new⟩ | ⟨_, old⟩
    · rcases update_eq_some also with ⟨rfl, _⟩ | ⟨_, old⟩
      · rfl
      · -- The new thing has the new key, and an old one has not.
        obtain rfl := Option.some.inj new
        rw [Function.update_self] at lives
        rw [Function.update_of_ne (unlike other second old)] at alive
        exact absurd (Option.some.inj lives).symm (elsewhere other second shared old alive)
    · rw [Function.update_of_ne (unlike one first old)] at lives
      rcases update_eq_some also with ⟨rfl, new⟩ | ⟨_, older⟩
      · obtain rfl := Option.some.inj new
        rw [Function.update_self] at alive
        exact absurd (Option.some.inj alive).symm (elsewhere one first shared old lives)
      · rw [Function.update_of_ne (unlike other second older)] at alive
        exact apart one other first second shared old older lives alive
  · -- What is stored is the new thing, or was stored before for someone else.
    intro shared content mapped
    by_cases same : shared = key
    · subst same
      exact ⟨holder, thing, Function.update_self .., Function.update_self ..⟩
    · rw [Function.update_of_ne same] at mapped
      obtain ⟨other, second, held, lives⟩ := only shared content mapped
      have differs : other ≠ holder := by
        intro same
        rw [same, idle] at held
        cases held
      refine ⟨other, second, ?_, ?_⟩
      · rwa [Function.update_of_ne differs]
      · rwa [Function.update_of_ne (unlike other second held)]

/-- What is taken away leaves the others alone. -/
theorem Shelved.remove (shelved : Shelved handle body up live store)
    (held : up holder = some thing) (lives : live (handle thing) = some key) :
    Shelved handle body (Function.update up holder none)
      (Function.update live (handle thing) none) (Function.update store key none) := by
  obtain ⟨kept, apart, only⟩ := shelved
  -- Another holder has another key, and so another handle.
  have elsewhere : ∀ other second own, other ≠ holder → up other = some second →
      live (handle second) = some own → own ≠ key := by
    intro other second own differs old alive same
    exact differs (apart other holder second thing key old held (same ▸ alive) lives)
  have unlike : ∀ other second, other ≠ holder → up other = some second →
      handle second ≠ handle thing := by
    intro other second differs old same
    exact elsewhere other second key differs old (same ▸ lives) rfl
  constructor
  · -- What is up for the others stays in its place.
    intro other second came
    rcases update_eq_some came with ⟨_, none⟩ | ⟨differs, old⟩
    · cases none
    · obtain ⟨own, alive, mapped⟩ := kept other second old
      refine ⟨own, ?_, ?_⟩
      · rwa [Function.update_of_ne (unlike other second differs old)]
      · rwa [Function.update_of_ne (elsewhere other second own differs old alive)]
  · -- They are as far apart as before.
    intro one other first second shared came also alive same
    rcases update_eq_some came with ⟨_, none⟩ | ⟨apartOne, old⟩
    · cases none
    · rcases update_eq_some also with ⟨_, none⟩ | ⟨apartOther, older⟩
      · cases none
      · rw [Function.update_of_ne (unlike one first apartOne old)] at alive
        rw [Function.update_of_ne (unlike other second apartOther older)] at same
        exact apart one other first second shared old older alive same
  · -- What is still stored was stored under another key, for another holder.
    intro shared content mapped
    by_cases same : shared = key
    · rw [same, Function.update_self] at mapped
      cases mapped
    · rw [Function.update_of_ne same] at mapped
      obtain ⟨other, second, came, alive⟩ := only shared content mapped
      have differs : other ≠ holder := by
        intro here
        rw [here, held] at came
        obtain rfl := Option.some.inj came
        exact same (Option.some.inj (alive.symm.trans lives))
      refine ⟨other, second, ?_, ?_⟩
      · rwa [Function.update_of_ne differs]
      · rwa [Function.update_of_ne (unlike other second differs came)]

end Interaction
