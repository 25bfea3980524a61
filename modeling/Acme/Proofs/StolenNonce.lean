import Acme.Proofs.SharedPool

/-! Concurrent calls for a nonce: when one of them can lose the nonce it has fetched. -/

namespace Acme

open Interaction

variable {ι : Type} [DecidableEq ι]

/-- Each HEAD request was answered successfully, with at least one nonce. -/
def HeadsBring (trace : History) : Prop :=
  ∀ url reply, headed url reply ∈ trace →
    ∃ answer, reply = .ok answer ∧ answer.isSuccess = true ∧ answer.nonces ≠ []

/-- Each call that has finished was given a nonce. -/
def EveryGetSucceeds (store : ReplayNonceStore) (log : Log ι calls) : Prop :=
  ∀ caller outcome, store.get.Ends (log.own caller) outcome → ∃ nonce, outcome = .ok nonce

/-- Whether an event adds a nonce to the pool. -/
def isPush : Event calls → Bool
  | ⟨.pushBack _, _⟩ => true
  | _ => false

/-- Whether an event takes a nonce out of the pool. -/
def isTake : Event calls → Bool
  | ⟨.popFront, some _⟩ => true
  | _ => false

/-- A call that has filled the pool is owed a nonce until it has taken one. -/
def owes (own : History) : Bool :=
  own.any isPush && !own.any isTake

/-- The number of calls that are owed a nonce. -/
def owed [Fintype ι] (log : Log ι calls) : Nat :=
  ∑ caller, (owes (log.own caller)).toNat

/-- A call that has just started takes a nonce only when there are more than are owed to others. -/
def Spares [Fintype ι] (queue : List String) (log : Log ι calls) : Prop :=
  ∀ before caller nonce after, log = before ++ (caller, popped (some nonce)) :: after →
    before.own caller = [] → owed before < (pool.after queue before.events).length

/-- Only the caller's own debt changes with an event. -/
theorem owed_append [Fintype ι] (before : Log ι calls) (caller : ι) (event : Event calls) :
    owed (before ++ [(caller, event)]) + (owes (before.own caller)).toNat
      = owed before + (owes (before.own caller ++ [event])).toNat := by
  -- An event of one caller leaves the debts of the others as they are.
  have others : ∀ other ∈ Finset.univ.erase caller,
      (owes (Log.own (before ++ [(caller, event)]) other)).toNat
        = (owes (before.own other)).toNat := by
    intro other member
    have differs : caller ≠ other := (Finset.ne_of_mem_erase member).symm
    rw [Log.own_append, Log.own_singleton_other differs, List.append_nil]
  -- The sum is the debt of the caller and those of the others.
  have split : ∀ amount : ι → Nat, ∑ other, amount other
      = amount caller + ∑ other ∈ Finset.univ.erase caller, amount other := fun amount =>
    (Finset.add_sum_erase _ amount (Finset.mem_univ caller)).symm
  rw [owed, owed, split, split fun other => (owes (before.own other)).toNat,
    Finset.sum_congr rfl others, Log.own_append, Log.own_singleton_self]
  omega

/-- A call takes a nonce at once, or after it has filled the pool; it never discards any. -/
def Repaid (own : History) : Event calls → Prop
  | ⟨.popFront, some _⟩ => HeadsBring own → own = [] ∨ owes own = true
  | ⟨.popFront, none⟩ | ⟨.head _, _⟩ | ⟨.pushBack _, _⟩ | ⟨.isEmpty, _⟩ => True
  | _ => False

/-- The five kinds of steps a call for a nonce makes. -/
theorem Repaid.cases {own : History} {event : Event calls} (repaid : Repaid own event) :
    (∃ nonce, event = popped (some nonce)) ∨ event = popped none ∨
      (∃ value, event = pushed value) ∨ (∃ url reply, event = headed url reply) ∨
      ∃ reply, event = foundEmpty reply := by
  obtain ⟨call, reply⟩ := event
  -- Calls that are not made while obtaining a nonce are excluded.
  cases call with
  | popFront =>
    cases reply with
    | none => exact .inr (.inl rfl)
    | some nonce => exact .inl ⟨nonce, rfl⟩
  | pushBack value => exact .inr (.inr (.inl ⟨value, rfl⟩))
  | head url => exact .inr (.inr (.inr (.inl ⟨url, reply, rfl⟩)))
  | isEmpty => exact .inr (.inr (.inr (.inr ⟨reply, rfl⟩)))
  | _ => exact repaid.elim

/-- Once it has filled the pool, a caller is owed a nonce until it takes one. -/
theorem owes_filled {url : String} {answer : HttpResponse} (nonempty : answer.nonces ≠ [])
    {last : History} (untaken : last.any isTake = false) :
    owes ([popped none, headed url (.ok answer)] ++ pushes answer.nonces ++ last) = true := by
  obtain ⟨first, others, brought⟩ := List.exists_cons_of_ne_nil nonempty
  simp [owes, untaken, isTake, isPush, brought, pushes]

/-- Filling the pool is allowed to every caller. -/
theorem repaid_pushes {own : History} {values : List String} :
    (World.chronicle Repaid).Admits own (pushes values) := by
  induction values generalizing own with
  | nil => trivial
  | cons value values ih => exact ⟨trivial, ih⟩

/-- Every call for a nonce behaves so. -/
theorem get_repaid {url : String} {trace : History} {outcome : Except Stop String}
    (run : GetRun url trace outcome) : (World.chronicle Repaid).Admits [] trace := by
  cases run with
  -- A nonce that is taken at once is taken at the start of the call.
  | pooled nonce => exact ⟨fun _ => .inl rfl, trivial⟩
  -- In these four runs no nonce is taken.
  | unreached failure => simp [Repaid]
  | refused answer status => simp [Repaid]
  | barren answer status => simp [Repaid, repaid_pushes]
  | robbed answer status => simp [Repaid, repaid_pushes]
  | fetched answer status nonce =>
    -- The nonce is taken after the response to the HEAD request has filled the pool.
    have owing : HeadsBring ([popped none, headed url (.ok answer)] ++ pushes answer.nonces ++
        [foundEmpty false]) → owes ([popped none, headed url (.ok answer)] ++
          pushes answer.nonces ++ [foundEmpty false]) = true := by
      intro bring
      obtain ⟨_, same, _, nonempty⟩ := bring url (.ok answer) (by simp)
      cases same
      exact owes_filled nonempty rfl
    simp only [List.append_assoc] at owing
    simpa [Repaid, repaid_pushes] using owing

/-- An event that neither fills nor empties the pool changes no debt. -/
theorem owes_unchanged {own : History} {event : Event calls} (pushes : isPush event = false)
    (takes : isTake event = false) : owes (own ++ [event]) = owes own := by
  simp [owes, pushes, takes]

variable {store : ReplayNonceStore} {queue : List String} {log : Log ι calls}

/-- At every step of merged calls, the caller behaves as its own trace demands. -/
theorem interleaved_repaid {before after : Log ι calls} {caller : ι} {event : Event calls}
    (run : Interleaved (fun _ : ι => store.get.run) (before ++ (caller, event) :: after)) :
    Repaid (before.own caller) event := by
  -- A caller that runs alone repays.
  have safe : Fallible.Safe (World.chronicle Repaid) [] store.get fun _ _ => True :=
    Fallible.safe_of_ends answerable fun trace outcome ends => ⟨get_repaid (get_run ends), trivial⟩
  -- In an interleaving each caller has a history of its own that it could have alone.
  obtain ⟨rest, leads⟩ := run caller
  rw [Log.own_append, ← List.singleton_append, Log.own_append, Log.own_singleton_self,
    List.singleton_append] at leads
  have allowed := World.admits_at (Program.Safe.leads safe leads).1
  simpa using allowed

variable [Fintype ι]

/-- One step of one caller keeps the pool as large as the debts. -/
theorem owed_step {before : Log ι calls} {caller : ι} {event : Event calls} {queue : List String}
    (known : owed before ≤ queue.length) (allowed : pool.Allows queue event)
    (bring : HeadsBring before.events) (repaid : Repaid (before.own caller) event)
    (spares : ∀ nonce, event = popped (some nonce) → before.own caller = [] →
      owed before < queue.length) :
    owed (before ++ [(caller, event)]) ≤ (pool.next queue event).length := by
  have step := owed_append before caller event
  have own : HeadsBring (before.own caller) := fun url reply member =>
    bring url reply (Log.mem_events_of_mem_own member)
  rcases repaid.cases with ⟨nonce, rfl⟩ | rfl | ⟨value, rfl⟩ | ⟨url, reply, rfl⟩ | ⟨reply, rfl⟩
  · -- The nonce was to spare, or was owed to the caller.
    have taken : owes (before.own caller ++ [popped (some nonce)]) = false := by
      simp [owes, isTake]
    rw [taken, Bool.toNat_false] at step
    rw [pool.next_popped, List.length_tail]
    rcases repaid own with start | owing
    · have spared := spares nonce rfl start
      omega
    · rw [owing, Bool.toNat_true] at step
      omega
  · -- Nothing was there, so nothing was owed either.
    rw [owes_unchanged rfl rfl] at step
    rw [pool.allows_popped, eq_comm, List.head?_eq_none_iff] at allowed
    simp only [allowed, List.length_nil] at known
    omega
  · -- A nonce that enters adds one to the queue, and at most one to what is owed.
    have one := Bool.toNat_le (owes (before.own caller ++ [pushed value]))
    rw [pool.next_pushed, List.length_append, List.length_singleton]
    omega
  · rw [owes_unchanged rfl rfl] at step
    rw [pool.next_headed]
    omega
  · rw [owes_unchanged rfl rfl] at step
    rw [pool.next_foundEmpty]
    omega

/-- The pool always holds as many nonces as are owed to callers. -/
theorem owed_le (run : Interleaved (fun _ : ι => store.get.run) log)
    (shared : pool.Admits queue log.events) (bring : HeadsBring log.events)
    (spares : Spares queue log) : owed log ≤ (pool.after queue log.events).length := by
  -- The induction adds one step of one caller at the end.
  induction log using List.reverseRecOn with
  | nil => simp [owed, owes, Log.own]
  | append_singleton before entry ih =>
    obtain ⟨caller, event⟩ := entry
    rw [Log.events_append, World.admits_append] at shared
    have earlier : HeadsBring (Log.events before) := fun url reply member =>
      bring url reply (by rw [Log.events_append]; exact List.mem_append_left _ member)
    have known := ih run.earlier shared.1 earlier fun early other nonce late split start =>
      spares early other nonce (late ++ [(caller, event)]) (by simp [split]) start
    rw [Log.events_append, World.after_append]
    -- The step is one that spares what is owed.
    exact owed_step known shared.2.1 earlier (interleaved_repaid run)
      fun nonce same start => spares before caller nonce [] (by rw [same]) start

/-- A caller that is owed a nonce never finds the pool empty. -/
theorem pool_ne_nil {before after : Log ι calls} {caller : ι} {event : Event calls}
    (run : Interleaved (fun _ : ι => store.get.run) (before ++ (caller, event) :: after))
    (shared : pool.Admits queue (Log.events (before ++ (caller, event) :: after)))
    (bring : HeadsBring (Log.events (before ++ (caller, event) :: after)))
    (spares : Spares queue (before ++ (caller, event) :: after))
    (owing : owes (before.own caller) = true) : pool.after queue before.events ≠ [] := by
  rw [Log.events_append, World.admits_append] at shared
  -- The pool holds at least what is owed.
  have known := owed_le run.earlier shared.1
    (fun url reply member => bring url reply
      (by rw [Log.events_append]; exact List.mem_append_left _ member))
    (fun early other nonce late split start => spares early other nonce
      (late ++ (caller, event) :: after) (by simp [split]) start)
  -- What one caller owes is part of that.
  have one : (owes (before.own caller)).toNat ≤ owed before :=
    Finset.single_le_sum (f := fun other => (owes (before.own other)).toNat)
      (fun _ _ => Nat.zero_le _) (Finset.mem_univ caller)
  rw [owing, Bool.toNat_true] at one
  -- An empty pool holds less.
  intro empty
  rw [empty, List.length_nil] at known
  omega

/--
Calls for a nonce are merged in any order, and every HEAD request is answered with a nonce.
When no call that has just started takes a nonce that others are owed, every call that
finishes is given one.
-/
theorem get_succeeds_when_spared (run : Interleaved (fun _ : ι => store.get.run) log)
    (shared : pool.Admits queue log.events) (bring : HeadsBring log.events)
    (spares : Spares queue log) : EveryGetSucceeds store log := by
  intro caller outcome ends
  have form := get_run ends
  -- What all requests bring, those of this caller bring.
  have own : HeadsBring (log.own caller) := fun url reply member =>
    bring url reply (Log.mem_events_of_mem_own member)
  -- Whoever has filled the pool finds it filled when it comes back to it.
  have filled : ∀ before event after, log.own caller = before ++ event :: after →
      owes before = true → ∃ reached, reached ≠ [] ∧ pool.Allows reached event := by
    intro before event after split owing
    obtain ⟨earlier, later, rfl, rfl⟩ := Log.own_split split
    refine ⟨_, pool_ne_nil run shared bring spares owing, ?_⟩
    rw [Log.events_append] at shared
    exact World.admits_at shared
  -- In two of the six runs a nonce is returned, and the others are excluded.
  generalize owned : log.own caller = trace at form own filled
  cases form with
  | pooled nonce => exact ⟨nonce, rfl⟩
  | fetched answer status nonce => exact ⟨nonce, rfl⟩
  -- A request for a nonce is always answered.
  | unreached failure =>
    obtain ⟨answer, impossible, _⟩ := own store.newNonceUrl (.error failure) (by simp)
    cases impossible
  -- It is answered with success.
  | refused answer status =>
    obtain ⟨_, same, success, _⟩ := own store.newNonceUrl (.ok answer) (by simp)
    cases same
    rw [status] at success
    cases success
  -- The pool holds what is owed, so it is not found empty.
  | barren answer status =>
    obtain ⟨_, same, _, nonempty⟩ := own store.newNonceUrl (.ok answer) (by simp)
    cases same
    obtain ⟨reached, something, allowed⟩ := filled _ (foundEmpty true) [] rfl
      (by simpa using owes_filled nonempty (rfl : [].any isTake = false))
    exact absurd (List.isEmpty_iff.mp (pool.allows_foundEmpty.mp allowed).symm) something
  -- It still holds it when the nonce is to be taken.
  | robbed answer status =>
    obtain ⟨_, same, _, nonempty⟩ := own store.newNonceUrl (.ok answer) (by simp)
    cases same
    obtain ⟨reached, something, allowed⟩ := filled
      ([popped none, headed store.newNonceUrl (.ok answer)] ++ pushes answer.nonces ++
        [foundEmpty false]) (popped none) [] (by simp) (owes_filled nonempty rfl)
    exact absurd (List.head?_eq_none_iff.mp (pool.allows_popped.mp allowed).symm) something

/-- The second call takes the nonce that the first one has fetched. -/
def robbery : Log (Fin 2) calls :=
  [(0, popped none), (0, headed "ca/nonce" (answering 200 "n0" [] "")), (0, pushed "n0"),
    (0, foundEmpty false), (1, popped (some "n0")), (0, popped none)]

/-- A finished call is told that there is no nonce, although its own response carried one. -/
theorem get_robbed :
    Interleaved (fun _ : Fin 2 => sampleStore.get.run) robbery ∧
      pool.Admits [] robbery.events ∧ HeadsBring robbery.events ∧
      sampleStore.get.Ends (robbery.own 0) (.error noNonce) ∧
      ¬ EveryGetSucceeds sampleStore robbery := by
  have ends : sampleStore.get.Ends (robbery.own 0) (.error noNonce) :=
    .step (.step (.step (.step (.step (.refl _)))))
  refine ⟨fun caller => ?_, by simp [robbery, Log.events], ?_, ends, fun succeeds => ?_⟩
  · -- The first caller is done, and the second is left with its nonce.
    fin_cases caller
    · exact ⟨_, ends⟩
    · exact ⟨_, .step (.refl _)⟩
  · -- The one response to a HEAD is a success, and has a nonce.
    intro url reply member
    obtain ⟨_, rfl⟩ : url = "ca/nonce" ∧ reply = answering 200 "n0" [] "" := by
      simpa [robbery, Log.events] using member
    exact ⟨_, rfl, by decide +kernel, by decide +kernel⟩
  · -- Nevertheless the first caller has none.
    obtain ⟨nonce, impossible⟩ := succeeds 0 _ ends
    cases impossible

/-- Whether one step takes no nonce that is owed to another caller. -/
def spared (queue : List String) (before : Log ι calls) :
    ι × Event calls → Bool
  | (caller, ⟨.popFront, some _⟩) =>
    !(before.own caller).isEmpty || owed before < (pool.after queue before.events).length
  | _ => true

/-- A log spares its callers when each of its steps does. -/
theorem spares_of_steps {log : Log ι calls}
    (steps : ∀ index : Fin log.length, spared queue (log.take index) log[index] = true) :
    Spares queue log := by
  rintro before caller nonce after rfl start
  have step := steps ⟨before.length, by simp⟩
  simpa [spared, start] using step

/-- Two calls that each fetch a nonce of their own, one step of each in turn. -/
def alternation : Log (Fin 2) calls :=
  [(0, popped none), (1, popped none), (0, headed "ca/nonce" (answering 200 "n0" [] "")),
    (1, headed "ca/nonce" (answering 200 "n1" [] "")), (0, pushed "n0"), (1, pushed "n1"),
    (1, foundEmpty false), (1, popped (some "n0")), (0, foundEmpty false),
    (0, popped (some "n1"))]

/-- Both calls of the alternation are given a nonce. -/
theorem get_succeeds_when_spared_sample : EveryGetSucceeds sampleStore alternation := by
  have shared : pool.Admits [] alternation.events := by simp [alternation, Log.events]
  refine get_succeeds_when_spared (fun caller => ?_) shared ?_ (spares_of_steps (by decide +kernel))
  · -- Both callers fill the pool before they take a nonce.
    fin_cases caller
    · exact ⟨_, .step (.step (.step (.step (.step (.refl _)))))⟩
    · exact ⟨_, .step (.step (.step (.step (.step (.refl _)))))⟩
  · -- Both responses bring a nonce.
    intro url reply member
    have listed : reply = answering 200 "n0" [] "" ∨ reply = answering 200 "n1" [] "" := by
      have either : (url = "ca/nonce" ∧ reply = answering 200 "n0" [] "") ∨
          (url = "ca/nonce" ∧ reply = answering 200 "n1" [] "") := by
        simpa [alternation, Log.events] using member
      exact either.imp And.right And.right
    rcases listed with rfl | rfl <;> exact ⟨_, rfl, by decide +kernel, by decide +kernel⟩

end Acme
