import Acme.Interaction.Interleaving
import Acme.Proofs.PoolLedger
import Acme.Proofs.ScriptedAuthority
import Mathlib.Tactic.FinCases

/-! Concurrent use of one nonce store: no nonce is lost, duplicated or put back. -/

namespace Acme

open Interaction

/-- One call on a shared store. -/
inductive Operation where
  | get
  | absorb (answer : HttpResponse)
  | clear
  | create (directory : Directory) (contact : List String) (termsAgreed onlyReturnExisting : Bool)
      (key : AccountKey)
  | postKid (account : Account) (url : String) (payload : Bytes)

namespace Operation

/-- What a call returns. -/
def Result : Operation → Type
  | .get => String
  | .absorb _ | .clear => Unit
  | .create .. => Account
  | .postKid .. => HttpResponse

/-- The calls as programs on the store they share. -/
def program (lib : Libraries) (store : ReplayNonceStore) : (operation : Operation) →
    Client operation.Result
  | .get => store.get
  | .absorb answer => ReplayNonceStore.absorb answer
  | .clear => Acme.clear
  | .create directory contact termsAgreed onlyReturnExisting key =>
    Account.createWithOptions lib { directory with newNonce := store.newNonceUrl } contact
      termsAgreed onlyReturnExisting key
  | .postKid account url payload => ({ account with nonce := store }).postKid lib url payload

/-- The nonces a call is handed by its caller. -/
def given : Operation → Multiset String
  | .absorb answer => answer.nonces
  | _ => 0

end Operation

/-- The account of signatures: each POST spends a nonce that its caller took. -/
abbrev signatures : World calls (Multiset String) := Budget nonceTaken nonceSigned

/-- The account of supplies: each value added to the pool was received by its caller. -/
abbrev supplies : World calls (Multiset String) := Budget nonceReceived noncePushed

/-- A body signed with a nonce spends that nonce, and no other. -/
theorem nonceSigned_posted {url : String} {body payload : Bytes} {header : ProtectedHeader}
    {answer : Except AcmeError HttpResponse} (states : Says body header payload) :
    nonceSigned (posted url body answer) = {header.nonce} := by
  obtain ⟨request, read, rfl, _⟩ := states
  simp [nonceSigned, read]

/-- Adding values to the pool costs no signature. -/
@[simp] theorem signatures_pushes {credit : Multiset String} {values : List String} :
    signatures.Admits credit (pushes values) ∧
      signatures.after credit (pushes values) = credit := by
  -- Adding to the pool takes nothing out and signs nothing.
  induction values with
  | nil => exact ⟨trivial, rfl⟩
  | cons value values ih =>
    simp only [pushes] at ih
    simp [pushes, nonceTaken, nonceSigned, ih]

/-- A pool that is filled from a response is paid for by that response. -/
@[simp] theorem supplies_pushes {credit : Multiset String} {values : List String} :
    supplies.Admits (credit + (values : Multiset String)) (pushes values) ∧
      supplies.after (credit + (values : Multiset String)) (pushes values) = credit := by
  induction values with
  | nil => simp [pushes]
  | cons value values ih =>
    simp only [pushes] at ih
    -- Each value pays for itself.
    have paid : credit + (value :: values : List String) - {value}
        = credit + (values : Multiset String) := by
      rw [← Multiset.cons_coe, Multiset.add_cons, Multiset.sub_singleton, Multiset.erase_cons_head]
    -- It is among those that are still to be paid for.
    have owned : {value} ≤ credit + ((value :: values : List String) : Multiset String) := by
      rw [Multiset.singleton_le, Multiset.mem_add]
      exact .inr (by simp)
    simp [pushes, nonceReceived, noncePushed, entering, paid, owned, ih]

/-- The nonce a store returns was taken out of the pool, and none was spent. -/
theorem get_signatures (credit : Multiset String) {url : String} {trace : History}
    {outcome : Except Stop String} (run : GetRun url trace outcome) :
    signatures.Admits credit trace ∧
      ∀ nonce, outcome = .ok nonce → signatures.after credit trace = credit + {nonce} := by
  cases run <;> simp [nonceTaken, nonceSigned]

/-- A store fills the pool with what it received. -/
theorem get_supplies {url : String} {credit : Multiset String} {trace : History}
    {outcome : Except Stop String} (run : GetRun url trace outcome) :
    supplies.Admits credit trace := by
  cases run <;> simp [nonceReceived, noncePushed, entering, brought]

/-- A signed request spends the nonce it took. -/
theorem exchange_signatures {store : ReplayNonceStore} {sign : String → Except Stop Bytes}
    {url : String} {credit : Multiset String} {trace : History}
    {outcome : Except Stop HttpResponse} (signs : SignsNonce sign)
    (run : ExchangeRun store sign url trace outcome) : signatures.Admits credit trace := by
  -- A nonce is taken, and the POST is signed with it.
  have sent : ∀ {nonce trace body} answer, GetRun store.newNonceUrl trace (.ok nonce) →
      sign nonce = .ok body → signatures.Admits credit (trace ++ [posted url body answer]) := by
    intro nonce trace body answer obtained signed
    obtain ⟨admits, reached⟩ := get_signatures credit obtained
    obtain ⟨header, payload, states, rfl⟩ := signs.states nonce body signed
    simp [admits, reached _ rfl, nonceSigned_posted states]
  cases run with
  -- Without a POST nothing is signed.
  | noNonce obtained => exact (get_signatures credit obtained).1
  | unsigned obtained => exact (get_signatures credit obtained).1
  | undelivered failure obtained signed => exact sent (.error failure) obtained signed
  | answered answer obtained signed =>
    rw [List.append_cons]
    exact World.admits_append.mpr ⟨sent (.ok answer) obtained signed, signatures_pushes.1⟩

/-- A signed request fills the pool with what it received. -/
theorem exchange_supplies {store : ReplayNonceStore} {sign : String → Except Stop Bytes}
    {url : String} {credit : Multiset String} {trace : History}
    {outcome : Except Stop HttpResponse} (run : ExchangeRun store sign url trace outcome) :
    supplies.Admits credit trace := by
  -- Beyond obtaining the nonce, only the nonces of an answer are pushed.
  cases run with
  | noNonce obtained => exact get_supplies obtained
  | unsigned obtained => exact get_supplies obtained
  | undelivered failure obtained =>
    simp [get_supplies obtained, noncePushed, entering]
  | answered answer obtained =>
    simp [get_supplies obtained, nonceReceived, noncePushed, entering, brought]

namespace Operation

/-- No call signs a nonce it has not taken. -/
theorem safe_signatures (lib : Libraries) (store : ReplayNonceStore) (operation : Operation) :
    Fallible.Safe signatures 0 (operation.program lib store) fun _ _ => True := by
  refine Fallible.safe_of_ends answerable fun trace outcome run => ⟨?_, trivial⟩
  -- The operations that sign are those that make a request.
  cases operation with
  | get => exact (get_signatures 0 (get_run run)).1
  | absorb answer =>
    -- Absorbing an answer pushes and does not sign.
    obtain ⟨rfl, _⟩ := ends_pushAll.mp run
    exact signatures_pushes.1
  | clear =>
    obtain ⟨reply, rfl, _⟩ := Fallible.ends_ask.mp run
    simp [nonceSigned]
  | create directory contact termsAgreed onlyReturnExisting key =>
    obtain ⟨exchanged, posted, _⟩ := create_run run
    exact exchange_signatures (signsNonce_jwk ..) posted
  | postKid account url payload => exact exchange_signatures (signsNonce_kid ..) (exchange_run run)

/-- No call adds a value to the pool that it was not handed and has not received. -/
theorem safe_supplies (lib : Libraries) (store : ReplayNonceStore) (operation : Operation) :
    Fallible.Safe supplies operation.given (operation.program lib store) fun _ _ => True := by
  refine Fallible.safe_of_ends answerable fun trace outcome run => ⟨?_, trivial⟩
  -- Absorbing starts with the nonces of its answer as credit, and the others with none.
  cases operation with
  | get => exact get_supplies (get_run run)
  | absorb answer =>
    obtain ⟨rfl, _⟩ := ends_pushAll.mp run
    -- The credit covers what is pushed.
    have paid : supplies.Admits (0 + (answer.nonces : Multiset String)) (pushes answer.nonces) :=
      supplies_pushes.1
    simpa [given] using paid
  | clear =>
    obtain ⟨reply, rfl, _⟩ := Fallible.ends_ask.mp run
    simp [noncePushed, entering]
  | create directory contact termsAgreed onlyReturnExisting key =>
    obtain ⟨exchanged, posted, _⟩ := create_run run
    exact exchange_supplies posted
  | postKid account url payload => exact exchange_supplies (exchange_run run)

end Operation

/-- The value that a call for a nonce returns. -/
def returnedNonce : Except Stop String → Multiset String
  | .ok nonce => {nonce}
  | .error _ => 0

/-- What a finished call for a nonce took out of the pool is what it returns. -/
theorem get_returns_taken {url : String} {trace : History} {outcome : Except Stop String}
    (run : GetRun url trace outcome) : total nonceTaken trace = returnedNonce outcome := by
  -- Pushing takes nothing out of the pool.
  have untaken : ∀ values, total nonceTaken (pushes values) = 0 := by
    intro values
    induction values with
    | nil => rfl
    | cons value values ih => simpa [pushes, nonceTaken] using ih
  cases run <;> simp [nonceTaken, untaken, returnedNonce]

variable {ι : Type} [Fintype ι] [DecidableEq ι]

/-- The nonces of a reply that are to be kept: of a HEAD only when it has succeeded. -/
def absorbed : Event calls → List String
  | ⟨.head _, .ok answer⟩ => if answer.isSuccess then answer.nonces else []
  | ⟨.postJose _ _, .ok answer⟩ => answer.nonces
  | _ => []

/-- The nonces that a call is to keep from the start. -/
def Operation.handed : Operation → List String
  | .absorb answer => answer.nonces
  | _ => []

/-- What is added to the pool enters it in that order. -/
@[simp] theorem entered_pushes (values : List String) : entered (pushes values) = values := by
  simp [entered, pushes, entering, List.flatMap_map]

/-- Adding values brings no reply with it. -/
@[simp] theorem absorbed_pushes (values : List String) :
    (pushes values).flatMap absorbed = [] := by
  simp [pushes, absorbed, List.flatMap_map]

/-- A call for a nonce keeps the nonces of the reply to its HEAD. -/
theorem get_absorbs {url : String} {trace : History} {outcome : Except Stop String}
    (run : GetRun url trace outcome) : entered trace = trace.flatMap absorbed := by
  have split : ∀ (earlier later : History), entered (earlier ++ later)
      = entered earlier ++ entered later := fun _ _ => List.flatMap_append
  -- What comes behind the reply is what was pushed.
  cases run with
  | pooled | unreached => simp [entered, entering, absorbed]
  | refused response status => simp [entered, entering, absorbed, status]
  | barren response status | robbed response status | fetched response status =>
    rw [split, split, entered_pushes]
    simp [entered, entering, absorbed, status]

/-- A signed request keeps the nonces of its answer besides. -/
theorem exchange_absorbs {store : ReplayNonceStore} {sign : String → Except Stop Bytes}
    {url : String} {trace : History} {outcome : Except Stop HttpResponse}
    (run : ExchangeRun store sign url trace outcome) :
    entered trace = trace.flatMap absorbed := by
  have split : ∀ (earlier later : History), entered (earlier ++ later)
      = entered earlier ++ entered later := fun _ _ => List.flatMap_append
  -- What the HEAD brings is pushed by `get`, and what the POST brings after it.
  cases run with
  | noNonce obtained => exact get_absorbs obtained
  | unsigned obtained => exact get_absorbs obtained
  | undelivered failure obtained =>
    -- A request that is not answered brings nothing.
    rw [split, get_absorbs obtained]
    simp [entered, entering, absorbed]
  | @answered trace _ body response obtained =>
    rw [List.append_cons, split, split, get_absorbs obtained, entered_pushes]
    simp [entered, entering, absorbed]

/-- A call that is over has added what it was handed, and then what its requests have brought. -/
theorem Operation.absorbs {lib : Libraries} {store : ReplayNonceStore} {operation : Operation}
    {trace : History} {outcome : Except Stop operation.Result}
    (run : (operation.program lib store).Ends trace outcome) :
    entered trace = operation.handed ++ trace.flatMap absorbed := by
  cases operation with
  | get => exact get_absorbs (get_run run)
  -- What is handed to it goes into the pool.
  | absorb answer =>
    obtain ⟨rfl, _⟩ := ends_pushAll.mp run
    rw [entered_pushes, absorbed_pushes, List.append_nil]
    rfl
  -- Nothing enters when the pool is emptied.
  | clear =>
    obtain ⟨reply, rfl, _⟩ := Fallible.ends_ask.mp run
    rfl
  -- An exchange is all that it does with the pool.
  | create directory contact termsAgreed onlyReturnExisting key =>
    obtain ⟨exchanged, posted, _⟩ := create_run run
    exact exchange_absorbs posted
  | postKid account url payload => exact exchange_absorbs (exchange_run run)

/-- The accounts of a store that is shared by any number of calls. -/
structure Conserves (lib : Libraries) (store : ReplayNonceStore) (operation : ι → Operation)
    (log : Log ι calls) : Prop where
  /-- What entered the pool was returned to a caller, was discarded, or is still there. -/
  conserved : total noncePushed log.events = total nonceTaken log.events
    + (discarded [] log.events : Multiset String) + (pool.after [] log.events : Multiset String)
  /-- What left the pool, and then what is still there, is what entered, in the same order. -/
  ordered : entered log.events = departed [] log.events ++ pool.after [] log.events
  /-- What a finished `get` took is what it returned. -/
  returned : ∀ caller, operation caller = .get → ∀ outcome,
    store.get.Ends (log.own caller) outcome →
      total nonceTaken (log.own caller) = returnedNonce outcome
  /--
  A call that is over has added exactly the nonces that it was to absorb, in their order: those
  it was handed, and those of the replies to its requests.
  -/
  absorbed : ∀ caller outcome,
    ((operation caller).program lib store).Ends (log.own caller) outcome →
      entered (log.own caller) = (operation caller).handed ++ (log.own caller).flatMap absorbed
  /-- Each caller adds only what it was handed or received itself, so nothing is put back. -/
  kept : ∀ caller, total noncePushed (log.own caller)
    ≤ (operation caller).given + total nonceReceived (log.own caller)
  /-- Each caller signs only what it took itself. -/
  spent : ∀ caller, total nonceSigned (log.own caller) ≤ total nonceTaken (log.own caller)
  /-- When no nonce was received twice, no nonce is signed twice. -/
  unique : ((∑ caller, (operation caller).given) + total nonceReceived log.events).Nodup →
    (total nonceSigned log.events).Nodup

/--
Any number of calls share one store, and their steps are merged in any order.
No nonce is lost or duplicated, the pool is a queue, and nothing that was handed to a request
is put back, whatever comes of the request.
-/
theorem shared_store_conserves {lib : Libraries} {store : ReplayNonceStore}
    {operation : ι → Operation} {log : Log ι calls}
    (run : Interleaved (fun caller => ((operation caller).program lib store).run) log)
    (shared : pool.Admits [] log.events) : Conserves lib store operation log := by
  -- A caller signs no more than it has taken.
  have signed : ∀ caller, total nonceSigned (log.own caller)
      ≤ 0 + total nonceTaken (log.own caller) := by
    intro caller
    obtain ⟨rest, leads⟩ := run caller
    exact Budget.covered (Program.Safe.leads ((operation caller).safe_signatures lib store) leads).1
  -- A caller adds no more than it was given or has received.
  have supplied : ∀ caller, total noncePushed (log.own caller)
      ≤ (operation caller).given + total nonceReceived (log.own caller) := by
    intro caller
    obtain ⟨rest, leads⟩ := run caller
    exact Budget.covered (Program.Safe.leads ((operation caller).safe_supplies lib store) leads).1
  refine
    -- The pool accounts for the nonces, and each caller's own steps for the rest.
    { conserved := pool_conserves shared
      ordered := by simpa using pool_order [] log.events
      returned := fun caller _ outcome ends => get_returns_taken (get_run ends)
      absorbed := fun caller outcome ends => Operation.absorbs ends
      kept := supplied
      spent := fun caller => by simpa using signed caller
      unique := fun distinct => Multiset.nodup_of_le ?_ distinct }
  -- What is signed was taken, what was taken had entered, and what entered was received.
  calc total nonceSigned log.events
      ≤ (∑ _caller : ι, 0) + total nonceTaken log.events :=
        run.covered fun caller => (operation caller).safe_signatures lib store
    _ ≤ total noncePushed log.events := by
        rw [pool_conserves shared, Finset.sum_const_zero, zero_add, add_assoc]
        exact Multiset.le_add_right _ _
    _ ≤ _ := run.covered fun caller => (operation caller).safe_supplies lib store

/-- Four calls on one store: a response is absorbed, a request fails, and the pool is discarded. -/
def sampleOperation : Fin 4 → Operation
  | 0 => .absorb
    { status := 200, headers := [("replay-nonce", "n8"), ("Replay-Nonce", "n9")], body := [] }
  | 1 => .postKid sampleAccount "ca/1" []
  | 2 => .clear
  | 3 => .get

/-- One order of their steps, in which the request takes its nonce while others are added. -/
def busyLog : Log (Fin 4) calls :=
  [(0, pushed "n8"), (1, popped (some "n8")), (0, pushed "n9"),
    (1, posted "ca/1" (sampleBody "ca/1" [] "n8") (.error (.transport "connection reset"))), (2, ⟨.clear, ()⟩),
    (3, popped none)]

/-- The accounts of these four calls balance. -/
theorem shared_store_conserves_sample :
    Conserves sampleLibraries sampleStore sampleOperation busyLog := by
  refine shared_store_conserves (fun caller => ?_) (by simp [busyLog, Log.events, pool])
  -- Two callers made calls, and two made none.
  fin_cases caller
  · exact ⟨_, .step (.step (.refl _))⟩
  · exact ⟨_, .step (.step (.refl _))⟩
  · exact ⟨_, .step (.refl _)⟩
  · exact ⟨_, .step (.refl _)⟩

end Acme
