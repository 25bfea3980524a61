import Acme.Interaction.Budget
import Acme.Proofs.Requests

/-! The accounts of the nonce pool: what enters it, what leaves it, and in which order. -/

namespace Acme

open Interaction

/-- The value an event adds to the pool. -/
def entering : Event calls → List String
  | ⟨.pushBack value, _⟩ => [value]
  | _ => []

/-- The values an event removes from the pool. -/
def leaving (queue : List String) : Event calls → List String
  | ⟨.popFront, _⟩ => queue.head?.toList
  | ⟨.clear, _⟩ => queue
  | _ => []

/-- The values an event discards. -/
def discarding (queue : List String) : Event calls → List String
  | ⟨.clear, _⟩ => queue
  | _ => []

/-- All values that entered the pool, in order. -/
def entered (trace : History) : List String :=
  trace.flatMap entering

/-- All values that left the pool, in order. -/
def departed : List String → History → List String
  | _, [] => []
  | queue, event :: later => leaving queue event ++ departed (pool.next queue event) later

/-- All values that were discarded. -/
def discarded : List String → History → List String
  | _, [] => []
  | queue, event :: later => discarding queue event ++ discarded (pool.next queue event) later

/-- The value that a caller took out of the pool. -/
def nonceTaken : Event calls → Multiset String
  | ⟨.popFront, some value⟩ => {value}
  | _ => 0

/-- The value that a caller added to the pool. -/
def noncePushed (event : Event calls) : Multiset String :=
  entering event

/-- The nonces that came back with a reply. -/
def brought : Except AcmeError HttpResponse → List String
  | .ok answer => answer.nonces
  | .error _ => []

/-- The nonces that a HEAD or a POST brought. -/
def nonceReceived : Event calls → Multiset String
  | ⟨.head _, answer⟩ | ⟨.postJose _ _, answer⟩ => brought answer
  | _ => 0

/-- The nonce that is signed into a POST. -/
def nonceSigned : Event calls → Multiset String
  | ⟨.postJose _ body, _⟩ => match readJws body with
    | some request => {request.header.nonce}
    | none => 0
  | _ => 0

/-- Values are added at the back. -/
@[simp] theorem after_pushes {queue values : List String} :
    pool.after queue (pushes values) = queue ++ values := by
  -- By induction on the values, each of which goes to the end of the queue.
  induction values generalizing queue with
  | nil => simp [pushes, World.after]
  | cons value values ih =>
    simp only [pushes, List.map_cons, World.after_cons] at ih ⊢
    rw [ih]
    simp

/-- Values can always be added. -/
@[simp] theorem admits_pushes {queue values : List String} :
    pool.Admits queue (pushes values) := by
  induction values generalizing queue with
  | nil => trivial
  | cons value values ih => exact ⟨trivial, ih⟩

/-- The pool is a queue: what was in it and what entered leave in that order. -/
theorem pool_order (queue : List String) (trace : History) :
    queue ++ entered trace = departed queue trace ++ pool.after queue trace := by
  -- By induction on the trace, with what is in the pool at its start.
  induction trace generalizing queue with
  | nil => simp [entered, departed]
  | cons event later ih =>
    -- Each event moves values from the front, or adds one at the back.
    have step : queue ++ entering event = leaving queue event ++ pool.next queue event := by
      obtain ⟨call, answer⟩ := event
      cases call <;> simp [entering, leaving, pool]
      cases queue <;> simp
    calc queue ++ entered (event :: later)
        = (queue ++ entering event) ++ entered later := by simp [entered]
      _ = leaving queue event ++ (pool.next queue event ++ entered later) := by
          rw [step, List.append_assoc]
      _ = departed queue (event :: later) ++ pool.after queue (event :: later) := by
          rw [ih, ← List.append_assoc]
          rfl

/-- What left the pool was taken by a caller or discarded. -/
theorem departed_eq {queue : List String} {trace : History} (shared : pool.Admits queue trace) :
    (departed queue trace : Multiset String)
      = total nonceTaken trace + (discarded queue trace : Multiset String) := by
  -- By induction on the trace: a value leaves by being taken, or by being thrown away.
  induction trace generalizing queue with
  | nil => simp [departed, discarded]
  | cons event later ih =>
    obtain ⟨allowed, shared⟩ := shared
    have step : (leaving queue event : Multiset String)
        = nonceTaken event + (discarding queue event : Multiset String) := by
      obtain ⟨call, answer⟩ := event
      cases call <;> simp [leaving, discarding, nonceTaken]
      -- A caller is given the front of the queue, if there is one.
      obtain rfl : answer = queue.head? := allowed
      cases queue <;> simp
    simp only [departed, discarded, ← Multiset.coe_add, total_cons, step, ih shared]
    ac_rfl

/-- What the callers added to the pool is what entered it. -/
theorem total_noncePushed (trace : History) :
    total noncePushed trace = (entered trace : Multiset String) := by
  -- Both sides count the values that are pushed.
  induction trace with
  | nil => rfl
  | cons event later ih => simp [ih, entered, noncePushed]

/-- Everything that entered an empty pool was taken, was discarded, or is still there. -/
theorem pool_conserves {trace : History} (shared : pool.Admits [] trace) :
    total noncePushed trace = total nonceTaken trace + (discarded [] trace : Multiset String)
      + (pool.after [] trace : Multiset String) := by
  rw [total_noncePushed, ← departed_eq shared, Multiset.coe_add, ← pool_order, List.nil_append]

end Acme
