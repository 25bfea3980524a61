import Acme.Core.Effect

/-! The shared pool of replay nonces. -/

namespace Acme

open Interaction

/-- A nonce source that tops its pool up from one URL; the pool itself is part of the world. -/
structure ReplayNonceStore where
  newNonceUrl : String
deriving DecidableEq, Repr

namespace ReplayNonceStore

/-- Add values to the pool one by one. -/
def pushAll : List String → Client Unit
  | [] => pure ()
  | value :: rest => do
    -- The lock is taken once for each value.
    pushBack value
    pushAll rest

/-- Add every nonempty nonce of a response to the pool. -/
def absorb (response : HttpResponse) : Client Unit :=
  pushAll response.nonces

/-- Fetch nonces for an empty pool. -/
def refill (store : ReplayNonceStore) : Client Unit := do
  let response ← head store.newNonceUrl
  if response.isSuccess then
    absorb response
    -- Another caller may have taken what was added.
    let empty ← isEmpty
    if empty then
      throw (.error (.missingField "Replay-Nonce on newNonce response"))
  else
    throw (.error (.transport
      ("newNonce HEAD returned status " ++ toString response.status.toNat)))

/-- Take a nonce, fetching one when the pool is empty. -/
def get (store : ReplayNonceStore) : Client String := do
  -- The pool comes first, and only an empty one is refilled.
  match ← popFront with
  | some n => pure n
  | none =>
    store.refill
    -- The pool is not locked in between, so it may be empty again.
    match ← popFront with
    | some n => pure n
    | none => throw (.error (.missingField "Replay-Nonce on newNonce response"))

end ReplayNonceStore

/-- What the pool answers: it is a queue, and everything else leaves it as it is. -/
def pool : World calls (List String) where
  Allows queue event := match event with
    | ⟨.popFront, reply⟩ => reply = queue.head?
    | ⟨.isEmpty, reply⟩ => reply = queue.isEmpty
    | _ => True
  next queue event := match event with
    | ⟨.popFront, _⟩ => queue.tail
    | ⟨.pushBack value, _⟩ => queue ++ [value]
    | ⟨.clear, _⟩ => []
    | _ => queue

namespace pool

@[simp] theorem allows_popped {queue : List String} {reply : Option String} :
    pool.Allows queue (popped reply) ↔ reply = queue.head? := Iff.rfl

@[simp] theorem allows_foundEmpty {queue : List String} {reply : Bool} :
    pool.Allows queue (foundEmpty reply) ↔ reply = queue.isEmpty := Iff.rfl

@[simp] theorem allows_pushed {queue : List String} {value : String} :
    pool.Allows queue (pushed value) := trivial

@[simp] theorem allows_headed {queue : List String} {url : String}
    {reply : Except AcmeError HttpResponse} : pool.Allows queue (headed url reply) := trivial

@[simp] theorem allows_posted {queue : List String} {url : String} {body : Bytes}
    {reply : Except AcmeError HttpResponse} : pool.Allows queue (posted url body reply) := trivial

@[simp] theorem next_popped {queue : List String} {reply : Option String} :
    pool.next queue (popped reply) = queue.tail := rfl

@[simp] theorem next_pushed {queue : List String} {value : String} :
    pool.next queue (pushed value) = queue ++ [value] := rfl

@[simp] theorem next_foundEmpty {queue : List String} {reply : Bool} :
    pool.next queue (foundEmpty reply) = queue := rfl

@[simp] theorem next_headed {queue : List String} {url : String}
    {reply : Except AcmeError HttpResponse} : pool.next queue (headed url reply) = queue := rfl

@[simp] theorem next_posted {queue : List String} {url : String} {body : Bytes}
    {reply : Except AcmeError HttpResponse} : pool.next queue (posted url body reply) = queue := rfl

end pool

end Acme
