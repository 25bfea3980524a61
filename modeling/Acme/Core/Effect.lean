import Acme.Core.Transport
import Acme.Interaction.Safety

/-! The calls the client makes to its surroundings, and programs made of them. -/

namespace Acme

open Interaction

/-- The handle of an armed challenge; dropping it takes the challenge response down again. -/
abbrev Handle := Nat

/-- One call to the transport, the shared nonce pool, a solver or the clock. -/
inductive Call where
  /-- HEAD a URL. -/
  | head (url : String)
  /-- GET a URL. -/
  | get (url : String)
  /-- POST a signed body to a URL. -/
  | postJose (url : String) (body : Bytes)
  /-- Take the oldest nonce out of the pool. -/
  | popFront
  /-- Add a nonce to the pool. -/
  | pushBack (value : String)
  /-- Ask whether the pool is empty. -/
  | isEmpty
  /-- Discard the whole pool. -/
  | clear
  /-- Ask a solver, by its position, to provision a challenge response. -/
  | arm (solver : Nat) (identifier : Identifier) (keyAuthorization : String)
  /-- Ask an armed challenge whether its response can be seen. -/
  | selfCheck (ready : Handle)
  /-- Take a challenge response down. -/
  | dropReady (ready : Handle)
  /-- Read the clock. -/
  | now
  /-- Wait. -/
  | sleep (time : Duration)
deriving DecidableEq

/-- What each call may be answered. -/
abbrev Call.Reply : Call → Type
  | .head _ | .get _ | .postJose _ _ => Except AcmeError HttpResponse
  | .popFront => Option String
  | .isEmpty => Bool
  | .arm _ _ _ => Except AcmeError Handle
  | .selfCheck _ => Except AcmeError Unit
  | .now => Instant
  | .pushBack _ | .clear | .dropReady _ | .sleep _ => Unit

/-- The client's calls and their replies. -/
abbrev calls : Signature where
  Call := Call
  Reply := Call.Reply

instance : (call : Call) → DecidableEq (calls.Reply call)
  | .head _ | .get _ | .postJose _ _ => inferInstanceAs (DecidableEq (Except AcmeError HttpResponse))
  | .popFront => inferInstanceAs (DecidableEq (Option String))
  | .isEmpty => inferInstanceAs (DecidableEq Bool)
  | .arm _ _ _ => inferInstanceAs (DecidableEq (Except AcmeError Handle))
  | .selfCheck _ => inferInstanceAs (DecidableEq (Except AcmeError Unit))
  | .now => inferInstanceAs (DecidableEq Instant)
  | .pushBack _ | .clear | .dropReady _ | .sleep _ => inferInstanceAs (DecidableEq Unit)

/-- Every call can be answered. -/
theorem answerable (call : Call) : Nonempty (calls.Reply call) := by
  -- Every call can fail, be empty, or give back a value that is always there.
  cases call
  case head | get | postJose => exact ⟨.error (.other "")⟩
  case popFront => exact ⟨none⟩
  case isEmpty => exact ⟨true⟩
  case arm | selfCheck => exact ⟨.error (.other "")⟩
  case now => exact ⟨0⟩
  case pushBack | clear | dropReady | sleep => exact ⟨()⟩

/-- Why a program stopped early: with an error, by a panic, or cut short by its loop bound. -/
inductive Stop where
  | error (failure : AcmeError)
  | panic (message : String)
  | unfinished
deriving DecidableEq

/-- A client operation. -/
abbrev Client := Fallible calls Stop

/-- What has happened, in order. -/
abbrev History := Trace calls

/-- A HEAD and what came back. -/
abbrev headed (url : String) (reply : Except AcmeError HttpResponse) : Event calls :=
  ⟨.head url, reply⟩

/-- A GET and what came back. -/
abbrev got (url : String) (reply : Except AcmeError HttpResponse) : Event calls :=
  ⟨.get url, reply⟩

/-- A POST and what came back. -/
abbrev posted (url : String) (body : Bytes) (reply : Except AcmeError HttpResponse) :
    Event calls :=
  ⟨.postJose url body, reply⟩

/-- What was taken out of the pool. -/
abbrev popped (reply : Option String) : Event calls := ⟨.popFront, reply⟩

/-- What was added to the pool. -/
abbrev pushed (value : String) : Event calls := ⟨.pushBack value, ()⟩

/-- Whether the pool was found empty. -/
abbrev foundEmpty (reply : Bool) : Event calls := ⟨.isEmpty, reply⟩

/-- An attempt to arm a challenge. -/
abbrev armed (solver : Nat) (identifier : Identifier) (keyAuthorization : String)
    (reply : Except AcmeError Handle) : Event calls :=
  ⟨.arm solver identifier keyAuthorization, reply⟩

/-- A check of an armed challenge. -/
abbrev checked (ready : Handle) (reply : Except AcmeError Unit) : Event calls :=
  ⟨.selfCheck ready, reply⟩

/-- The end of an armed challenge. -/
abbrev dropped (ready : Handle) : Event calls := ⟨.dropReady ready, ()⟩

/-- A reading of the clock. -/
abbrev clocked (time : Instant) : Event calls := ⟨.now, time⟩

/-- A pause. -/
abbrev slept (time : Duration) : Event calls := ⟨.sleep time, ()⟩

/-- The result of a computation, with its error as the operation's. -/
def result {α : Type} (outcome : Except AcmeError α) : Except Stop α :=
  outcome.mapError .error

@[simp] theorem result_ok {α : Type} {value : α} :
    result (.ok value : Except AcmeError α) = .ok value := rfl

@[simp] theorem result_error {α : Type} {failure : AcmeError} :
    result (.error failure : Except AcmeError α) = .error (.error failure) := rfl

/-- Continue with the result of a computation. -/
def lift {α : Type} (outcome : Except AcmeError α) : Client α :=
  Fallible.ofExcept (result outcome)

/-- HEAD a URL through the transport. -/
def head (url : String) : Client HttpResponse :=
  Fallible.ask (S := calls) (.head url) result

/-- GET a URL through the transport. -/
def get (url : String) : Client HttpResponse :=
  Fallible.ask (S := calls) (.get url) result

/-- POST a body through the transport. -/
def postJose (url : String) (body : Bytes) : Client HttpResponse :=
  Fallible.ask (S := calls) (.postJose url body) result

/-- Take the oldest nonce out of the pool. -/
def popFront : Client (Option String) :=
  Fallible.ask (S := calls) .popFront .ok

/-- Add a nonce to the pool. -/
def pushBack (value : String) : Client Unit :=
  Fallible.ask (S := calls) (.pushBack value) .ok

/-- Whether the pool is empty. -/
def isEmpty : Client Bool :=
  Fallible.ask (S := calls) .isEmpty .ok

/-- Discard the whole pool. -/
def clear : Client Unit :=
  Fallible.ask (S := calls) .clear .ok

/-- Let a solver provision a challenge response. -/
def arm (solver : Nat) (identifier : Identifier) (keyAuthorization : String) : Client Handle :=
  Fallible.ask (S := calls) (.arm solver identifier keyAuthorization) result

/-- Check that a challenge response can be seen. -/
def selfCheck (ready : Handle) : Client Unit :=
  Fallible.ask (S := calls) (.selfCheck ready) result

/-- Take a challenge response down. -/
def dropReady (ready : Handle) : Client Unit :=
  Fallible.ask (S := calls) (.dropReady ready) .ok

/-- Read the clock. -/
def now : Client Instant :=
  Fallible.ask (S := calls) .now .ok

/-- Wait. -/
def sleep (time : Duration) : Client Unit :=
  Fallible.ask (S := calls) (.sleep time) .ok

end Acme
