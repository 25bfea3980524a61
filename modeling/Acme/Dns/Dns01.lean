import Acme.Core.Challenge
import Acme.Dns.Provider

/-! The DNS-01 record of a challenge, and publishing it while a caller's closure runs. -/

namespace Acme.Dns01

open Interaction Dns

/-- What has to be published for one challenge. -/
structure Dns01Record where
  /-- The name of the record. -/
  name : String
  /-- Its text. -/
  value : String
  /-- The time to live that is asked for. -/
  ttlSeconds : UInt32
  deriving DecidableEq

/-- The name of the record for an identifier. -/
def recordName (identifier : String) : String :=
  -- The record of a wildcard belongs to the domain below it.
  let base := match "*.".toList.isPrefixOf? identifier.toList with
    | some rest => String.ofList rest
    | none => identifier
  "_acme-challenge." ++ base

/-- The text of the record. -/
def recordValue (lib : Libraries) (token : String) (accountKey : AccountKey) : String :=
  sha256KeyAuthorization lib token accountKey

/-- The record of a challenge. -/
def record (lib : Libraries) (identifier token : String) (accountKey : AccountKey) : Dns01Record :=
  { name := recordName identifier
    value := recordValue lib token accountKey
    ttlSeconds := 60 }

/-- How control leaves a function without a result: by an error, or by a panic that unwinds. -/
inductive Unwind where
  | error (failure : DnsProviderError)
  | panic (message : String)
  deriving DecidableEq

/-- One call of the helper: to the provider, or of the caller's closure. -/
inductive Call where
  /-- Publish a record. -/
  | upsertTxt (name value : String) (ttlSeconds : UInt32)
  /-- Run the closure on a record. -/
  | run (record : Dns01Record)
  /-- Remove a published record. -/
  | deleteTxt (handle : RecordHandle)
  deriving DecidableEq

/-- What each call may be answered; the closure gives a value of the caller's type. -/
abbrev Call.Reply (T : Type) : Call → Type
  | .upsertTxt _ _ _ => Except DnsProviderError RecordHandle
  | .run _ => Except Unwind T
  | .deleteTxt _ => Except DnsProviderError Unit

/-- The helper's calls and their replies. -/
abbrev calls (T : Type) : Signature where
  Call := Call
  Reply := Call.Reply T

/-- What the closure returned, unless it panicked. -/
def returned {T : Type} (ended : Except Unwind T) : Except Unwind (Except DnsProviderError T) :=
  match ended with
  | .ok value => .ok (.ok value)
  | .error (.error failure) => .ok (.error failure)
  -- A panic goes on through the helper, which has nothing to drop.
  | .error (.panic message) => .error (.panic message)

/-- Publish the record of a challenge, run the closure, and remove the record. -/
def withProvisionedRecord {T : Type} (lib : Libraries) (identifier token : String)
    (accountKey : AccountKey) : Fallible (calls T) Unwind T := do
  let record := record lib identifier token accountKey
  let handle ← Fallible.ask (S := calls T)
    (.upsertTxt record.name record.value record.ttlSeconds) fun reply => reply.mapError .error
  let result ← Fallible.ask (S := calls T) (.run record) returned
  -- Whether the record could be removed does not matter.
  let _ ← Fallible.ask (S := calls T) (.deleteTxt handle) fun reply => .ok reply
  Fallible.ofExcept (result.mapError .error)

end Acme.Dns01
