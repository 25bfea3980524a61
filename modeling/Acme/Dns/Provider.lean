import Mathlib.Data.List.Basic

/-! The seam DNS providers implement, and the provider that keeps its records in memory. -/

namespace Acme.Dns

/-- The cookie a provider hands back for a published record. -/
structure RecordHandle where
  /-- The text of the cookie. -/
  id : String
  deriving DecidableEq

/-- Every failure a provider reports. -/
inductive DnsProviderError where
  | rejected (message : String)
  | transport (message : String)
  | zoneNotFound (zone : String)
  | propagationTimeout (name : String)
  deriving DecidableEq

/-- A call of a provider. -/
inductive ProviderCall where
  | upsertTxt (name value : String) (ttlSeconds : UInt32)
  | deleteTxt (handle : RecordHandle)
  deriving DecidableEq

/-- A live record of the provider in memory. -/
structure MockRecord where
  /-- The name it answers for. -/
  name : String
  /-- The text it answers. -/
  value : String
  /-- The handle it was published under. -/
  handle : String
  deriving DecidableEq

/-- The provider in memory: its live records, oldest first. -/
abbrev MockDnsProvider := List MockRecord

/-- The live records as pairs of a name and a value. -/
def MockDnsProvider.snapshot (records : MockDnsProvider) : List (String × String) :=
  records.map fun record => (record.name, record.value)

/-- The handle of a record published next to a number of live ones. -/
def mockHandle (count : Nat) (name : String) : String :=
  "mock-" ++ toString count ++ "-" ++ name

/-- Publish a record. -/
def MockDnsProvider.upsertTxt (records : MockDnsProvider) (name value : String)
    (_ttlSeconds : UInt32) : Except DnsProviderError RecordHandle × MockDnsProvider :=
  -- The number is that of the live records, not of all that were published.
  let handle := mockHandle records.length name
  (.ok ⟨handle⟩, records ++ [⟨name, value, handle⟩])

/-- Remove every live record with the handle. -/
def MockDnsProvider.deleteTxt (records : MockDnsProvider) (handle : RecordHandle) :
    Except DnsProviderError Unit × MockDnsProvider :=
  (.ok (), records.filter fun record => record.handle ≠ handle.id)

/-- The provider after a call. -/
def MockDnsProvider.after (records : MockDnsProvider) : ProviderCall → MockDnsProvider
  | .upsertTxt name value ttlSeconds => (records.upsertTxt name value ttlSeconds).2
  | .deleteTxt handle => (records.deleteTxt handle).2

/-- A new provider after a sequence of calls. -/
def MockDnsProvider.run (calls : List ProviderCall) : MockDnsProvider :=
  calls.foldl MockDnsProvider.after []

end Acme.Dns
