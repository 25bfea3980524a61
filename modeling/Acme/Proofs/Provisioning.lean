import Acme.Dns.Dns01
import Acme.Proofs.ScriptedAuthority

/-! When the record of a challenge is removed again. -/

namespace Acme.Dns01

open Interaction Dns

variable {T : Type}

/-- The publication of a record. -/
abbrev published (record : Dns01Record) (reply : Except DnsProviderError RecordHandle) :
    Event (calls T) :=
  ⟨.upsertTxt record.name record.value record.ttlSeconds, reply⟩

/-- The closure's run on a record. -/
abbrev ran (record : Dns01Record) (ended : Except Unwind T) : Event (calls T) :=
  ⟨.run record, ended⟩

/-- The removal of a record. -/
abbrev deleted (handle : RecordHandle) (reply : Except DnsProviderError Unit) :
    Event (calls T) :=
  ⟨.deleteTxt handle, reply⟩

/-- How a run that cleans up on every way out may go. -/
inductive CleansUp (record : Dns01Record) : Trace (calls T) → Except Unwind T → Prop where
  /-- What could not be published is neither shown to the closure nor removed. -/
  | refused (failure : DnsProviderError) :
      CleansUp record [published record (.error failure)] (.error (.error failure))
  /-- What was published is removed once the closure has ended, whose outcome is the result. -/
  | finished (handle : RecordHandle) (ended : Except Unwind T)
      (removal : Except DnsProviderError Unit) :
      CleansUp record
        [published record (.ok handle), ran record ended, deleted handle removal] ended

/-- A run that cleans up makes one call, or all three. -/
theorem CleansUp.length {record : Dns01Record} {trace : Trace (calls T)}
    {outcome : Except Unwind T} (clean : CleansUp record trace outcome) :
    trace.length = 1 ∨ trace.length = 3 := by
  cases clean with
  | refused => exact .inl rfl
  | finished => exact .inr rfl

/-- How a run does go: the record that was published stays when the closure panics. -/
theorem provisioned_run {lib : Libraries} {identifier token : String} {accountKey : AccountKey}
    {trace : Trace (calls T)} {outcome : Except Unwind T}
    (ends : (withProvisionedRecord lib identifier token accountKey).Ends trace outcome) :
    (CleansUp (record lib identifier token accountKey) trace outcome ∧
        ∀ message, ran (record lib identifier token accountKey) (.error (.panic message)) ∉ trace) ∨
      ∃ handle message, outcome = .error (.panic message) ∧
        trace = [published (record lib identifier token accountKey) (.ok handle),
          ran (record lib identifier token accountKey) (.error (.panic message))] := by
  simp only [withProvisionedRecord, Fallible.ends_ask_bind] at ends
  obtain ⟨reply, later, rfl, ends⟩ := ends
  cases reply with
  -- The record could not be published, and nothing else is done.
  | error failure =>
    obtain ⟨rfl, rfl⟩ := ends
    exact .inl ⟨.refused failure, by simp⟩
  | ok handle =>
    obtain ⟨ended, last, rfl, ends⟩ := ends
    -- A value and an error are kept for later, and a panic leaves at once.
    rcases ended with (failure | message) | value
    · obtain ⟨removal, rest, rfl, ends⟩ := ends
      obtain ⟨rfl, rfl⟩ := Fallible.ends_ofExcept.mp ends
      exact .inl ⟨.finished handle _ removal, by simp⟩
    · -- The closure has panicked, and the record stays.
      obtain ⟨rfl, rfl⟩ := ends
      exact .inr ⟨handle, message, rfl, rfl⟩
    · obtain ⟨removal, rest, rfl, ends⟩ := ends
      obtain ⟨rfl, rfl⟩ := Fallible.ends_ofExcept.mp ends
      exact .inl ⟨.finished handle _ removal, by simp⟩

/-- A run cleans up exactly when the closure does not panic. -/
theorem provisioned_cleans_iff {lib : Libraries} {identifier token : String}
    {accountKey : AccountKey} {trace : Trace (calls T)} {outcome : Except Unwind T}
    (ends : (withProvisionedRecord lib identifier token accountKey).Ends trace outcome) :
    CleansUp (record lib identifier token accountKey) trace outcome ↔
      ¬ ∃ message,
        ran (record lib identifier token accountKey) (.error (.panic message)) ∈ trace := by
  rcases provisioned_run ends with ⟨clean, calm⟩ | ⟨handle, message, rfl, rfl⟩
  · exact iff_of_true clean fun ⟨message, member⟩ => calm message member
  · refine iff_of_false ?_ (fun quiet => quiet ⟨message, by simp⟩)
    intro clean
    -- A run with a panic has two calls, and a clean one has one or three.
    have count := clean.length
    simp at count

/-- The calls of a run in which the closure ends in some way, and the record cannot be removed. -/
def sampleRun (ended : Except Unwind Unit) : Trace (calls Unit) × Except Unwind Unit :=
  (withProvisionedRecord sampleLibraries "*.example.com" "tok-1" sampleKey).run.play
    (fun _ call => match call with
      | .upsertTxt _ _ _ => .ok ⟨"zone-abcd/rec-xyz"⟩
      | .run _ => ended
      | .deleteTxt _ => .error (.transport "connection reset")) []

/-- It is a run of the helper. -/
theorem sampleRun_ends (ended : Except Unwind Unit) :
    (withProvisionedRecord sampleLibraries "*.example.com" "tok-1" sampleKey).Ends
      (sampleRun ended).1 (sampleRun ended).2 :=
  Program.play_returns _ _ _

/-- An error of the closure is the result, although the record could not be removed. -/
theorem failed_closure_cleans :
    CleansUp (record sampleLibraries "*.example.com" "tok-1" sampleKey)
      (sampleRun (.error (.error (.propagationTimeout "x")))).1
      (sampleRun (.error (.error (.propagationTimeout "x")))).2 := by
  apply (provisioned_cleans_iff (sampleRun_ends _)).mpr
  intro ⟨message, member⟩
  -- The second of the three calls ended in an error that is no panic.
  have calls : (sampleRun (.error (.error (.propagationTimeout "x")))).1 =
      [published (record sampleLibraries "*.example.com" "tok-1" sampleKey)
          (.ok ⟨"zone-abcd/rec-xyz"⟩),
        ran (record sampleLibraries "*.example.com" "tok-1" sampleKey)
          (.error (.error (.propagationTimeout "x"))),
        deleted ⟨"zone-abcd/rec-xyz"⟩ (.error (.transport "connection reset"))] := rfl
  rw [calls] at member
  simp at member

/-- A panic of the closure leaves the published record behind. -/
theorem panicked_closure_leaks :
    (sampleRun (.error (.panic "assertion failed"))).1 =
        [published (record sampleLibraries "*.example.com" "tok-1" sampleKey)
            (.ok ⟨"zone-abcd/rec-xyz"⟩),
          ran (record sampleLibraries "*.example.com" "tok-1" sampleKey)
            (.error (.panic "assertion failed"))] ∧
      ¬ CleansUp (record sampleLibraries "*.example.com" "tok-1" sampleKey)
        (sampleRun (.error (.panic "assertion failed"))).1
        (sampleRun (.error (.panic "assertion failed"))).2 := by
  refine ⟨rfl, ?_⟩
  intro clean
  -- Two calls were made.
  have count : 2 = 1 ∨ 2 = 3 := clean.length
  omega

end Acme.Dns01
