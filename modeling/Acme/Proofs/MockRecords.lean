import Acme.Dns.Provider
import Acme.Encoding.Split
import Mathlib.Data.List.Induction
import Mathlib.Data.List.Nodup

/-! Which records the provider in memory removes, over every sequence of calls. -/

namespace Acme.Dns

/-- What a publishing call was given, and how many live records it found. -/
structure Birth where
  /-- The name it published. -/
  name : String
  /-- The text it published. -/
  value : String
  /-- The live records it found. -/
  count : Nat
  deriving DecidableEq

/-- The handle the call returned. -/
def Birth.handle (birth : Birth) : String :=
  mockHandle birth.count birth.name

/-- The record the call published. -/
def Birth.record (birth : Birth) : MockRecord :=
  ⟨birth.name, birth.value, birth.handle⟩

/-- The provider with every record tagged by the call that published it. -/
structure Ledger where
  /-- The publishing calls so far, oldest first. -/
  births : List Birth
  /-- The live records, each behind the number of its publishing call. -/
  live : List (Nat × Birth)

/-- The live records without their tags. -/
def Ledger.records (ledger : Ledger) : MockDnsProvider :=
  ledger.live.map fun entry => entry.2.record

/-- The tagged provider after a call. -/
def Ledger.after (ledger : Ledger) : ProviderCall → Ledger
  | .upsertTxt name value _ =>
    let birth := ⟨name, value, ledger.live.length⟩
    ⟨ledger.births ++ [birth], ledger.live ++ [(ledger.births.length, birth)]⟩
  | .deleteTxt handle =>
    ⟨ledger.births, ledger.live.filter fun entry => entry.2.handle ≠ handle.id⟩

/-- The tagged provider after a sequence of calls. -/
def Ledger.run (calls : List ProviderCall) : Ledger :=
  calls.foldl Ledger.after ⟨[], []⟩

/-- Without the tags, one call does what the provider does. -/
theorem Ledger.records_after (ledger : Ledger) (call : ProviderCall) :
    (ledger.after call).records = ledger.records.after call := by
  -- One case for each call.
  cases call with
  | upsertTxt name value ttlSeconds =>
    simp [after, records, MockDnsProvider.after, MockDnsProvider.upsertTxt, Birth.record,
      Birth.handle]
  | deleteTxt handle =>
    simp only [after, records, MockDnsProvider.after, MockDnsProvider.deleteTxt, List.filter_map]
    rfl

/-- Without the tags, a run does what the provider does. -/
theorem Ledger.records_run (calls : List ProviderCall) :
    (Ledger.run calls).records = MockDnsProvider.run calls := by
  -- By induction on the calls, from any ledger.
  have general : ∀ ledger : Ledger, (calls.foldl Ledger.after ledger).records =
      calls.foldl MockDnsProvider.after ledger.records := by
    induction calls with
    | nil =>
      intro ledger
      rfl
    | cons call rest ih =>
      intro ledger
      rw [List.foldl_cons, List.foldl_cons, ih, Ledger.records_after]
  exact general ⟨[], []⟩

/-- A publishing call returns the handle of the birth it is recorded as. -/
theorem Ledger.upsert_returns (ledger : Ledger) (name value : String) (ttlSeconds : UInt32) :
    (ledger.records.upsertTxt name value ttlSeconds).1 =
      .ok ⟨(Birth.mk name value ledger.live.length).handle⟩ := by
  simp [MockDnsProvider.upsertTxt, records, Birth.handle]

/-- A call after a run. -/
theorem Ledger.run_append (done : List ProviderCall) (call : ProviderCall) :
    Ledger.run (done ++ [call]) = (Ledger.run done).after call := by
  rw [run, run, List.foldl_append, List.foldl_cons, List.foldl_nil]

/-- Every live record was published by the call it is tagged with. -/
def Ledger.Recorded (ledger : Ledger) : Prop :=
  ∀ entry ∈ ledger.live, ledger.births[entry.1]? = some entry.2

/-- One call keeps the tags right. -/
theorem Ledger.Recorded.after {ledger : Ledger} (recorded : ledger.Recorded)
    (call : ProviderCall) : (ledger.after call).Recorded := by
  intro entry member
  cases call with
  | upsertTxt name value ttlSeconds =>
    -- Old tags keep pointing at old calls, and the new one at the last call.
    rcases List.mem_append.mp member with old | new
    · have known := recorded entry old
      have bound := (List.getElem?_eq_some_iff.mp known).1
      rw [Ledger.after, List.getElem?_append_left bound]
      exact known
    · rw [List.mem_singleton.mp new]
      exact List.getElem?_concat_length
  -- What is left was recorded before.
  | deleteTxt handle => exact recorded entry (List.mem_filter.mp member).1

/-- The tags are right after every run. -/
theorem Ledger.recorded_run (calls : List ProviderCall) : (Ledger.run calls).Recorded := by
  -- By induction on the calls, each of which keeps the relation.
  induction calls using List.reverseRec with
  | nil =>
    intro entry member
    cases member
  | append_singleton done call ih =>
    rw [Ledger.run_append]
    exact ih.after call

/-- No digit is a dash. -/
theorem dash_not_mem_repr (count : Nat) : '-' ∉ (toString count).toList := by
  -- Decimal numbers consist of digits.
  intro member
  rw [Nat.toString_eq_ofList_toDigits, String.toList_ofList] at member
  have digit := Nat.isDigit_of_mem_toDigits (by decide) (by decide) member
  cases digit

/-- A number is written in one way. -/
theorem repr_inj {count other : Nat}
    (same : (toString count).toList = (toString other).toList) : count = other := by
  -- The digits of a number determine it.
  rw [Nat.toString_eq_ofList_toDigits, Nat.toString_eq_ofList_toDigits, String.toList_ofList,
    String.toList_ofList] at same
  rw [← Nat.ofDigitChars_toDigits (b := 10) (n := count) (by decide) (by decide), same,
    Nat.ofDigitChars_toDigits (by decide) (by decide)]

/-- A handle states the number of live records and the name. -/
theorem mockHandle_inj {count other : Nat} {name label : String} :
    mockHandle count name = mockHandle other label ↔ count = other ∧ name = label := by
  constructor
  · intro same
    have chars := congrArg String.toList same
    simp only [mockHandle, String.toList_append, List.append_assoc, List.append_cancel_left_eq]
      at chars
    -- The number ends at the first dash behind it.
    have split := Split.append_cons_inj (dash_not_mem_repr count) (dash_not_mem_repr other) chars
    exact ⟨repr_inj split.1, String.toList_inj.mp split.2⟩
  · intro ⟨counts, names⟩
    rw [counts, names]

/-- Two publishing calls return one handle when they agree on the name and the count. -/
theorem Birth.handle_eq_iff {birth other : Birth} :
    birth.handle = other.handle ↔ birth.count = other.count ∧ birth.name = other.name :=
  mockHandle_inj

/-- No two live records share a handle. -/
def MockDnsProvider.Distinct (records : MockDnsProvider) : Prop :=
  (records.map MockRecord.handle).Nodup

/-- A delete removes the record its handle was returned for, and no other one. -/
structure RemovesExactly (before : Ledger) (handle : RecordHandle) (after : Ledger) : Prop where
  /-- Only the record of the call that returned the handle goes, if it is still there. -/
  own : ∀ serial birth, before.births[serial]? = some birth → birth.handle = handle.id →
    after.live = before.live.filter fun entry => entry.1 ≠ serial
  /-- A handle that no call returned removes nothing. -/
  unknown : (∀ birth ∈ before.births, birth.handle ≠ handle.id) → after.live = before.live

/-- After the call the handles are distinct, and a delete has removed its own record only. -/
structure KeepsHandles (before : Ledger) (call : ProviderCall) : Prop where
  /-- No two live records share a handle. -/
  distinct : (before.after call).records.Distinct
  /-- A delete concerns one record. -/
  exact : ∀ handle, call = .deleteTxt handle → RemovesExactly before handle (before.after call)

/-- The call meets no second record of the same name that found the same number of records. -/
def Unambiguous (before : Ledger) : ProviderCall → Prop
  | .upsertTxt name _ _ =>
    ∀ entry ∈ before.live, entry.2.name = name → entry.2.count ≠ before.live.length
  | .deleteTxt handle =>
    ∀ entry ∈ before.live, entry.2.handle = handle.id →
      ∀ serial birth, before.births[serial]? = some birth → birth.name = entry.2.name →
        birth.count = entry.2.count → serial = entry.1

/-- The handles of the live records. -/
theorem Ledger.records_handles (ledger : Ledger) :
    ledger.records.map MockRecord.handle = ledger.live.map fun entry => entry.2.handle := by
  rw [records, List.map_map]
  rfl

/-- A new record keeps the handles distinct exactly when no live one has its handle. -/
theorem distinct_upsert_iff {before : Ledger} (distinct : before.records.Distinct)
    (name value : String) (ttlSeconds : UInt32) :
    (before.after (.upsertTxt name value ttlSeconds)).records.Distinct ↔
      Unambiguous before (.upsertTxt name value ttlSeconds) := by
  unfold MockDnsProvider.Distinct at distinct ⊢
  rw [Ledger.records_handles] at distinct ⊢
  rw [Ledger.after, List.map_append, List.map_singleton]
  constructor
  · -- The new handle differs from that of every live record.
    intro apart entry member names counts
    have fresh := (List.nodup_append.mp apart).2.2 entry.2.handle
      (List.mem_map.mpr ⟨entry, member, rfl⟩) _ List.mem_cons_self
    exact fresh (Birth.handle_eq_iff.mpr ⟨counts, names⟩)
  · intro fresh
    refine List.nodup_append.mpr ⟨distinct, List.nodup_singleton _, ?_⟩
    intro old member new single same
    -- An equal handle would be one of the same name and the same count.
    obtain ⟨entry, live, rfl⟩ := List.mem_map.mp member
    rw [List.mem_singleton.mp single] at same
    have parts := Birth.handle_eq_iff.mp same
    exact fresh entry live parts.2 parts.1

/-- Removing records keeps the handles distinct. -/
theorem distinct_delete {before : Ledger} (distinct : before.records.Distinct)
    (handle : RecordHandle) : (before.after (.deleteTxt handle)).records.Distinct := by
  -- What is left is a sublist of what was there.
  unfold MockDnsProvider.Distinct at distinct ⊢
  rw [Ledger.records_handles] at distinct ⊢
  have fewer : (before.after (.deleteTxt handle)).live.Sublist before.live := List.filter_sublist
  exact distinct.sublist (fewer.map _)

/-- A delete is exact exactly when no second call of the run returned the handle of a live
record. -/
theorem removesExactly_iff {before : Ledger} (recorded : before.Recorded)
    (handle : RecordHandle) :
    RemovesExactly before handle (before.after (.deleteTxt handle)) ↔
      Unambiguous before (.deleteTxt handle) := by
  constructor
  · intro exact entry member own serial birth known names counts
    -- The live record is gone afterwards, so it is the one of that call.
    have same : birth.handle = handle.id := by
      rw [← own]
      exact Birth.handle_eq_iff.mpr ⟨counts, names⟩
    have removed := exact.own serial birth known same
    by_contra other
    -- Another record would have stayed.
    have kept : entry ∈ before.live.filter fun entry => entry.1 ≠ serial :=
      List.mem_filter.mpr ⟨member, decide_eq_true (Ne.symm other)⟩
    rw [← removed] at kept
    have gone := of_decide_eq_true (List.mem_filter.mp kept).2
    exact gone own
  · intro alone
    refine ⟨?_, ?_⟩
    · intro serial birth known same
      apply List.filter_congr
      intro entry member
      -- For a live record, to have the handle is to be the record of that call.
      have agrees : entry.2.handle = handle.id ↔ entry.1 = serial := by
        constructor
        · intro own
          have parts := Birth.handle_eq_iff.mp (same.trans own.symm)
          exact (alone entry member own serial birth known parts.2 parts.1).symm
        · intro tag
          have here := recorded entry member
          rw [tag, known] at here
          cases here
          exact same
      rw [decide_eq_decide, ne_eq, ne_eq, agrees]
    · -- A handle that no call has returned removes nothing.
      intro foreign
      apply List.filter_eq_self.mpr
      intro entry member
      have birth := List.mem_of_getElem? (recorded entry member)
      exact decide_eq_true (foreign entry.2 birth)

/-- Something holds of every call of a sequence and the records it finds. -/
def Throughout (calls : List ProviderCall) (holds : Ledger → ProviderCall → Prop) : Prop :=
  ∀ done call rest, calls = done ++ call :: rest → holds (Ledger.run done) call

/-- A shorter sequence has fewer calls. -/
theorem Throughout.before {calls rest : List ProviderCall} {call : ProviderCall}
    {holds : Ledger → ProviderCall → Prop}
    (throughout : Throughout (calls ++ call :: rest) holds) : Throughout calls holds := by
  intro done next later split
  exact throughout done next (later ++ call :: rest) (by rw [split]; simp)

/-- Handles are distinct after every run of unambiguous calls. -/
theorem distinct_run {calls : List ProviderCall} (clear : Throughout calls Unambiguous) :
    (Ledger.run calls).records.Distinct := by
  -- By induction on the calls, the last one last.
  induction calls using List.reverseRec with
  | nil => exact List.nodup_nil
  | append_singleton done call ih =>
    have before := ih clear.before
    have here := clear done call [] rfl
    rw [Ledger.run_append]
    cases call with
    | upsertTxt name value ttlSeconds =>
      exact (distinct_upsert_iff before name value ttlSeconds).mpr here
    | deleteTxt handle => exact distinct_delete before handle

/--
The tags take nothing away: without them, a run leads to the records of the provider, and a
publishing call returns the handle that it is recorded with. Over such a run, handles stay
distinct and deletes exact just when all its calls are unambiguous.
-/
theorem mock_handles_exact_iff (calls : List ProviderCall) :
    ((Ledger.run calls).records = MockDnsProvider.run calls ∧
      ∀ name value ttlSeconds, ((MockDnsProvider.run calls).upsertTxt name value ttlSeconds).1 =
        .ok ⟨(Birth.mk name value (Ledger.run calls).live.length).handle⟩) ∧
      (Throughout calls KeepsHandles ↔ Throughout calls Unambiguous) := by
  have untagged := Ledger.records_run calls
  -- The ledger returns what the provider returns.
  refine ⟨⟨untagged, fun name value ttlSeconds => ?_⟩, ?_⟩
  · rw [← untagged]
    exact (Ledger.run calls).upsert_returns name value ttlSeconds
  constructor
  · -- What holds after every call tells that the call was unambiguous.
    intro kept done call rest split
    have here := kept done call rest split
    cases call with
    | upsertTxt name value ttlSeconds =>
      -- The records before the call are part of the records after it.
      have before : (Ledger.run done).records.Distinct := by
        have fewer : (Ledger.run done).live.Sublist
            ((Ledger.run done).after (.upsertTxt name value ttlSeconds)).live :=
          List.sublist_append_left _ _
        have after := here.distinct
        unfold MockDnsProvider.Distinct at after ⊢
        rw [Ledger.records_handles] at after ⊢
        exact after.sublist (fewer.map _)
      exact (distinct_upsert_iff before name value ttlSeconds).mp here.distinct
    -- An exact removal tells that the handle stood for one record.
    | deleteTxt handle =>
      exact (removesExactly_iff (Ledger.recorded_run done) handle).mp (here.exact handle rfl)
  · -- Unambiguous calls keep the handles distinct, which makes the next removal exact.
    intro clear done call rest split
    have before : (Ledger.run done).records.Distinct := by
      rw [split] at clear
      exact distinct_run clear.before
    have here := clear done call rest split
    cases call with
    | upsertTxt name value ttlSeconds =>
      exact ⟨(distinct_upsert_iff before name value ttlSeconds).mpr here, nofun⟩
    | deleteTxt handle =>
      refine ⟨distinct_delete before handle, ?_⟩
      intro other same
      cases same
      exact (removesExactly_iff (Ledger.recorded_run done) handle).mpr here

/-- Publish two names, remove the first record and publish the second name again. -/
def reusedHandle : List ProviderCall :=
  [.upsertTxt "x" "a" 60, .upsertTxt "y" "b" 60, .deleteTxt ⟨"mock-0-x"⟩,
    .upsertTxt "y" "c" 60]

/-- Two live records share a handle, and one delete removes both. -/
theorem reused_handle_removes_both :
    MockDnsProvider.run reusedHandle =
        [⟨"y", "b", "mock-1-y"⟩, ⟨"y", "c", "mock-1-y"⟩] ∧
      ¬ (MockDnsProvider.run reusedHandle).Distinct ∧
      MockDnsProvider.run (reusedHandle ++ [.deleteTxt ⟨"mock-1-y"⟩]) = [] := by
  unfold MockDnsProvider.Distinct
  decide +kernel

end Acme.Dns
