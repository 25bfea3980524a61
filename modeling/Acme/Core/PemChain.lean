import Acme.Core.Records
import Acme.Encoding.Search

/-! Splitting a PEM chain into its certificates. -/

namespace Acme.Certificate

open Search

/-- The marker that opens a certificate. -/
def beginMarker : Bytes := Utf8.bytes "-----BEGIN CERTIFICATE-----"

/-- The marker that closes a certificate. -/
def endMarker : Bytes := Utf8.bytes "-----END CERTIFICATE-----"

/-- The line break put behind every block. -/
def newline : Bytes := Utf8.bytes "\n"

/-- The first place of a needle at or after an offset. -/
def find (haystack needle : Bytes) (start : Nat) : Option Nat :=
  if haystack.length ≤ start ∨ needle = [] ∨ haystack.length - start < needle.length then none
  else (position needle (haystack.drop start)).map (· + start)

/-- What is found is the first place of the needle at or after the offset. -/
theorem find_eq_some {haystack needle : Bytes} {start offset : Nat} (shown : needle ≠ []) :
    find haystack needle start = some offset ↔ FirstAt needle haystack start offset := by
  unfold find
  split
  case isTrue guarded =>
    -- The guards only turn away searches that cannot succeed.
    constructor
    · intro found
      cases found
    · intro found
      have fits := within_of_starts found.stands shown
      have onward := found.after
      have something : 0 < needle.length := List.length_pos_iff.mpr shown
      -- The text would have to be longer, or the needle shorter, than the guards say.
      rcases guarded with beyond | empty | small
      · omega
      · exact absurd empty shown
      · omega
  case isFalse open' =>
    -- A place behind the offset is a place in what is left there.
    rw [Option.map_eq_some_iff]
    constructor
    · intro ⟨gap, found, same⟩
      subst same
      rw [Nat.add_comm]
      exact FirstAt.of_drop.mp ((position_eq_some shown).mp found)
    · intro found
      obtain ⟨gap, rfl⟩ := Nat.exists_eq_add_of_le found.after
      exact ⟨gap, (position_eq_some shown).mpr (FirstAt.of_drop.mpr found), Nat.add_comm _ _⟩

/-- What is not found stands nowhere at or after the offset. -/
theorem find_eq_none {haystack needle : Bytes} {start : Nat} (shown : needle ≠ []) :
    find haystack needle start = none ↔
      ∀ offset, start ≤ offset → ¬ needle <+: haystack.drop offset := by
  constructor
  · intro missing offset onward
    -- The least place at or after the offset would have been found.
    induction offset using Nat.strong_induction_on with
    | _ offset earlier =>
      intro stands
      have first : FirstAt needle haystack start offset :=
        ⟨onward, stands, fun between low high => earlier between high low⟩
      rw [(find_eq_some shown).mpr first] at missing
      cases missing
  · -- Conversely, a place that is found is one where the needle stands.
    intro nowhere
    cases found : find haystack needle start with
    | none => rfl
    | some offset =>
      have first := (find_eq_some shown).mp found
      exact absurd first.stands (nowhere offset first.after)

/-- The closing marker is not empty. -/
theorem endMarker_ne_nil : endMarker ≠ [] := by decide

/-- The opening marker is not empty. -/
theorem beginMarker_ne_nil : beginMarker ≠ [] := by decide

/-- The certificates at or after the cursor, each with a line break behind it. -/
def splitFrom (text : Bytes) (cursor : Nat) : List Bytes :=
  match _begun : find text beginMarker cursor with
  | none => []
  | some beginOff =>
    -- The closing marker is looked for from the opening one on.
    match _ended : find text endMarker beginOff with
    | none => []
    | some endAt =>
      -- The next search starts behind the closing marker.
      let endOff := endAt + endMarker.length
      (slice text beginOff endOff ++ newline) :: splitFrom text endOff
  termination_by text.length - cursor
  decreasing_by
    -- The cursor moves past a marker that fits in the text.
    have first := (find_eq_some beginMarker_ne_nil).mp _begun
    have last := (find_eq_some endMarker_ne_nil).mp _ended
    have fits := within_of_starts last.stands endMarker_ne_nil
    have low := first.after
    have high := last.after
    have something : 0 < endMarker.length := List.length_pos_iff.mpr endMarker_ne_nil
    omega

/-- The certificates of a PEM chain; bytes that are no text hold none. -/
def splitPemChain (pem : Bytes) : List Bytes :=
  match Utf8.text pem with
  | none => []
  | some text => splitFrom (Utf8.bytes text) 0

end Acme.Certificate
