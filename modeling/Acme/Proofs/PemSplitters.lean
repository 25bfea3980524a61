import Acme.Testing.PemCerts
import Acme.Proofs.PemChain

/-! The two PEM splitters scan alike; they differ on bytes that are no text. -/

namespace Acme.Testing

open Search Certificate

/-- The guards of the first splitter's search only turn away searches that find nothing. -/
theorem find_eq_position {haystack needle : Bytes} {start : Nat} (shown : needle ≠ []) :
    find haystack needle start = (position needle (haystack.drop start)).map (· + start) := by
  unfold find
  split
  case isTrue guarded =>
    -- What the guards refuse leaves no room for the needle.
    cases found : position needle (haystack.drop start) with
    | none => rfl
    | some offset =>
      have fits := within_of_starts ((position_eq_some shown).mp found).stands shown
      have something : 0 < needle.length := List.length_pos_iff.mpr shown
      rw [List.length_drop] at fits
      rcases guarded with beyond | empty | small
      · omega
      · exact absurd empty shown
      · omega
  -- Where the guards let it pass, the search is the same.
  case isFalse open' => rfl

/-- A first place in what is left is found by the guarded search too. -/
theorem firstAt_of_position {haystack needle : Bytes} {start offset : Nat} (shown : needle ≠ [])
    (found : position needle (haystack.drop start) = some offset) :
    FirstAt needle haystack start (offset + start) := by
  -- The one search counts from the start, and the other from the cursor.
  apply (find_eq_some shown).mp
  rw [find_eq_position shown, found]
  rfl

/-- Without an opening marker the harness cuts nothing out. -/
theorem certsFrom_unopened {pem : Bytes} {cursor : Nat}
    (missing : position beginMarker (pem.drop cursor) = none) : certsFrom pem cursor = [] := by
  -- The first search decides.
  rw [certsFrom]
  split
  · rfl
  · rename_i found
    rw [missing] at found
    cases found

/-- Without a closing marker the harness cuts nothing more out. -/
theorem certsFrom_unclosed {pem : Bytes} {cursor opening : Nat}
    (begun : position beginMarker (pem.drop cursor) = some opening)
    (missing : position endMarker (pem.drop (opening + cursor)) = none) :
    certsFrom pem cursor = [] := by
  rw [certsFrom]
  split
  · -- Without a marker the scan is over.
    rfl
  · rename_i place found
    -- The scan stops at the marker that was found, and looks for its end from there.
    rw [begun, Option.some.injEq] at found
    subst found
    dsimp only
    split
    · rfl
    · rename_i found
      rw [missing] at found
      cases found

/-- A block between two markers is cut out, and the harness goes on behind it. -/
theorem certsFrom_found {pem : Bytes} {cursor opening closing : Nat}
    (begun : position beginMarker (pem.drop cursor) = some opening)
    (ended : position endMarker (pem.drop (opening + cursor)) = some closing) :
    certsFrom pem cursor =
      (slice pem (opening + cursor) (opening + cursor + closing + endMarker.length) ++ newline) ::
        certsFrom pem (opening + cursor + closing + endMarker.length) := by
  -- Both markers are found where they are said to be.
  rw [certsFrom]
  split
  case h_1 missing =>
    rw [begun] at missing
    cases missing
  case h_2 place found =>
    rw [begun, Option.some.injEq] at found
    subst found
    dsimp only
    split
    case h_1 missing =>
      rw [ended] at missing
      cases missing
    case h_2 place found =>
      rw [ended, Option.some.injEq] at found
      subst found
      rfl

/-- Over the same bytes both scans cut out the same blocks. -/
theorem certsFrom_eq_splitFrom (pem : Bytes) (cursor : Nat) :
    certsFrom pem cursor = splitFrom pem cursor := by
  -- By induction on the second scan; each turn asks the same two questions.
  induction cursor using certsFrom.induct pem with
  -- There is no further opening marker.
  | case1 cursor missing =>
    have unopened : find pem beginMarker cursor = none := by
      rw [find_eq_position beginMarker_ne_nil, missing, Option.map_none]
    rw [splitFrom_unopened unopened, certsFrom_unopened missing]
  -- The last block is not closed.
  | case2 cursor opening begun begin' missing =>
    have unclosed : find pem endMarker (opening + cursor) = none := by
      rw [find_eq_position endMarker_ne_nil, missing, Option.map_none]
    rw [splitFrom_unclosed (firstAt_of_position beginMarker_ne_nil begun) unclosed,
      certsFrom_unclosed begun missing]
  -- Both cut out the same block, and go on behind it.
  | case3 cursor opening begun begin' closing ended end' ih =>
    have opened := firstAt_of_position beginMarker_ne_nil begun
    have closed := firstAt_of_position endMarker_ne_nil ended
    have place : closing + begin' = begin' + closing := Nat.add_comm _ _
    rw [place] at closed
    rw [splitFrom_found opened closed, certsFrom_found begun ended]
    exact congrArg _ ih

/-- The bytes hold an opening marker with a closing one somewhere behind it. -/
def HoldsBlock (pem : Bytes) : Prop :=
  ∃ before body behind, pem = before ++ beginMarker ++ body ++ endMarker ++ behind

/-- A needle that stands somewhere at or after an offset is found. -/
theorem exists_firstAt {needle haystack : Bytes} {start offset : Nat} (shown : needle ≠ [])
    (onward : start ≤ offset) (stands : needle <+: haystack.drop offset) :
    ∃ place, FirstAt needle haystack start place ∧ place ≤ offset := by
  cases found : find haystack needle start with
  | none => exact absurd stands ((find_eq_none shown).mp found offset onward)
  | some place =>
    have first := (find_eq_some shown).mp found
    refine ⟨place, first, ?_⟩
    -- A later place would have left this one unseen.
    by_contra beyond
    exact first.first offset onward (by omega) stands

/-- Where a complete block stands, the scan cuts at least one out. -/
theorem splitFrom_ne_nil {pem : Bytes} (complete : HoldsBlock pem) : splitFrom pem 0 ≠ [] := by
  obtain ⟨before, body, behind, rfl⟩ := complete
  -- Both markers of the block are in the text.
  have opens : beginMarker <+:
      (before ++ beginMarker ++ body ++ endMarker ++ behind).drop before.length := by
    simp only [List.append_assoc, List.drop_left]
    exact List.prefix_append _ _
  have closes : endMarker <+: (before ++ beginMarker ++ body ++ endMarker ++ behind).drop
      (before ++ beginMarker ++ body).length := by
    rw [List.append_assoc _ endMarker, List.drop_left]
    exact List.prefix_append _ _
  -- The first opening marker is no later than that of the block, so a closing one follows it.
  obtain ⟨opened, begun, early⟩ := exists_firstAt beginMarker_ne_nil (Nat.zero_le _) opens
  have onward : opened ≤ (before ++ beginMarker ++ body).length := by
    simp only [List.length_append]
    omega
  obtain ⟨closed, ended, _⟩ := exists_firstAt endMarker_ne_nil onward closes
  rw [splitFrom_found begun ended]
  exact List.cons_ne_nil _ _

/-- With a complete block in the input, the harness returns what the scan cuts out. -/
theorem splitPemCerts_eq {pem : Bytes} (complete : HoldsBlock pem) :
    splitPemCerts pem = splitFrom pem 0 := by
  -- The whole input stands in only where nothing was cut out.
  have shown : (splitFrom pem 0).isEmpty = false :=
    List.isEmpty_eq_false_iff.mpr (splitFrom_ne_nil complete)
  simp only [splitPemCerts, certsFrom_eq_splitFrom, shown, Bool.false_eq_true, if_false]

/-- The splitters agree on every text with a complete block; on bytes that are no text the first
returns nothing and the harness still returns the blocks. -/
theorem splitters_agree_on_text (pem : Bytes) (complete : HoldsBlock pem) :
    (splitPemChain pem = splitPemCerts pem ↔ Utf8.text pem ≠ none) ∧
      (Utf8.text pem = none → splitPemChain pem = [] ∧ splitPemCerts pem = splitFrom pem 0 ∧
        splitPemCerts pem ≠ []) := by
  have shown := splitFrom_ne_nil complete
  rw [splitPemCerts_eq complete, splitPemChain]
  cases read : Utf8.text pem with
  -- The one splitter gives nothing, and the other one at least one block.
  | none =>
    refine ⟨?_, fun _ => ⟨rfl, rfl, shown⟩⟩
    constructor
    · intro same
      exact absurd same.symm shown
    · intro unread
      exact absurd rfl unread
  | some text =>
    -- The guard gives back the bytes it was handed.
    have same := Utf8.bytes_of_text read
    simp [same]

/-- A bundle with one certificate, in front of which stands a comment in Latin-1. -/
def latinBundle : Bytes :=
  [35, 32, 233, 10] ++ beginMarker ++ Utf8.bytes "\nMA==\n" ++ endMarker

/-- A comment that is no UTF-8 makes the first splitter drop the whole bundle. -/
theorem latin_bundle_dropped :
    HoldsBlock latinBundle ∧ splitPemChain latinBundle = [] ∧
      splitPemCerts latinBundle =
        [beginMarker ++ Utf8.bytes "\nMA==\n" ++ endMarker ++ newline] ∧
      splitPemChain latinBundle ≠ splitPemCerts latinBundle := by
  have complete : HoldsBlock latinBundle :=
    ⟨[35, 32, 233, 10], Utf8.bytes "\nMA==\n", [], by simp [latinBundle]⟩
  -- The text is no UTF-8, for which the one splitter gives up.
  have dropped : splitPemChain latinBundle = [] := by decide +kernel
  -- The other one does not look at that.
  have kept : splitPemCerts latinBundle =
      [beginMarker ++ Utf8.bytes "\nMA==\n" ++ endMarker ++ newline] := by decide +kernel
  refine ⟨complete, dropped, kept, ?_⟩
  rw [dropped, kept]
  exact (List.cons_ne_nil _ _).symm

/-- Both splitters return the same for a chain whose first certificate is truncated. -/
theorem truncated_chain_agrees : splitPemChain truncatedChain = splitPemCerts truncatedChain := by
  -- A block is there, behind one that is not closed.
  have complete : HoldsBlock truncatedChain :=
    ⟨beginMarker ++ Utf8.bytes "\naaa\n", Utf8.bytes "\nbbb\n", newline, by simp [truncatedChain]⟩
  exact (splitters_agree_on_text truncatedChain complete).1.mpr (by decide +kernel)

end Acme.Testing
