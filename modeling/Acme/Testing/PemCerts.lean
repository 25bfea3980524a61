import Acme.Core.PemChain

/-! The PEM splitter of the test harness, which reads a bundle of root certificates. -/

namespace Acme.Testing

open Search Certificate

/-- The certificates at or after the cursor, cut out of the raw bytes. -/
def certsFrom (pem : Bytes) (cursor : Nat) : List Bytes :=
  match _begun : position beginMarker (pem.drop cursor) with
  | none => []
  | some opening =>
    let begin' := opening + cursor
    match _ended : position endMarker (pem.drop begin') with
    | none => []
    | some closing =>
      let end' := begin' + closing + endMarker.length
      (slice pem begin' end' ++ newline) :: certsFrom pem end'
  termination_by pem.length - cursor
  decreasing_by
    -- The closing marker ends inside the bytes, behind the cursor.
    have last := (position_eq_some endMarker_ne_nil).mp _ended
    have fits := within_of_starts last.stands endMarker_ne_nil
    have something : 0 < endMarker.length := List.length_pos_iff.mpr endMarker_ne_nil
    rw [List.length_drop] at fits
    omega

/-- The certificates of a bundle; without any, the whole input stands for one. -/
def splitPemCerts (pem : Bytes) : List Bytes :=
  let out := certsFrom pem 0
  if out.isEmpty then [pem] else out

end Acme.Testing
