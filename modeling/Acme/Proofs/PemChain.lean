import Acme.Core.PemChain

/-! Which blocks the PEM splitter returns, for chains as issued and for arbitrary bytes. -/

namespace Acme.Certificate

open Search

/-- A certificate between two markers is cut out, and the scan goes on behind it. -/
theorem splitFrom_found {text : Bytes} {cursor opened closed : Nat}
    (begun : FirstAt beginMarker text cursor opened)
    (ended : FirstAt endMarker text opened closed) :
    splitFrom text cursor =
      (slice text opened (closed + endMarker.length) ++ newline) ::
        splitFrom text (closed + endMarker.length) := by
  rw [splitFrom]
  split
  -- A marker that stands there is found.
  case h_1 missing =>
    rw [(find_eq_some beginMarker_ne_nil).mpr begun] at missing
    cases missing
  case h_2 place found =>
    -- The scan stops at the same opening marker, and then at the same closing one.
    have same := begun.unique ((find_eq_some beginMarker_ne_nil).mp found)
    subst same
    split
    case h_1 missing =>
      rw [(find_eq_some endMarker_ne_nil).mpr ended] at missing
      cases missing
    case h_2 place found =>
      have same := ended.unique ((find_eq_some endMarker_ne_nil).mp found)
      subst same
      rfl

/-- Without an opening marker nothing is cut out. -/
theorem splitFrom_unopened {text : Bytes} {cursor : Nat}
    (missing : find text beginMarker cursor = none) : splitFrom text cursor = [] := by
  -- The first search decides.
  rw [splitFrom]
  split
  · rfl
  · rename_i found
    rw [missing] at found
    cases found

/-- Without a closing marker nothing more is cut out. -/
theorem splitFrom_unclosed {text : Bytes} {cursor opened : Nat}
    (begun : FirstAt beginMarker text cursor opened)
    (missing : find text endMarker opened = none) : splitFrom text cursor = [] := by
  -- The second search starts behind the first marker that was found.
  rw [splitFrom]
  split
  · -- Without a marker the scan is over.
    rfl
  · rename_i place found
    have same := begun.unique ((find_eq_some beginMarker_ne_nil).mp found)
    subst same
    split
    · rfl
    · rename_i found
      rw [missing] at found
      cases found

/-- The markers paired by reading on from a cursor: an opening marker outside earlier pairs
with the first closing marker from there on. -/
inductive PairedFrom (text : Bytes) : Nat → Nat → Nat → Prop where
  | here {cursor opened closed : Nat} (begun : FirstAt beginMarker text cursor opened)
      (ended : FirstAt endMarker text opened closed) : PairedFrom text cursor opened closed
  | onward {cursor opened closed next last : Nat}
      (begun : FirstAt beginMarker text cursor opened)
      (ended : FirstAt endMarker text opened closed)
      (later : PairedFrom text (closed + endMarker.length) next last) :
      PairedFrom text cursor next last

/-- A pair reaches from an opening marker to the first closing one behind it. -/
theorem PairedFrom.markers {text : Bytes} {cursor opened closed : Nat}
    (paired : PairedFrom text cursor opened closed) :
    beginMarker <+: text.drop opened ∧ FirstAt endMarker text opened closed := by
  -- By induction on the search; a later pair is a pair of the same text.
  induction paired with
  | here begun ended => exact ⟨begun.stands, ended⟩
  | onward begun ended later ih => exact ih

/-- Where there is a pair, there is a first one. -/
theorem PairedFrom.first {text : Bytes} {cursor opened closed : Nat}
    (paired : PairedFrom text cursor opened closed) :
    ∃ place close, FirstAt beginMarker text cursor place ∧ FirstAt endMarker text place close := by
  cases paired with
  | here begun ended => exact ⟨_, _, begun, ended⟩
  | onward begun ended later => exact ⟨_, _, begun, ended⟩

/-- A pair is the first one, or one of those behind it. -/
theorem pairedFrom_iff {text : Bytes} {cursor place close opened closed : Nat}
    (first : FirstAt beginMarker text cursor place) (last : FirstAt endMarker text place close) :
    PairedFrom text cursor opened closed ↔ (opened = place ∧ closed = close) ∨
      PairedFrom text (close + endMarker.length) opened closed := by
  constructor
  · intro paired
    -- The first places of the markers are determined, so the search went the same way.
    cases paired with
    | here begun ended =>
      obtain rfl := first.unique begun
      exact .inl ⟨rfl, ended.unique last⟩
    | onward begun ended later =>
      obtain rfl := first.unique begun
      obtain rfl := last.unique ended
      exact .inr later
  · intro either
    -- Conversely, the pair is the first one, or one behind it.
    rcases either with ⟨rfl, rfl⟩ | later
    · exact .here first last
    · exact .onward first last later

/-- The blocks are the ranges of the pairs, each with a line break behind it. -/
theorem mem_splitFrom {text block : Bytes} {cursor : Nat} :
    block ∈ splitFrom text cursor ↔ ∃ opened closed, PairedFrom text cursor opened closed ∧
      block = slice text opened (closed + endMarker.length) ++ newline := by
  -- By induction on the scan, which pairs one more marker at every turn.
  induction cursor using splitFrom.induct text with
  -- There is no opening marker left.
  | case1 cursor missing =>
    rw [splitFrom_unopened missing]
    constructor
    · intro member
      cases member
    · -- The opening marker of a first pair would have been found.
      intro ⟨opened, closed, paired, _⟩
      obtain ⟨place, close, begun, ended⟩ := paired.first
      exact absurd begun.stands ((find_eq_none beginMarker_ne_nil).mp missing _ begun.after)
  | case2 cursor place found missing =>
    have first := (find_eq_some beginMarker_ne_nil).mp found
    rw [splitFrom_unclosed first missing]
    constructor
    · intro member
      cases member
    · -- The closing marker of a first pair would have been found.
      intro ⟨opened, closed, paired, _⟩
      obtain ⟨other, close, begun, ended⟩ := paired.first
      obtain rfl := first.unique begun
      exact absurd ended.stands ((find_eq_none endMarker_ne_nil).mp missing _ ended.after)
  -- A block is cut out, and the scan goes on behind it.
  | case3 cursor place found close closes endOff ih =>
    have first := (find_eq_some beginMarker_ne_nil).mp found
    have last := (find_eq_some endMarker_ne_nil).mp closes
    rw [splitFrom_found first last, List.mem_cons, ih]
    constructor
    · intro member
      rcases member with same | ⟨opened, closed, paired, same⟩
      · exact ⟨place, close, .here first last, same⟩
      · exact ⟨opened, closed, .onward first last paired, same⟩
    · -- A pair gives the block that was just cut out, or one of those behind it.
      intro ⟨opened, closed, paired, same⟩
      rcases (pairedFrom_iff first last).mp paired with ⟨rfl, rfl⟩ | later
      · exact .inl same
      · exact .inr ⟨opened, closed, later, same⟩

/-- A block is well formed: two markers that do not overlap, with no marker between them. -/
def WellFormedBlock (block : Bytes) : Prop :=
  ∃ body, block = beginMarker ++ body ++ endMarker ++ newline ∧
    ¬ beginMarker <:+: body ∧ ¬ endMarker <:+: body

/-- The closing marker stands behind the opening one, with no further opening one in between. -/
structure Apart (text : Bytes) (opened closed : Nat) : Prop where
  /-- The two markers do not overlap. -/
  ordered : opened + beginMarker.length ≤ closed
  /-- No other certificate opens between them. -/
  alone : ∀ offset, opened + beginMarker.length ≤ offset →
    offset + beginMarker.length ≤ closed → ¬ beginMarker <+: text.drop offset

/-- The range of a pair of markers that stand apart is the two markers around a body. -/
theorem slice_of_markers {text : Bytes} {opened closed : Nat}
    (begun : beginMarker <+: text.drop opened) (ended : endMarker <+: text.drop closed)
    (ordered : opened + beginMarker.length ≤ closed) :
    slice text opened (closed + endMarker.length) =
      beginMarker ++ slice text (opened + beginMarker.length) closed ++ endMarker := by
  -- Cut the range behind the first marker and before the second.
  rw [← slice_append text (show opened ≤ closed by omega) (Nat.le_add_right closed _),
    ← slice_append text (Nat.le_add_right opened beginMarker.length) ordered,
    slice_of_starts begun, slice_of_starts ended]

/-- The block of a pair is well formed exactly when its markers stand apart. -/
theorem wellFormedBlock_iff {text : Bytes} {opened closed : Nat}
    (begun : beginMarker <+: text.drop opened) (ended : FirstAt endMarker text opened closed) :
    WellFormedBlock (slice text opened (closed + endMarker.length) ++ newline) ↔
      Apart text opened closed := by
  have fits := within_of_starts ended.stands endMarker_ne_nil
  constructor
  · intro ⟨body, whole, unopened, _⟩
    -- The lengths leave room for both markers, and then the body is what lies between them.
    have long := congrArg List.length whole
    simp only [List.length_append, length_slice fits] at long
    have low := ended.after
    have ordered : opened + beginMarker.length ≤ closed := by omega
    rw [slice_of_markers begun ended.stands ordered, List.append_left_inj, List.append_left_inj,
      List.append_right_inj] at whole
    refine ⟨ordered, ?_⟩
    intro offset past short stands
    apply unopened
    rw [← whole]
    exact (infix_slice_iff beginMarker_ne_nil).mpr ⟨offset, past, short, stands⟩
  · -- The body is what lies between the two markers.
    intro apart
    refine ⟨slice text (opened + beginMarker.length) closed, ?_, ?_, ?_⟩
    · rw [slice_of_markers begun ended.stands apart.ordered]
    · intro within
      obtain ⟨offset, past, short, stands⟩ := (infix_slice_iff beginMarker_ne_nil).mp within
      exact apart.alone offset past short stands
    · -- A closing marker inside the body would have been found first.
      intro within
      obtain ⟨offset, past, short, stands⟩ := (infix_slice_iff endMarker_ne_nil).mp within
      have something : 0 < endMarker.length := List.length_pos_iff.mpr endMarker_ne_nil
      exact ended.first offset (by omega) (by omega) stands

/-- All blocks are well formed exactly when the bytes are no text or all pairs stand apart. -/
theorem blocks_well_formed_iff (pem : Bytes) :
    (∀ block ∈ splitPemChain pem, WellFormedBlock block) ↔
      (Utf8.text pem = none ∨
        ∀ opened closed, PairedFrom pem 0 opened closed → Apart pem opened closed) := by
  unfold splitPemChain
  cases read : Utf8.text pem with
  -- A text that is no UTF-8 has no blocks.
  | none => simp
  | some text =>
    -- The scan runs over the same bytes.
    have same := Utf8.bytes_of_text read
    simp only [same, reduceCtorEq, false_or]
    constructor
    · intro formed opened closed paired
      have markers := paired.markers
      exact (wellFormedBlock_iff markers.1 markers.2).mp
        (formed _ (mem_splitFrom.mpr ⟨opened, closed, paired, rfl⟩))
    · intro apart block member
      obtain ⟨opened, closed, paired, rfl⟩ := mem_splitFrom.mp member
      have markers := paired.markers
      exact (wellFormedBlock_iff markers.1 markers.2).mpr (apart opened closed paired)

/-- A chain whose first certificate is truncated. -/
def truncatedChain : Bytes :=
  beginMarker ++ Utf8.bytes "\naaa\n" ++ beginMarker ++ Utf8.bytes "\nbbb\n" ++ endMarker ++ newline

/-- The truncated certificate and the next one come back as one block. -/
theorem truncated_block_fused :
    splitPemChain truncatedChain = [truncatedChain] ∧ ¬ WellFormedBlock truncatedChain := by
  refine ⟨by decide +kernel, ?_⟩
  intro ⟨body, whole, unopened, _⟩
  -- The body holds the second opening marker.
  have inside : body = Utf8.bytes "\naaa\n" ++ beginMarker ++ Utf8.bytes "\nbbb\n" := by
    have split : truncatedChain = beginMarker ++
        (Utf8.bytes "\naaa\n" ++ beginMarker ++ Utf8.bytes "\nbbb\n") ++ endMarker ++ newline := by
      simp [truncatedChain]
    rw [split, List.append_left_inj, List.append_left_inj, List.append_right_inj] at whole
    exact whole.symm
  -- A body must not hold an opening marker.
  apply unopened
  rw [inside]
  exact List.infix_append _ _ _

/-- A text without a dash. -/
structure Separator where
  /-- The text. -/
  text : String
  /-- No part of it looks like a marker. -/
  quiet : '-' ∉ text.toList

/-- What stands between the two markers of a certificate. -/
structure CertBody where
  /-- The text. -/
  text : String
  /-- The marker ends its line. -/
  broken : text.toList.head? = some '\n'
  /-- No part of it looks like a marker. -/
  quiet : '-' ∉ text.toList

/-- A certificate of a chain, and the text up to the next one. -/
structure ChainEntry where
  /-- What the markers enclose. -/
  body : CertBody
  /-- What follows the closing marker. -/
  gap : Separator

/-- A body between its two markers. -/
def CertBody.block (body : CertBody) : Bytes :=
  beginMarker ++ Utf8.bytes body.text ++ endMarker

/-- The bytes of a chain. -/
def chainBytes (gap : Separator) (entries : List ChainEntry) : Bytes :=
  Utf8.bytes gap.text ++
    entries.flatMap fun entry => entry.body.block ++ Utf8.bytes entry.gap.text

/-- A chain is a text. -/
theorem exists_chain_text (gap : Separator) (entries : List ChainEntry) :
    ∃ text, Utf8.bytes text = chainBytes gap entries := by
  -- By induction on the certificates, each of which is a text.
  induction entries generalizing gap with
  | nil => exact ⟨gap.text, by simp [chainBytes]⟩
  | cons entry rest ih =>
    obtain ⟨text, same⟩ := ih entry.gap
    refine ⟨gap.text ++ ("-----BEGIN CERTIFICATE-----" ++ entry.body.text ++
      "-----END CERTIFICATE-----" ++ text), ?_⟩
    simp only [Utf8.bytes_append, same, chainBytes, CertBody.block, List.flatMap_cons,
      List.append_assoc, beginMarker, endMarker]

/-- Both markers start with a dash. -/
theorem marker_heads : beginMarker.head? = some 45 ∧ endMarker.head? = some 45 := by
  decide

/-- A text without a dash has no byte of one. -/
theorem dash_not_mem {text : String} (quiet : '-' ∉ text.toList) : 45 ∉ Utf8.bytes text :=
  Utf8.not_mem_bytes (by decide) quiet

/-- No opening marker starts inside a separator. -/
theorem Separator.clear (gap : Separator) (rest : Bytes) :
    ∀ offset, offset < (Utf8.bytes gap.text).length →
      ¬ beginMarker <+: (Utf8.bytes gap.text ++ rest).drop offset :=
  fun _ inside => clear_of_gap marker_heads.1 (dash_not_mem gap.quiet) inside

/-- The bytes of a body start with a line break. -/
theorem CertBody.bytes_eq (body : CertBody) : ∃ more, Utf8.bytes body.text = 10 :: more := by
  -- The line break in front is a character of one byte.
  obtain ⟨more, same⟩ := List.head?_eq_some_iff.mp body.broken
  refine ⟨more.flatMap String.utf8EncodeChar, ?_⟩
  rw [Utf8.bytes_eq_flatMap, same, List.flatMap_cons]
  rfl

/-- No closing marker starts inside an opening one that ends its line. -/
theorem endMarker_clear :
    ∀ offset, offset < beginMarker.length →
      endMarker.take ((beginMarker ++ [10]).drop offset).length ≠
        ((beginMarker ++ [10]).drop offset).take endMarker.length := by
  decide +kernel

/-- No closing marker starts before the one of the block. -/
theorem CertBody.clear (body : CertBody) (rest : Bytes) :
    ∀ offset, offset < (beginMarker ++ Utf8.bytes body.text).length →
      ¬ endMarker <+: (beginMarker ++ Utf8.bytes body.text ++ rest).drop offset := by
  intro offset inside
  by_cases marker : offset < beginMarker.length
  · -- Inside the opening marker: the shared dashes are followed by other bytes.
    obtain ⟨more, same⟩ := body.bytes_eq
    have front : beginMarker ++ Utf8.bytes body.text ++ rest =
        (beginMarker ++ [10]) ++ (more ++ rest) := by
      rw [same]
      simp
    intro stands
    rw [front, List.drop_append_of_le_length (by simp; omega)] at stands
    exact endMarker_clear offset marker (take_eq_of_starts stands)
  · -- Inside the body: there is no dash.
    obtain ⟨gap, rfl⟩ := Nat.exists_eq_add_of_le (Nat.le_of_not_lt marker)
    rw [List.length_append] at inside
    rw [List.append_assoc, ← List.drop_drop, List.drop_left]
    exact clear_of_gap marker_heads.2 (dash_not_mem body.quiet) (by omega)

/-- Behind the last certificate nothing more is found. -/
theorem splitFrom_gap {text : Bytes} {cursor : Nat} {gap : Separator}
    (left : text.drop cursor = Utf8.bytes gap.text) : splitFrom text cursor = [] := by
  apply splitFrom_unopened
  apply (find_eq_none beginMarker_ne_nil).mpr
  intro offset onward stands
  obtain ⟨further, rfl⟩ := Nat.exists_eq_add_of_le onward
  rw [← List.drop_drop, left] at stands
  -- A marker inside the separator is ruled out.
  by_cases inside : further < (Utf8.bytes gap.text).length
  · have clear := gap.clear [] further inside
    rw [List.append_nil] at clear
    exact clear stands
  · -- Nothing is left behind the separator.
    rw [List.drop_eq_nil_of_le (Nat.le_of_not_lt inside)] at stands
    exact beginMarker_ne_nil (List.prefix_nil.mp stands)

/-- One certificate of a chain is cut out, and the scan goes on with the rest of the chain. -/
theorem splitFrom_entry {text rest : Bytes} {cursor : Nat} {gap : Separator} {body : CertBody}
    (left : text.drop cursor = Utf8.bytes gap.text ++ (body.block ++ rest)) :
    ∃ next, splitFrom text cursor = (body.block ++ newline) :: splitFrom text next ∧
      text.drop next = rest := by
  have shape : body.block = beginMarker ++ Utf8.bytes body.text ++ endMarker := rfl
  -- The opening marker stands right behind the separator.
  have split : text.drop cursor = Utf8.bytes gap.text ++ beginMarker ++
      (Utf8.bytes body.text ++ endMarker ++ rest) := by
    rw [left, shape]
    simp
  obtain ⟨opened, place⟩ : ∃ opened, opened = cursor + (Utf8.bytes gap.text).length := ⟨_, rfl⟩
  have begun : FirstAt beginMarker text cursor opened := by
    rw [place]
    refine FirstAt.of_clear split ?_
    rw [List.append_assoc]
    exact gap.clear _
  -- From the opening marker on stand the block and the rest.
  have here : text.drop opened = body.block ++ rest := by
    rw [place, ← List.drop_drop, left, List.drop_left]
  -- The closing marker stands right behind the body.
  have ended : FirstAt endMarker text opened
      (opened + (beginMarker ++ Utf8.bytes body.text).length) := by
    refine FirstAt.of_clear here ?_
    rw [List.append_assoc]
    exact body.clear _
  -- The block ends with its closing marker.
  have stop : opened + (beginMarker ++ Utf8.bytes body.text).length + endMarker.length =
      opened + body.block.length := by
    rw [shape, List.length_append, List.length_append, List.length_append]
    omega
  refine ⟨opened + body.block.length, ?_, ?_⟩
  · -- What is cut out is the block, and the rest is what follows it.
    rw [splitFrom_found begun ended, stop, slice_of_starts]
    rw [here]
    exact List.prefix_append _ _
  · rw [← List.drop_drop, here, List.drop_left]

/-- The scan returns the certificates of the chain that is left. -/
theorem splitFrom_chain {text : Bytes} {cursor : Nat} {gap : Separator}
    {entries : List ChainEntry} (left : text.drop cursor = chainBytes gap entries) :
    splitFrom text cursor = entries.map fun entry => entry.body.block ++ newline := by
  -- By induction on the certificates left.
  induction entries generalizing cursor gap with
  | nil =>
    rw [chainBytes, List.flatMap_nil, List.append_nil] at left
    exact splitFrom_gap left
  | cons entry rest ih =>
    rw [chainBytes, List.flatMap_cons, List.append_assoc] at left
    obtain ⟨next, cut, after⟩ := splitFrom_entry left
    rw [cut, ih after, List.map_cons]

/-- Splitting a chain gives back its certificates in order, each with a line break behind it. -/
theorem split_chain (gap : Separator) (entries : List ChainEntry) :
    splitPemChain (chainBytes gap entries) =
      entries.map fun entry => entry.body.block ++ newline := by
  -- The bytes of a chain are those of a text, and the scan starts at the front of them.
  obtain ⟨text, same⟩ := exists_chain_text gap entries
  have whole : (Utf8.bytes text).drop 0 = chainBytes gap entries := by
    rw [List.drop_zero, same]
  rw [← same, splitPemChain, Utf8.text_bytes]
  exact splitFrom_chain whole

/-- A certificate and the one it was issued with, and a line between them. -/
def sampleChain : List ChainEntry :=
  [{ body := { text := "\nTEVBRg==\n", broken := by decide, quiet := by decide }
     gap := { text := "\nissued by\n", quiet := by decide } },
    { body := { text := "\nUk9PVA==\n", broken := by decide, quiet := by decide }
      gap := { text := "\n", quiet := by decide } }]

/-- Both come back, without what stands between them. -/
theorem split_chain_sample :
    splitPemChain (chainBytes { text := "", quiet := by decide } sampleChain) =
      [Utf8.bytes
          "-----BEGIN CERTIFICATE-----\nTEVBRg==\n-----END CERTIFICATE-----\n",
        Utf8.bytes
          "-----BEGIN CERTIFICATE-----\nUk9PVA==\n-----END CERTIFICATE-----\n"] := by
  -- The blocks are those of the list.
  rw [split_chain]
  decide +kernel

end Acme.Certificate
