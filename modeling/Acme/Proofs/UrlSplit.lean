import Acme.Encoding.Uri
import Acme.Http.ParseUrl

/-! Which URLs are cut into the parts that they have. -/

namespace Acme.Http

open Split Uri

/-- The schemes that requests are sent by. -/
def knownScheme (name : List Char) : Option Scheme :=
  if name = "https".toList then some .https
  else if name = "http".toList then some .http
  else none

/-- A path that is missing is a slash. -/
def orSlash (path : List Char) : List Char :=
  if path = [] then ['/'] else path

/-- The path and the query of a URL, as far as a request is concerned. -/
def pathWithQuery (url : Reference) : List Char :=
  orSlash url.path ++ marked '?' url.query

/-- A URL is cut into its parts, or refused when that is due. -/
structure Splits (url : Reference) (outcome : Except AcmeError (Scheme × String × String)) :
    Prop where
  /-- The scheme, the authority, and the path with the query but without the fragment. -/
  parts : ∀ scheme, knownScheme url.scheme = some scheme → url.authority ≠ [] →
    outcome = .ok (scheme, String.ofList url.authority, String.ofList (pathWithQuery url))
  /-- No authority. -/
  unnamed : url.authority = [] → ∃ failure, outcome = .error failure
  /-- Another scheme. -/
  foreign : knownScheme url.scheme = none → ∃ failure, outcome = .error failure

/-- Behind the authority comes a slash, if anything. -/
def SlashFirst (url : Reference) : Prop :=
  url.path ≠ [] ∨ url.query = none ∧ url.fragment = none

/-- What stands behind the two slashes of a URL is cut at its first slash. -/
inductive CutAtSlash (scheme : Scheme) :
    List Char → Except AcmeError (Scheme × String × String) → Prop where
  /-- Nothing stands in front of it. -/
  | unnamed {rest : List Char} (failure : AcmeError) (none : rest = [] ∨ rest.head? = some '/') :
      CutAtSlash scheme rest (.error failure)
  /-- There is no slash. -/
  | flat {rest : List Char} (named : rest ≠ []) (absent : '/' ∉ rest) :
      CutAtSlash scheme rest (.ok (scheme, String.ofList rest, "/"))
  /-- There is one, with something in front of it. -/
  | rooted {front back : List Char} (named : front ≠ []) (absent : '/' ∉ front) :
      CutAtSlash scheme (front ++ '/' :: back)
        (.ok (scheme, String.ofList front, String.ofList ('/' :: back)))

/-- A scheme is stripped off when it is the one of the URL. -/
theorem strip_name {name : List Char} (plain : ':' ∉ name) (url : Reference) :
    (name ++ [':', '/', '/']).isPrefixOf? url.text =
      if url.scheme = name then some (url.authority ++ url.tail) else none := by
  -- Neither of the two names has a colon in it.
  have colon := url.schemeFormed.no_colon
  by_cases same : url.scheme = name
  · rw [if_pos same, List.isPrefixOf?_eq_some_iff_append_eq]
    simp [Parts.text, same]
  · rw [if_neg same]
    cases stripped : (name ++ [':', '/', '/']).isPrefixOf? url.text with
    | none => rfl
    | some rest =>
      -- Both would be what stands in front of the first colon.
      have whole := List.isPrefixOf?_eq_some_iff_append_eq.mp stripped
      rw [List.append_assoc, Parts.text] at whole
      exact absurd (append_cons_inj plain colon whole).1.symm same

/-- The two known schemes are stripped off, and no other one is. -/
theorem stripScheme_text (url : Reference) : stripScheme url.text =
    (knownScheme url.scheme).map fun scheme => (scheme, url.authority ++ url.tail) := by
  -- Both prefixes are a name with the three characters that follow a scheme.
  have secure : "https://".toList = "https".toList ++ [':', '/', '/'] := by decide
  have insecure : "http://".toList = "http".toList ++ [':', '/', '/'] := by decide
  rw [stripScheme, secure, insecure, strip_name (by decide), strip_name (by decide), knownScheme]
  -- At most one of the two names is that of the URL.
  by_cases https : url.scheme = "https".toList
  · rw [if_pos https, if_pos https]
    rfl
  · rw [if_neg https, if_neg https]
    by_cases http : url.scheme = "http".toList
    · rw [if_pos http, if_pos http]
      rfl
    · rw [if_neg http, if_neg http]
      rfl

/-- The authority reaches to the first slash, and the path begins there. -/
theorem splitPath_eq (rest : List Char) :
    splitPath rest = (rest.takeWhile (· ≠ '/'), orSlash (rest.dropWhile (· ≠ '/'))) := by
  -- Both stop at the place that is looked for.
  have stop : (fun char : Char => !decide (char ≠ '/')) = fun char => decide (char = '/') := by
    funext char
    simp
  rw [List.takeWhile_eq_take_findIdx_not, List.dropWhile_eq_drop_findIdx_not, stop, splitPath]
  cases place : rest.findIdx? (fun char => decide (char = '/')) with
  | none =>
    rw [List.findIdx?_eq_none_iff_findIdx_eq.mp place, List.take_length, List.drop_length]
    rfl
  | some idx =>
    obtain ⟨within, found⟩ := List.findIdx?_eq_some_iff_findIdx_eq.mp place
    -- The slash is there, so what is left is not empty.
    have more : rest.drop idx ≠ [] := by
      rw [ne_eq, List.drop_eq_nil_iff]
      omega
    rw [found, orSlash, if_neg more]

/-- A URL with a known scheme is cut at the first slash of what stands behind the scheme. -/
theorem parseUrl_known {url : Reference} {scheme : Scheme}
    (known : knownScheme url.scheme = some scheme) :
    parseUrl (String.ofList url.text) =
      if (url.authority ++ url.tail).takeWhile (· ≠ '/') = [] then
        .error (.transport ("URL missing authority: " ++ String.ofList url.text))
      else .ok (scheme, String.ofList ((url.authority ++ url.tail).takeWhile (· ≠ '/')),
        String.ofList (orSlash ((url.authority ++ url.tail).dropWhile (· ≠ '/')))) := by
  simp only [parseUrl, String.toList_ofList, stripScheme_text, known, Option.map_some, splitPath_eq]

/-- Such a cut leaves what stands in front of the slash, and the slash with what follows it. -/
theorem cutAtSlash {scheme : Scheme} {rest : List Char} {failure : AcmeError} :
    CutAtSlash scheme rest
      (if rest.takeWhile (· ≠ '/') = [] then .error failure
        else .ok (scheme, String.ofList (rest.takeWhile (· ≠ '/')),
          String.ofList (orSlash (rest.dropWhile (· ≠ '/'))))) := by
  cases parts : splitOnce '/' rest with
  | none =>
    -- Without a slash everything stands in front.
    have absent := splitOnce_eq_none.mp parts
    have front : rest.takeWhile (· ≠ '/') = rest := by simpa using takeWhile_append absent []
    have back : rest.dropWhile (· ≠ '/') = [] := by simpa using dropWhile_append absent []
    rw [front, back]
    split
    -- With nothing in front there is no authority.
    case isTrue none => exact .unnamed failure (.inl none)
    case isFalse named => exact .flat named absent
  -- What stands before the first slash has no slash in it.
  | some pair =>
    obtain ⟨front, back⟩ := pair
    obtain ⟨rfl, absent⟩ := splitOnce_eq_some.mp parts
    have left : (front ++ '/' :: back).takeWhile (· ≠ '/') = front := by
      rw [takeWhile_append absent]
      simp
    have right : (front ++ '/' :: back).dropWhile (· ≠ '/') = '/' :: back := by
      rw [dropWhile_append absent]
      simp
    rw [left, right]
    split
    case isTrue none => exact .unnamed failure (.inr (by simp [none]))
    case isFalse named => exact .rooted named absent

/-- A URL with another scheme is refused. -/
theorem parseUrl_foreign {url : Reference} (foreign : knownScheme url.scheme = none) :
    parseUrl (String.ofList url.text) =
      .error (.transport ("unsupported URL scheme: " ++ String.ofList url.text)) := by
  simp only [parseUrl, String.toList_ofList, stripScheme_text, foreign, Option.map_none]

/-- What stands behind the authority begins with a slash, when there is a path. -/
theorem tail_of_path {url : Reference} (rooted : url.path ≠ []) :
    url.tail.takeWhile (· ≠ '/') = [] ∧ orSlash (url.tail.dropWhile (· ≠ '/')) = url.tail := by
  obtain empty | slash := url.pathRooted
  · exact absurd empty rooted
  · -- A path begins with a slash, and so does all that follows the authority.
    obtain ⟨more, path⟩ := List.head?_eq_some_iff.mp slash
    simp [Parts.tail, path, orSlash]

/-- Without a path, it reaches to the first slash only if it is empty. -/
theorem tail_of_no_path {url : Reference} (empty : url.path = []) :
    url.tail.takeWhile (· ≠ '/') = [] ↔ url.query = none ∧ url.fragment = none := by
  -- A question mark or a number sign in front of it is no slash.
  cases asked : url.query <;> cases located : url.fragment <;>
    simp [Parts.tail, empty, asked, located, marked]

/-- The authority is followed by a slash or nothing exactly when the cut leaves it as it is. -/
theorem slashFirst_iff {url : Reference} :
    url.tail.takeWhile (· ≠ '/') = [] ↔ SlashFirst url := by
  -- Without a path it depends on the query and the fragment.
  by_cases empty : url.path = []
  · rw [tail_of_no_path empty, SlashFirst]
    simp [empty]
  · exact iff_of_true (tail_of_path empty).1 (.inl empty)

/-- Then the path with the query is what is left, with the fragment behind it. -/
theorem SlashFirst.left {url : Reference} (slashed : SlashFirst url) :
    orSlash (url.tail.dropWhile (· ≠ '/')) = pathWithQuery url ++ marked '#' url.fragment := by
  by_cases empty : url.path = []
  · -- Without a path there is neither a query nor a fragment.
    rcases slashed with rooted | ⟨unasked, whole⟩
    · exact absurd empty rooted
    · simp [Parts.tail, pathWithQuery, orSlash, empty, unasked, whole, marked]
  · rw [(tail_of_path empty).2, pathWithQuery, orSlash, if_neg empty, Parts.tail]

/-- With a known scheme, the authority decides what is due. -/
theorem splits_iff {url : Reference} {scheme : Scheme}
    (known : knownScheme url.scheme = some scheme)
    {outcome : Except AcmeError (Scheme × String × String)} :
    Splits url outcome ↔ if url.authority = [] then ∃ failure, outcome = .error failure
      else outcome =
        .ok (scheme, String.ofList url.authority, String.ofList (pathWithQuery url)) := by
  by_cases named : url.authority = []
  · -- Without an authority a failure is all that is asked for.
    rw [if_pos named]
    refine ⟨fun splits => splits.unnamed named, fun failed => ⟨?_, fun _ => failed, fun _ => failed⟩⟩
    exact fun _ _ shown => absurd named shown
  · -- With one, the three parts decide it.
    rw [if_neg named]
    refine ⟨fun splits => splits.parts scheme known named, fun same => ⟨?_, ?_, ?_⟩⟩
    · intro other also _
      obtain rfl := Option.some.inj (known.symm.trans also)
      exact same
    · exact fun none => absurd none named
    · intro foreign
      rw [known] at foreign
      cases foreign

/-- Where a slash or nothing follows the authority, only a fragment is in the way. -/
theorem splits_slashed {url : Reference} {scheme : Scheme}
    (known : knownScheme url.scheme = some scheme) (slashed : SlashFirst url) :
    Splits url (parseUrl (String.ofList url.text)) ↔
      url.authority = [] ∨ url.fragment = none := by
  have absent := url.authorityFormed.1
  rw [splits_iff known, parseUrl_known known, takeWhile_append absent, dropWhile_append absent,
    slashFirst_iff.mpr slashed, slashed.left, List.append_nil]
  by_cases named : url.authority = []
  · simp [named]
  · -- The path with the query is followed by the fragment.
    rw [if_neg named, if_neg named]
    cases url.fragment <;> simp [named, marked]

/-- Where something else follows it, that is taken for a part of the authority. -/
theorem not_splits_unslashed {url : Reference} {scheme : Scheme}
    (known : knownScheme url.scheme = some scheme) (unslashed : ¬ SlashFirst url) :
    ¬ Splits url (parseUrl (String.ofList url.text)) := by
  have absent := url.authorityFormed.1
  -- Something is left in front of the slash that is no part of the authority.
  have more : url.tail.takeWhile (· ≠ '/') ≠ [] := fun none =>
    unslashed (slashFirst_iff.mp none)
  have named : url.authority ++ url.tail.takeWhile (· ≠ '/') ≠ [] :=
    List.append_ne_nil_of_right_ne_nil _ more
  rw [splits_iff known, parseUrl_known known, takeWhile_append absent, if_neg named]
  split
  · simp
  · intro same
    -- The two authorities would have to be the same.
    have longer := congrArg (fun parts => parts.2.1) (Except.ok.inj same)
    rw [String.ofList_inj, List.append_right_eq_self] at longer
    exact more longer

/-- A URL is cut into its parts exactly when its authority is followed by a slash or nothing, and
it has no fragment; every URL of a known scheme is cut at the first slash behind the scheme. -/
theorem parse_url_splits_iff (url : Reference) :
    (Splits url (parseUrl (String.ofList url.text)) ↔ knownScheme url.scheme = none ∨
      SlashFirst url ∧ (url.authority = [] ∨ url.fragment = none)) ∧
    ∀ scheme, knownScheme url.scheme = some scheme →
      CutAtSlash scheme (url.authority ++ url.tail) (parseUrl (String.ofList url.text)) := by
  refine ⟨?_, fun scheme known => by rw [parseUrl_known known]; exact cutAtSlash⟩
  cases known : knownScheme url.scheme with
  | none =>
    -- Nothing but an error is due.
    rw [parseUrl_foreign known]
    refine iff_of_true ⟨?_, fun _ => ⟨_, rfl⟩, fun _ => ⟨_, rfl⟩⟩ (.inl rfl)
    intro scheme same
    rw [known] at same
    cases same
  | some scheme =>
    by_cases slashed : SlashFirst url
    · rw [splits_slashed known slashed]
      simp [slashed]
    · -- The query or the fragment is taken for a part of the authority.
      refine iff_of_false (not_splits_unslashed known slashed) ?_
      simp [slashed]

/-- A URL whose query follows the authority. -/
def queryUrl : Reference where
  scheme := "https".toList
  authority := "ca.example".toList
  path := []
  query := some "next=/a".toList
  fragment := none
  schemeFormed := isScheme_https
  authorityFormed := by decide
  pathRooted := .inl rfl
  pathFormed := by decide
  queryFormed := by
    rintro _ ⟨⟩
    decide

/-- A URL with a fragment. -/
def fragmentUrl : Reference where
  scheme := "https".toList
  authority := "ca.example".toList
  path := "/directory".toList
  query := none
  fragment := some "v2".toList
  schemeFormed := isScheme_https
  authorityFormed := by decide
  pathRooted := .inr rfl
  pathFormed := by decide
  queryFormed := queryFormed_none

/-- A query without a path becomes a part of the authority, and a fragment one of the path. -/
theorem query_taken_for_authority :
    String.ofList queryUrl.text = "https://ca.example?next=/a" ∧
      parseUrl "https://ca.example?next=/a" = .ok (.https, "ca.example?next=", "/a") ∧
      ¬ Splits queryUrl (parseUrl (String.ofList queryUrl.text)) ∧
      String.ofList fragmentUrl.text = "https://ca.example/directory#v2" ∧
      parseUrl "https://ca.example/directory#v2" = .ok (.https, "ca.example", "/directory#v2") ∧
      ¬ Splits fragmentUrl (parseUrl (String.ofList fragmentUrl.text)) := by
  have query : String.ofList queryUrl.text = "https://ca.example?next=/a" := by decide +kernel
  have cut : parseUrl "https://ca.example?next=/a" = .ok (.https, "ca.example?next=", "/a") := by
    decide +kernel
  have fragment : String.ofList fragmentUrl.text = "https://ca.example/directory#v2" := by
    decide +kernel
  have kept : parseUrl "https://ca.example/directory#v2"
      = .ok (.https, "ca.example", "/directory#v2") := by decide +kernel
  refine ⟨query, cut, ?_, fragment, kept, ?_⟩
  · -- The authority should end at the question mark.
    rw [query, cut]
    intro splits
    have same := splits.parts .https (by decide) (by decide)
    revert same
    decide +kernel
  · -- The path should end at the hash.
    rw [fragment, kept]
    intro splits
    have same := splits.parts .https (by decide) (by decide)
    revert same
    decide +kernel

end Acme.Http
