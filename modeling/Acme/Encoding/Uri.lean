import Acme.Encoding.Split

/-! The parts of a URI with an authority, as RFC 3986 names them, and the text they make up. -/

namespace Uri

open Split

/-- The characters that stand for themselves everywhere. -/
def isUnreserved (char : Char) : Bool :=
  char.isAlphanum || ['-', '.', '_', '~'].contains char

/-- What a URI consists of. -/
structure Parts where
  scheme : List Char
  authority : List Char
  path : List Char
  query : Option (List Char)
  fragment : Option (List Char)
deriving DecidableEq

/-- What stands behind the authority. -/
def Parts.tail (parts : Parts) : List Char :=
  parts.path ++ marked '?' parts.query ++ marked '#' parts.fragment

/-- The text of a URI. -/
def Parts.text (parts : Parts) : List Char :=
  parts.scheme ++ ':' :: '/' :: '/' :: (parts.authority ++ parts.tail)

/-- The characters of a scheme, but for the first one. -/
def isSchemeChar (char : Char) : Bool :=
  char.isAlphanum || ['+', '-', '.'].contains char

/-- A scheme begins with a letter. -/
def IsScheme (scheme : List Char) : Prop :=
  ∃ first rest, scheme = first :: rest ∧ first.isAlpha = true ∧ rest.all isSchemeChar = true

/-- A URI: each part is free of what would end it. -/
structure Reference extends Parts where
  schemeFormed : IsScheme scheme
  /-- A slash, a question mark or a number sign ends the authority. -/
  authorityFormed : '/' ∉ authority ∧ '?' ∉ authority ∧ '#' ∉ authority
  /-- A path begins with a slash, unless it is empty. -/
  pathRooted : path = [] ∨ path.head? = some '/'
  /-- A question mark or a number sign ends the path. -/
  pathFormed : '?' ∉ path ∧ '#' ∉ path
  /-- A number sign ends the query. -/
  queryFormed : ∀ text, query = some text → '#' ∉ text

/-- Take a URI apart. -/
def read (text : List Char) : Option Parts := do
  let (scheme, behind) ← splitOnce ':' text
  let rest ← ['/', '/'].isPrefixOf? behind
  -- The first number sign begins the fragment, and the first question mark before it the query.
  let (front, fragment) := cut '#' rest
  let (hierarchy, query) := cut '?' front
  some
    { scheme
      authority := hierarchy.takeWhile (· ≠ '/')
      path := hierarchy.dropWhile (· ≠ '/')
      query
      fragment }

/-- No scheme has a colon in it. -/
theorem IsScheme.no_colon {scheme : List Char} (formed : IsScheme scheme) : ':' ∉ scheme := by
  obtain ⟨first, rest, rfl, letter, others⟩ := formed
  rw [List.mem_cons, not_or]
  -- It is neither the letter in front nor one of the others.
  constructor
  · intro same
    subst same
    exact absurd letter (by decide)
  · intro member
    exact absurd (List.all_eq_true.mp others ':' member) (by decide)

/-- The scheme of secure requests is one. -/
theorem isScheme_https : IsScheme "https".toList :=
  ⟨'h', "ttps".toList, rfl, by decide, by decide⟩

/-- A query that is missing holds no number sign. -/
theorem queryFormed_none : ∀ text : List Char, none = some text → '#' ∉ text :=
  nofun

/-- The slashes of the path do not reach into the authority. -/
theorem hierarchy_split {authority path : List Char} (formed : '/' ∉ authority)
    (rooted : path = [] ∨ path.head? = some '/') :
    (authority ++ path).takeWhile (· ≠ '/') = authority ∧
      (authority ++ path).dropWhile (· ≠ '/') = path := by
  -- All of the authority is passed over, and the path begins with a slash.
  rw [takeWhile_append formed, dropWhile_append formed]
  rcases rooted with rfl | slash
  · simp
  · obtain ⟨more, rfl⟩ := List.head?_eq_some_iff.mp slash
    simp

/-- The text of a URI is taken apart into its parts. -/
theorem read_text (reference : Reference) : read reference.text = some reference.toParts := by
  obtain ⟨noSlash, noQuestion, noNumber⟩ := reference.authorityFormed
  -- No part holds the mark of a later one, so the hash stands first in the fragment's mark.
  have clear : '#' ∉ reference.authority ++ reference.path ++ marked '?' reference.query := by
    simp only [List.mem_append, not_or]
    refine ⟨⟨noNumber, reference.pathFormed.2⟩, ?_⟩
    cases asked : reference.query with
    | none => simp [marked]
    | some text => simpa [marked] using reference.queryFormed text asked
  -- The question mark stands in the query's mark for the first time.
  have plain : '?' ∉ reference.authority ++ reference.path := by
    simp only [List.mem_append, not_or]
    exact ⟨noQuestion, reference.pathFormed.1⟩
  -- The parts stand one behind the other.
  have shape : reference.authority ++ reference.tail = reference.authority ++ reference.path ++
      marked '?' reference.query ++ marked '#' reference.fragment := by
    simp [Parts.tail, List.append_assoc]
  have slashes : ∀ rest, ['/', '/'].isPrefixOf? ('/' :: '/' :: rest) = some rest := fun _ => rfl
  obtain ⟨authority, path⟩ := hierarchy_split noSlash reference.pathRooted
  simp only [read, Parts.text, splitOnce_append reference.schemeFormed.no_colon, shape, slashes,
    Option.bind_eq_bind, Option.bind_some, cut_marked clear, cut_marked plain, authority, path]

end Uri
