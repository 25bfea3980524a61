import Acme.Core.Transport
import Acme.Encoding.Trimming
import Acme.Proofs.ScriptedAuthority

/-! Which error an unsuccessful response is reported as. -/

namespace Acme

open Trimming

/-- The media type of a header value: what stands before the first semicolon, without the white
space around it. -/
structure IsMediaType (value name : List Char) : Prop where
  /-- No white space in front of it. -/
  front : Bare isWhitespace name.head?
  /-- No white space behind it. -/
  back : Bare isWhitespace name.getLast?
  /-- No semicolon inside. -/
  single : ';' ∉ name
  /-- Around it there is white space, up to the ends of the value or a semicolon. -/
  parts : ∃ left right rest, value = left ++ name ++ right ++ rest ∧
    (∀ char ∈ left, isWhitespace char = true) ∧ (∀ char ∈ right, isWhitespace char = true) ∧
    ∀ char, rest.head? = some char → char = ';'

/-- White space has no semicolon in it. -/
theorem ne_semicolon_of_isWhitespace {char : Char} (space : isWhitespace char = true) :
    char ≠ ';' := by
  intro same
  subst same
  -- A semicolon is no white space.
  exact absurd space (by decide)

/-- The client computes the media type. -/
theorem isMediaType_iff {value name : List Char} :
    IsMediaType value name ↔ trim (value.takeWhile (· ≠ ';')) = name := by
  -- Trimming is known by what it leaves, and so is the part before the semicolon.
  have trimmed : trim (value.takeWhile (· ≠ ';')) = name ↔ _ := trim_eq_iff
  rw [trimmed]
  constructor
  · -- In front of the first semicolon stand the name and the white space around it.
    intro ⟨front, back, single, left, right, rest, whole, before, behind, stop⟩
    refine ⟨front, back, left, right, takeWhile_eq_iff.mpr ⟨?_, rest, whole, ?_⟩, before, behind⟩
    · intro char member
      rw [decide_eq_true_eq]
      rcases List.mem_append.mp member with member | member
      · rcases List.mem_append.mp member with member | member
        · exact ne_semicolon_of_isWhitespace (before char member)
        · exact fun same => single (same ▸ member)
      · exact ne_semicolon_of_isWhitespace (behind char member)
    · intro char head
      rw [stop char head]
      rfl
  · -- Conversely, the part in front of the semicolon is trimmed to the name.
    intro ⟨front, back, left, right, taken, before, behind⟩
    obtain ⟨all, rest, whole, stop⟩ := takeWhile_eq_iff.mp taken
    refine ⟨front, back, ?_, left, right, rest, whole, before, behind, ?_⟩
    · intro member
      -- A semicolon in the name would have ended that part.
      have clear := all ';' (by simp [member])
      simp at clear
    · intro char head
      have same := stop char head
      simpa using same

/-- The media type of problem documents. -/
def problemJson : List Char := "application/problem+json".toList

/-- A header value names the media type of problem documents, in any mix of letter cases. -/
def NamesProblem (contentType : Option String) : Prop :=
  ∃ value name, contentType = some value ∧ IsMediaType value.toList name ∧
    name.map Char.toLower = problemJson

/-- It names that media type with a capital letter somewhere. -/
def Recased (contentType : Option String) : Prop :=
  ∃ value name, contentType = some value ∧ IsMediaType value.toList name ∧
    name.map Char.toLower = problemJson ∧ name ≠ problemJson

/-- The client recognises the media type exactly when it is written in small letters. -/
theorem isProblem_iff {contentType : Option String} :
    isProblem contentType = true ↔ NamesProblem contentType ∧ ¬ Recased contentType := by
  cases contentType with
  -- Without a media type no document is recognised.
  | none => simp [isProblem, NamesProblem]
  | some value =>
    -- A value has one media type, so the two words speak of the same.
    have type := isMediaType_iff.mpr (rfl : trim (value.toList.takeWhile (· ≠ ';')) = _)
    have small : problemJson.map Char.toLower = problemJson := by decide
    constructor
    · -- What is recognised is spelled in small letters, so that it is not recased.
      intro recognised
      have same : trim (value.toList.takeWhile (· ≠ ';')) = problemJson :=
        of_decide_eq_true recognised
      rw [same] at type
      refine ⟨⟨value, problemJson, rfl, type, small⟩, ?_⟩
      intro ⟨other, name, found, named, _, different⟩
      cases found
      exact different ((isMediaType_iff.mp named).symm.trans same)
    · intro ⟨⟨other, name, found, named, lower⟩, plain⟩
      cases found
      have same := isMediaType_iff.mp named
      -- If it were not recognised, its spelling would be another one.
      by_contra missed
      refine plain ⟨value, name, rfl, named, lower, ?_⟩
      intro exactly
      rw [exactly] at same
      exact missed (decide_eq_true same)

/-- The error codes of ACME, and the failure each stands for. -/
def acmeCodes : List (String × (String → AcmeError)) :=
  [("badCSR", .badCsr), ("badNonce", .badNonce), ("badPublicKey", .badPublicKey),
    ("badRevocationReason", .badRevocationReason),
    ("badSignatureAlgorithm", .badSignatureAlgorithm), ("caa", .caa), ("compound", .compound),
    ("connection", .connection), ("dns", .dns),
    ("externalAccountRequired", .externalAccountRequired),
    ("incorrectResponse", .incorrectResponse), ("invalidContact", .invalidContact),
    ("malformed", .malformed), ("orderNotReady", .orderNotReady), ("rateLimited", .rateLimited),
    ("rejectedIdentifier", .rejectedIdentifier), ("serverInternal", .serverInternal),
    ("tls", .tls), ("unauthorized", .unauthorized), ("unsupportedContact", .unsupportedContact),
    ("unsupportedIdentifier", .unsupportedIdentifier),
    ("userActionRequired", .userActionRequired), ("accountDoesNotExist", .accountDoesNotExist),
    ("alreadyRevoked", .alreadyRevoked), ("badRevoked", .badRevoked)]

/-- The type URI of a code. -/
def codeUri (code : String) : String := "urn:ietf:params:acme:error:" ++ code

/-- The text a problem is reported with: its detail, else its title, else its type. -/
def ProblemDocument.shownText (doc : ProblemDocument) : String :=
  match doc.detail, doc.title with
  | some detail, _ => detail
  | none, some title => title
  | none, none => doc.type

/-- A problem is reported as the failure of its code, or with its type and text as they are. -/
structure Dispatched (doc : ProblemDocument) (failure : AcmeError) : Prop where
  /-- An enumerated code. -/
  listed : ∀ entry ∈ acmeCodes, doc.type = codeUri entry.1 → failure = entry.2 doc.shownText
  /-- Any other type. -/
  unlisted : (∀ entry ∈ acmeCodes, doc.type ≠ codeUri entry.1) →
    ∃ message, failure = .other message ∧ doc.type.toList <:+: message.toList ∧
      doc.shownText.toList <:+: message.toList

/-- The expected report of a response: its problem document, else its status and the front of
its body. -/
structure Reported (lib : Libraries) (status : UInt16) (contentType : Option String)
    (body : Bytes) (failure : AcmeError) : Prop where
  /-- A problem document under its media type. -/
  problem : NamesProblem contentType → ∀ doc, lib.parseProblem body = some doc →
    Dispatched doc failure
  /-- Anything else. -/
  plain : (NamesProblem contentType → lib.parseProblem body = none) →
    ∃ snippet : String, failure = .http status snippet ∧
      snippet.toList <+: Utf8.lossy body ∧ snippet.length = min 512 (Utf8.lossy body).length

/-- Behind the common beginning, the code is what is left of the type. -/
theorem stripped_iff {typeUri : String} {code : List Char} :
    problemPrefix.toList.isPrefixOf? typeUri.toList = some code ↔
      typeUri = codeUri (String.ofList code) := by
  -- Both sides say that the type is the beginning followed by the code.
  have whole : codeUri (String.ofList code) = problemPrefix ++ String.ofList code := rfl
  rw [List.isPrefixOf?_eq_some_iff_append_eq, whole, ← String.toList_inj, String.toList_append,
    String.toList_ofList, eq_comm]

/-- The failure of a type behind the common beginning depends on its code. -/
theorem parseProblemType_codeUri (code detail : String) :
    parseProblemType (codeUri code) detail =
      ((acmeCodes.find? (·.1 = code)).map fun entry => entry.2 detail).getD
        (.other (codeUri code ++ ": " ++ detail)) := by
  have stripped : problemPrefix.toList.isPrefixOf? (codeUri code).toList = some code.toList :=
    stripped_iff.mpr (by rw [String.ofList_toList])
  simp only [parseProblemType, stripped, String.ofList_toList]
  split
  case h_26 =>
    -- No entry of the table has such a code.
    rw [List.find?_eq_none.mpr]
    · rfl
    · simp_all [acmeCodes, eq_comm]
  all_goals rfl

/-- Every enumerated code stands for its failure. -/
theorem parseProblemType_listed {entry : String × (String → AcmeError)} (detail : String)
    (listed : entry ∈ acmeCodes) :
    parseProblemType (codeUri entry.1) detail = entry.2 detail := by
  -- No two entries share a code, so the entry found first is this one.
  have distinct : (acmeCodes.map Prod.fst).Nodup := by decide
  have found : acmeCodes.find? (·.1 = entry.1) = some entry := by
    cases first : acmeCodes.find? (·.1 = entry.1) with
    -- The entry itself would have been found.
    | none =>
      have missed := List.find?_eq_none.mp first entry listed
      simp at missed
    | some other =>
      have same : other.1 = entry.1 := by simpa using List.find?_some first
      rw [List.inj_on_of_nodup_map distinct (List.mem_of_find?_eq_some first) listed same]
  rw [parseProblemType_codeUri, found]
  rfl

/-- A type that is not enumerated is reported as it is, with the text behind it. -/
theorem parseProblemType_unlisted {typeUri : String} (detail : String)
    (unlisted : ∀ entry ∈ acmeCodes, typeUri ≠ codeUri entry.1) :
    parseProblemType typeUri detail = .other (typeUri ++ ": " ++ detail) := by
  cases stripped : problemPrefix.toList.isPrefixOf? typeUri.toList with
  | none => simp only [parseProblemType, stripped]
  | some code =>
    -- The beginning is that of ACME, and the code is not in the table.
    have same := stripped_iff.mp stripped
    rw [same, parseProblemType_codeUri, List.find?_eq_none.mpr]
    · rfl
    · intro entry member found
      exact unlisted entry member (same.trans (by rw [of_decide_eq_true found]))

/-- The text of a problem falls back on its title and then on its type. -/
theorem shownText_eq (doc : ProblemDocument) :
    doc.detail.getD (doc.title.getD doc.type) = doc.shownText := by
  unfold ProblemDocument.shownText
  cases doc.detail <;> cases doc.title <;> rfl

/-- A problem document is reported as its type demands. -/
theorem intoAcmeError_dispatched (doc : ProblemDocument) : Dispatched doc doc.intoAcmeError := by
  rw [ProblemDocument.intoAcmeError, shownText_eq]
  constructor
  · intro entry listed same
    rw [same, parseProblemType_listed _ listed]
  · intro unlisted
    -- The message is the type, a separator and the text.
    refine ⟨_, parseProblemType_unlisted _ unlisted, ?_, ?_⟩
    · rw [String.toList_append, String.toList_append, List.append_assoc]
      exact (List.prefix_append _ _).isInfix
    · rw [String.toList_append]
      exact (List.suffix_append _ _).isInfix

/-- No problem is reported by its status alone. -/
theorem Dispatched.ne_http {doc : ProblemDocument} {failure : AcmeError}
    (dispatched : Dispatched doc failure) (status : UInt16) (body : String) :
    failure ≠ .http status body := by
  intro same
  by_cases listed : ∃ entry ∈ acmeCodes, doc.type = codeUri entry.1
  · -- An enumerated code has a variant of its own.
    obtain ⟨entry, member, found⟩ := listed
    have reported := dispatched.listed entry member found
    have variants : ∀ entry ∈ acmeCodes, entry.2 doc.shownText ≠ .http status body := by
      simp [acmeCodes]
    exact variants entry member (reported.symm.trans same)
  · -- Any other code has the general one.
    have unlisted : ∀ entry ∈ acmeCodes, doc.type ≠ codeUri entry.1 :=
      fun entry member found => listed ⟨entry, member, found⟩
    obtain ⟨message, reported, _⟩ := dispatched.unlisted unlisted
    rw [same] at reported
    cases reported

/-- Without a recognised document, the status and the front of the body are reported. -/
theorem problemFromResponse_plain {lib : Libraries} {status : UInt16}
    {contentType : Option String} {body : Bytes}
    (missing : isProblem contentType = true → lib.parseProblem body = none) :
    problemFromResponse lib status contentType body =
      .http status (String.ofList ((Utf8.lossy body).take 512)) := by
  unfold problemFromResponse
  -- The document is not looked for, or is none.
  cases recognised : isProblem contentType with
  | false => rfl
  | true => rw [if_pos rfl, missing recognised]

/-- The front of the body is as long as the limit allows. -/
theorem snippet_shape (body : Bytes) :
    (String.ofList ((Utf8.lossy body).take 512)).toList <+: Utf8.lossy body ∧
      (String.ofList ((Utf8.lossy body).take 512)).length = min 512 (Utf8.lossy body).length := by
  constructor
  · -- It is cut from the front of the text.
    rw [String.toList_ofList]
    exact List.take_prefix _ _
  · rw [String.length_ofList, List.length_take]

/-- A response is reported as expected, except that a document is lost when its media type has
a capital letter. -/
theorem response_reported_iff (lib : Libraries) (status : UInt16) (contentType : Option String)
    (body : Bytes) :
    Reported lib status contentType body (problemFromResponse lib status contentType body) ↔
      ¬ (Recased contentType ∧ lib.parseProblem body ≠ none) := by
  constructor
  · intro reported ⟨recased, readable⟩
    obtain ⟨doc, read⟩ := Option.ne_none_iff_exists'.mp readable
    obtain ⟨value, name, found, named, lower, _⟩ := id recased
    -- The document is there and should have been dispatched, but the client does not see it.
    have dispatched := reported.problem ⟨value, name, found, named, lower⟩ doc read
    apply dispatched.ne_http
    apply problemFromResponse_plain
    intro recognised
    exact absurd recased (isProblem_iff.mp recognised).2
  · intro kept
    constructor
    · intro named doc read
      -- A readable document is not under a recased media type, so it is recognised.
      have plain : ¬ Recased contentType := fun recased => kept ⟨recased, by simp [read]⟩
      have recognised := isProblem_iff.mpr ⟨named, plain⟩
      have reported : problemFromResponse lib status contentType body = doc.intoAcmeError := by
        simp only [problemFromResponse, recognised, if_true, read]
      rw [reported]
      exact intoAcmeError_dispatched doc
    · -- Without a document the status and a part of the body are reported.
      intro missing
      refine ⟨_, problemFromResponse_plain ?_, snippet_shape body⟩
      intro recognised
      exact missing (isProblem_iff.mp recognised).1

set_option maxRecDepth 100000 in
/-- The client does not recognise a media type with capital letters. -/
theorem recased_unrecognised : problemFromResponse sampleLibraries 429
    (some "Application/Problem+JSON") (Utf8.bytes problemText) = .http 429 problemText := by
  with_unfolding_all rfl

set_option maxRecDepth 100000 in
/-- It does recognise one in small letters. -/
theorem small_recognised : problemFromResponse sampleLibraries 429
    (some "application/problem+json") (Utf8.bytes problemText) = .rateLimited "too many orders" := by
  with_unfolding_all rfl

/-- A rate limit under a media type with capital letters is reported as a bare status. -/
theorem recased_problem_lost :
    problemFromResponse sampleLibraries 429 (some "Application/Problem+JSON")
        (Utf8.bytes problemText) = .http 429 problemText ∧
      problemFromResponse sampleLibraries 429 (some "application/problem+json")
        (Utf8.bytes problemText) = .rateLimited "too many orders" ∧
      ¬ Reported sampleLibraries 429 (some "Application/Problem+JSON") (Utf8.bytes problemText)
        (problemFromResponse sampleLibraries 429 (some "Application/Problem+JSON")
          (Utf8.bytes problemText)) := by
  have read : sampleLibraries.parseProblem (Utf8.bytes problemText) = some sampleProblem := by
    simp [sampleLibraries, readTable, Except.toOption]
  refine ⟨recased_unrecognised, small_recognised, ?_⟩
  rw [recased_unrecognised]
  intro reported
  -- The header names the media type, so the document would have been dispatched.
  have named : NamesProblem (some "Application/Problem+JSON") :=
    ⟨_, _, rfl, isMediaType_iff.mpr rfl, by decide⟩
  exact (reported.problem named sampleProblem read).ne_http _ _ rfl

end Acme
