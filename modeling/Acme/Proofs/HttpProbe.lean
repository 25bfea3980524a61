import Acme.Encoding.Trimming
import Acme.Testing.HttpServer
import Mathlib.Data.List.TakeDrop
import Mathlib.Data.List.TakeWhile

/-! What an authority that asks the HTTP-01 responder finds. -/

namespace Acme.Testing

open Split

/-- The lines of a text, each with its line feed; the last one may lack it. -/
def textLines : List Char → List (List Char)
  | [] => []
  -- A line feed belongs to the line that it ends.
  | char :: rest =>
    if char = '\n' then [char] :: textLines rest
    else match textLines rest with
      | [] => [[char]]
      | line :: more => (char :: line) :: more

/-- The bytes of some characters. -/
def encode (chars : List Char) : Bytes :=
  Utf8.bytes (String.ofList chars)

@[simp] theorem encode_cons (char : Char) (chars : List Char) :
    encode (char :: chars) = String.utf8EncodeChar char ++ encode chars := by
  simp [encode, Utf8.bytes_eq_flatMap]

@[simp] theorem encode_nil : encode [] = [] := by
  simp [encode, Utf8.bytes_eq_flatMap]

/-- Bytes without a line feed go in front of the first line. -/
theorem toLines_append {front : Bytes} (absent : 10 ∉ front) (some : front ≠ []) (rest : Bytes) :
    toLines (front ++ rest) = match toLines rest with
      | [] => [front]
      | line :: more => (front ++ line) :: more := by
  -- By induction on the bytes in front, each of which is not a line feed.
  induction front with
  | nil => exact absurd rfl some
  | cons byte others ih =>
    have other : byte ≠ 10 := fun same => absent (same ▸ List.mem_cons_self)
    rw [List.cons_append, toLines, if_neg other]
    -- The last of them meets the line that was there, the others their own rest.
    cases others with
    | nil => rfl
    | cons next more =>
      rw [ih (fun member => absent (List.mem_cons_of_mem _ member)) (by simp)]
      cases toLines rest <;> rfl

/-- The lines of a text, as bytes, are those of its bytes. -/
theorem toLines_encode (chars : List Char) :
    toLines (encode chars) = (textLines chars).map encode := by
  -- By induction on the characters; each is one byte or several.
  induction chars with
  | nil => simp [toLines, textLines]
  | cons char rest ih =>
    rw [encode_cons, textLines]
    by_cases feed : char = '\n'
    · subst feed
      have single : String.utf8EncodeChar '\n' = [10] := rfl
      simp [single, toLines, ih]
    · -- No other character is encoded with a line feed.
      have absent : (10 : UInt8) ∉ String.utf8EncodeChar char := by
        intro used
        exact feed (Char.toNat_inj.mp (Utf8.ascii_of_mem (by decide) used))
      rw [if_neg feed, toLines_append absent String.utf8EncodeChar_ne_nil, ih]
      cases textLines rest <;> simp

/-- The first line goes up to the first line feed. -/
theorem textLines_first (front rest : List Char) :
    ∃ more, textLines (front ++ '\n' :: rest)
      = (front.takeWhile (· ≠ '\n') ++ ['\n']) :: more := by
  -- By induction on what stands before the line feed.
  induction front with
  | nil => exact ⟨_, rfl⟩
  | cons char others ih =>
    obtain ⟨more, shape⟩ := ih
    rw [List.cons_append, textLines]
    -- It may have a line feed of its own, which then ends the first line.
    by_cases feed : char = '\n'
    · exact ⟨textLines (others ++ '\n' :: rest), by simp [feed]⟩
    · exact ⟨more, by simp [feed, shape]⟩

/-- A line feed ends a line, whatever follows it. -/
theorem textLines_feed (front rest : List Char) :
    textLines (front ++ '\n' :: rest) = textLines (front ++ ['\n']) ++ textLines rest := by
  -- By induction on what stands before the line feed.
  induction front with
  | nil => simp [textLines]
  | cons char others ih =>
    rw [List.cons_append, List.cons_append, textLines, textLines]
    by_cases feed : char = '\n'
    · simp [feed, ih]
    · -- The first line is not empty, as it is ended by the line feed.
      obtain ⟨more, shape⟩ := textLines_first others []
      rw [if_neg feed, if_neg feed, ih, shape, List.cons_append, List.cons_append]

/-- Such lines all end with their line feed. -/
theorem getLast?_of_mem_textLines {front line : List Char}
    (member : line ∈ textLines (front ++ ['\n'])) : line.getLast? = some '\n' := by
  -- By induction on the text, of which each character begins a line or lengthens one.
  induction front generalizing line with
  | nil =>
    obtain rfl : line = ['\n'] := by simpa [textLines] using member
    rfl
  | cons char others ih =>
    rw [List.cons_append, textLines] at member
    split at member
    · -- A line feed in front is a line of its own.
      rename_i feed
      subst feed
      rcases List.mem_cons.mp member with rfl | later
      · rfl
      · exact ih later
    · split at member
      · -- There is always a first line, so this does not happen.
        rename_i none
        obtain ⟨more, shape⟩ := textLines_first others []
        simp [none] at shape
      · -- A line that is lengthened at its front ends as before.
        rename_i first more shape
        rcases List.mem_cons.mp member with rfl | later
        · have ends := ih (shape ▸ List.mem_cons_self)
          cases first with
          | nil => cases ends
          | cons => exact ends
        · exact ih (shape ▸ List.mem_cons_of_mem _ later)

/-- A complete line is read as its text. -/
theorem readLine_encode (closed : Bool) {line : List Char} (complete : line.getLast? = some '\n')
    (rest : List Bytes) :
    readLine closed (encode line :: rest) = .ok (String.ofList line, rest) := by
  -- The line feed at the end is what the reader waits for.
  obtain ⟨front, rfl⟩ := List.getLast?_eq_some_iff.mp complete
  have ends : (encode (front ++ ['\n'])).getLast? = some 10 := by
    have feed : String.utf8EncodeChar '\n' = [10] := rfl
    simp [encode, Utf8.bytes_eq_flatMap, feed]
  have text : Utf8.text (encode (front ++ ['\n'])) = some (String.ofList (front ++ ['\n'])) :=
    Utf8.text_bytes _
  rw [readLine, if_pos (.inl ends), text]

/-- Headers are read when their lines are complete and one of them is empty. -/
theorem drainHeaders_encode (closed : Bool) {lines : List (List Char)}
    (complete : ∀ line ∈ lines, line.getLast? = some '\n') (blank : ['\r', '\n'] ∈ lines) :
    drainHeaders closed (lines.map encode) = .ok () := by
  -- By induction on the lines, until the empty one is met.
  induction lines with
  | nil => cases blank
  | cons line rest ih =>
    rw [List.map_cons, drainHeaders, readLine_encode closed (complete line List.mem_cons_self)]
    show (if String.ofList line = "\r\n" ∨ String.ofList line = "\n" then _ else _) = _
    split
    · rfl
    · rename_i other
      -- The line that was read is not the empty one, so that comes later.
      refine ih (fun line member => complete line (List.mem_cons_of_mem _ member)) ?_
      rcases List.mem_cons.mp blank with rfl | later
      · exact absurd (.inl rfl) other
      · exact later

/-- A word ends where white space follows it. -/
theorem nextWord_eq (gap : List Char) {word : List Char} {space : Char} (rest : List Char)
    (gapSpaces : ∀ char ∈ gap, isWhitespace char = true)
    (plain : ∀ char ∈ word, isWhitespace char = false) (some : word ≠ [])
    (ends : isWhitespace space = true) :
    nextWord (gap ++ (word ++ space :: rest)) = (word, space :: rest) := by
  -- The gap is skipped up to the first character of the word.
  obtain ⟨first, more, rfl⟩ := List.exists_cons_of_ne_nil some
  have begins : (gap ++ ((first :: more) ++ space :: rest)).dropWhile isWhitespace
      = (first :: more) ++ space :: rest := by
    rw [List.dropWhile_append_of_pos gapSpaces, List.cons_append,
      List.dropWhile_cons_of_neg (by simp [plain first List.mem_cons_self])]
  -- The word is taken up to the white space behind it.
  have kept : ∀ char ∈ first :: more, (!isWhitespace char) = true := by simpa using plain
  rw [nextWord, begins, List.span_eq_takeWhile_dropWhile, List.takeWhile_append_of_pos kept,
    List.dropWhile_append_of_pos kept, List.takeWhile_cons_of_neg (by simp [ends]),
    List.dropWhile_cons_of_neg (by simp [ends]), List.append_nil]

/-- The method of a request for a token. -/
def method : List Char := ['G', 'E', 'T']

theorem method_plain : ∀ char ∈ method, isWhitespace char = false := by
  simp [method, isWhitespace]

/-- The request of an authority for a token, with whatever else it says. -/
def probe (token : String) (others : List Char) : List Char :=
  method ++ ' ' :: ((Http01.path token).toList ++ ' ' :: (others ++ ['\n', '\r', '\n']))

/-- The beginning of a token, up to white space. -/
def visible (token : String) : String :=
  String.ofList (token.toList.takeWhile fun char => !isWhitespace char)

@[simp] theorem toList_visible (token : String) :
    (visible token).toList = token.toList.takeWhile fun char => !isWhitespace char :=
  String.toList_ofList

/-- What the server says to a request for a token. -/
def Http01Server.responds (server : Http01Server) (token : String) : Bytes :=
  match server.map token with
  | some body => writeResponse 200 "OK" (Utf8.bytes body)
  | none => writeResponse 404 "Not Found" []

/-- What the server takes for the path when it is asked for a token. -/
def visiblePath (token : String) : List Char :=
  wellKnown.toList ++ (visible token).toList

/-- It begins with a slash. -/
theorem visiblePath_ne_nil (token : String) : visiblePath token ≠ [] := by
  have some : wellKnown.toList ≠ [] := by decide
  exact List.append_ne_nil_of_left_ne_nil some _

/-- No white space belongs to it. -/
theorem visiblePath_plain (token : String) :
    ∀ char ∈ visiblePath token, isWhitespace char = false := by
  intro char member
  -- The fixed part has none, and the token is cut at its first.
  rcases List.mem_append.mp member with fixed | chosen
  · have all : wellKnown.toList.all fun char => !isWhitespace char := by decide
    simpa using List.all_eq_true.mp all char fixed
  · rw [toList_visible] at chosen
    simpa using List.mem_takeWhile_imp chosen

/-- The path of a token is what is visible of it, and what stands behind. -/
theorem path_eq (token : String) : (Http01.path token).toList
    = visiblePath token ++ token.toList.dropWhile fun char => !isWhitespace char := by
  calc (Http01.path token).toList
      = wellKnown.toList ++ token.toList := String.toList_append
    _ = wellKnown.toList ++ ((visible token).toList ++
        token.toList.dropWhile fun char => !isWhitespace char) := by
      rw [toList_visible, List.takeWhile_append_dropWhile]
    _ = visiblePath token ++ token.toList.dropWhile fun char => !isWhitespace char :=
      (List.append_assoc _ _ _).symm

/-- The first line of a request for a token: a method, that path, and what is behind a space. -/
theorem probe_lines (token : String) (others : List Char) :
    ∃ space more lines, isWhitespace space = true ∧
      textLines (probe token others)
        = (method ++ ' ' :: (visiblePath token ++ space :: more)) :: lines ∧
      (∀ line ∈ textLines (probe token others), line.getLast? = some '\n') ∧
      ['\r', '\n'] ∈ lines := by
  -- Behind the path is the first white space of the token, or that behind the token.
  obtain ⟨first, rest, shape, blank⟩ : ∃ first rest, (Http01.path token).toList ++ ' ' :: others
      = visiblePath token ++ first :: rest ∧ isWhitespace first = true := by
    rw [path_eq]
    -- A token without white space is followed by the space of the request line.
    cases left : token.toList.dropWhile fun char => !isWhitespace char with
    | nil => exact ⟨' ', others, by rw [List.append_nil], by decide⟩
    | cons first later =>
      have stop := List.head?_dropWhile_not (fun char => !isWhitespace char) token.toList
      rw [left] at stop
      refine ⟨first, later ++ ' ' :: others, ?_, by simpa using stop⟩
      rw [List.append_assoc, List.cons_append]
  -- The first line ends before the empty one.
  have whole : probe token others
      = (method ++ ' ' :: (visiblePath token ++ first :: rest)) ++ '\n' :: ['\r', '\n'] := by
    have joined := congrArg (fun middle => method ++ ' ' :: (middle ++ ['\n', '\r', '\n'])) shape
    simpa only [probe, List.append_assoc, List.cons_append] using joined
  -- Up to there, the line goes on.
  have single : '\n' ∉ method ++ ' ' :: visiblePath token := by
    intro member
    rcases List.mem_append.mp member with fixed | later
    · exact absurd fixed (by decide)
    · rcases List.mem_cons.mp later with space | chosen
      · exact absurd space (by decide)
      · exact absurd (visiblePath_plain token _ chosen) (by decide)
  -- The empty line is still there behind it.
  have last : textLines ['\r', '\n'] = [['\r', '\n']] := by decide
  obtain ⟨lines, start⟩ := textLines_first (method ++ ' ' :: (visiblePath token ++ first :: rest)) []
  rw [whole, textLines_feed, last, start]
  have regroup (tail : List Char) : method ++ ' ' :: (visiblePath token ++ tail)
      = (method ++ ' ' :: visiblePath token) ++ tail := by
    rw [List.append_assoc, List.cons_append]
  -- The white space may itself be the line feed.
  obtain ⟨space, more, tail, white⟩ : ∃ space more,
      (first :: rest).takeWhile (· ≠ '\n') ++ ['\n'] = space :: more ∧
        isWhitespace space = true := by
    by_cases feed : first = '\n'
    · exact ⟨'\n', [], by simp [feed], by decide⟩
    · exact ⟨first, rest.takeWhile (· ≠ '\n') ++ ['\n'], by simp [feed], blank⟩
  -- The empty line is the last one.
  refine ⟨space, more, lines ++ [['\r', '\n']], white, ?_, ?_, by simp⟩
  · rw [regroup, Split.takeWhile_append single, List.append_assoc, tail, ← regroup, List.cons_append]
  · intro line member
    rw [List.mem_append, ← start] at member
    rcases member with before | empty
    · exact getLast?_of_mem_textLines before
    · obtain rfl := List.mem_singleton.mp empty
      rfl

/-- A request line for a token is answered by what the server has for its visible part. -/
theorem dispatch_eq (server : Http01Server) (token : String) {space : Char} (more : List Char)
    (blank : isWhitespace space = true) :
    server.dispatch (String.ofList (method ++ ' ' :: (visiblePath token ++ space :: more)))
      = server.responds (visible token) := by
  -- The first word is the method.
  have first : nextWord (method ++ ' ' :: (visiblePath token ++ space :: more))
      = (method, ' ' :: (visiblePath token ++ space :: more)) :=
    nextWord_eq [] _ (by simp) method_plain (by decide)
      (show isWhitespace ' ' = true by decide)
  -- The second word is the path, up to the white space in the token.
  have second : nextWord (' ' :: (visiblePath token ++ space :: more))
      = (visiblePath token, space :: more) :=
    List.singleton_append ▸ nextWord_eq [' '] more (by simp [isWhitespace]) (visiblePath_plain token)
      (visiblePath_ne_nil token) blank
  -- What follows the fixed part of the path is the token that is looked up.
  have found : wellKnown.toList.isPrefixOf? (visiblePath token) = some (visible token).toList :=
    List.isPrefixOf?_eq_some_iff_append_eq.mpr rfl
  have get : ¬ method ≠ "GET".toList := not_not_intro (by decide)
  unfold Http01Server.dispatch
  rw [String.toList_ofList, first]
  dsimp only
  rw [second]
  dsimp only
  rw [if_neg get, found, Option.bind_some, String.ofList_toList]
  rfl

/-- The request for a token is answered by what the server has for its visible part. -/
theorem handleConnection_probe (server : Http01Server) (token : String) (others : List Char)
    (closed : Bool) :
    server.handleConnection { input := encode (probe token others), closed }
      = .ok (server.responds (visible token)) := by
  -- The request has a first line, and headers up to an empty line.
  obtain ⟨space, more, lines, blank, shape, complete, empty⟩ := probe_lines token others
  rw [shape] at complete
  -- The headers are read and left aside.
  have drained := drainHeaders_encode closed
    (fun line member => complete line (List.mem_cons_of_mem _ member)) empty
  unfold Http01Server.handleConnection
  rw [toLines_encode, shape, List.map_cons, readLine_encode closed (complete _ List.mem_cons_self)]
  show (drainHeaders closed (lines.map encode) >>= fun _ => _) = _
  -- What is left is to answer the first line.
  rw [drained, ← dispatch_eq server token more blank]
  rfl

/-- A response of the server, as a message. -/
def reply (status : UInt16) (reason : String) (body : Bytes) : HttpReply where
  status := status.toNat
  reason := reason
  fields :=
    [("Content-Type", "application/octet-stream"), ("Content-Length", toString body.length),
      ("Connection", "close")]
  body := body

/-- The server writes the bytes of that message. -/
theorem writeResponse_eq (status : UInt16) (reason : String) (body : Bytes) :
    writeResponse status reason body = (reply status reason body).render := by
  have feed : Utf8.bytes "\r\n" = [13, 10] := by decide
  have line (text : String) : HttpReply.line text = Utf8.bytes (text ++ "\r\n") := by
    rw [HttpReply.line, Utf8.bytes_append, feed]
  -- The lines of the server are those of the fields, each with its end.
  have type : "Content-Type: application/octet-stream\r\n"
      = HttpReply.fieldLine ("Content-Type", "application/octet-stream") ++ "\r\n" := by decide
  have length : "Content-Length: " = "Content-Length" ++ ": " := by decide
  have connection : "Connection: close\r\n"
      = HttpReply.fieldLine ("Connection", "close") ++ "\r\n" := by decide
  have empty : Utf8.bytes "" = [] := by decide
  -- Both are the same texts one after the other.
  simp only [writeResponse, reply, HttpReply.render, HttpReply.statusLine, HttpReply.fieldLine,
    line, type, length, connection, empty, List.flatMap_cons, List.flatMap_nil, Utf8.bytes_append,
    List.append_assoc, List.append_nil, List.nil_append]

/-- What the server writes reads as the message that was meant. -/
theorem read_writeResponse {status : UInt16} {reason : String} {body : Bytes}
    (single : '\n' ∉ reason.toList) :
    HttpReply.read (writeResponse status reason body) = some (reply status reason body) := by
  -- A length is written in digits, which end no line.
  have digits : ∀ char ∈ (toString body.length).toList, char.isDigit = true := by
    intro char member
    rw [Nat.toString_eq_ofList_toDigits, String.toList_ofList] at member
    exact Nat.isDigit_of_mem_toDigits (by decide) (by decide) member
  -- Neither the reason nor a field breaks the line it is in.
  have formed : (reply status reason body).Formed :=
    { reason := single
      names := by
        intro field member
        simp only [reply, List.mem_cons, List.not_mem_nil, or_false] at member
        rcases member with rfl | rfl | rfl
        · show '\n' ∉ "Content-Type".toList ∧ ':' ∉ "Content-Type".toList
          decide
        · show '\n' ∉ "Content-Length".toList ∧ ':' ∉ "Content-Length".toList
          decide
        · show '\n' ∉ "Connection".toList ∧ ':' ∉ "Connection".toList
          decide
      -- No value begins with a space, or holds a line feed.
      values := by
        intro field member
        simp only [reply, List.mem_cons, List.not_mem_nil, or_false] at member
        rcases member with rfl | rfl | rfl
        · show '\n' ∉ "application/octet-stream".toList ∧
            "application/octet-stream".toList.head? ≠ some ' '
          decide
        · constructor
          · exact fun member => absurd (digits _ member) (by decide)
          · exact fun first => absurd (digits _ (List.mem_of_mem_head? first)) (by decide)
        · show '\n' ∉ "close".toList ∧ "close".toList.head? ≠ some ' '
          decide
      size := rfl }
  rw [writeResponse_eq, HttpReply.read_render formed]

/-- What an authority reads when it asks for a token. -/
def Http01Server.asked (server : Http01Server) (token : String) (others : List Char)
    (closed : Bool) : Option HttpReply :=
  (server.handleConnection { input := encode (probe token others), closed }).toOption.bind
    HttpReply.read

/-- It finds what the server has for the visible part of the token. -/
theorem asked_eq (server : Http01Server) (token : String) (others : List Char) (closed : Bool) :
    server.asked token others closed = some (match server.map (visible token) with
      | some body => reply 200 "OK" (Utf8.bytes body)
      | none => reply 404 "Not Found" []) := by
  -- Either answer is read back as it was meant.
  have ok (body : Bytes) : HttpReply.read (writeResponse 200 "OK" body) = some (reply 200 "OK" body) :=
    read_writeResponse (by decide)
  have missing : HttpReply.read (writeResponse 404 "Not Found" [])
      = some (reply 404 "Not Found" []) := read_writeResponse (by decide)
  rw [Http01Server.asked, handleConnection_probe, Except.toOption, Option.bind_some,
    Http01Server.responds]
  -- The server answers by what it has under the visible part.
  cases server.map (visible token) with
  | none => rw [missing]
  | some body => rw [ok]

/-- A token that can be asked for as it is: no part of it ends a path or a token. -/
def Plain (token : String) : Prop :=
  ∀ char ∈ token.toList, isWhitespace char = false ∧ char ≠ '.'

instance (token : String) : Decidable (Plain token) :=
  inferInstanceAs (Decidable (∀ char ∈ token.toList, isWhitespace char = false ∧ char ≠ '.'))

/-- The beginning of a token, up to a dot. -/
def upToDot (token : String) : String :=
  String.ofList (token.toList.takeWhile (· ≠ '.'))

/-- The token that the adapter finds in a key authorization goes up to the first dot. -/
theorem tokenOf_computeKeyAuthorization (lib : Libraries) (token : String) (key : AccountKey) :
    tokenOf (computeKeyAuthorization lib token key)
      = .ok (upToDot token) := by
  -- A key authorization is the token, a dot and the thumbprint.
  have shape : (computeKeyAuthorization lib token key).toList
      = token.toList ++ '.' :: (key.jwkThumbprint lib).toList := by
    simp [computeKeyAuthorization]
  obtain ⟨more, split⟩ := Split.splitOn_head '.' (computeKeyAuthorization lib token key).toList
  -- The first dot stands in the token, or right behind it.
  have front : (token.toList ++ '.' :: (key.jwkThumbprint lib).toList).takeWhile (· ≠ '.')
      = token.toList.takeWhile (· ≠ '.') := by
    rw [List.takeWhile_append]
    split
    · rename_i whole
      rw [List.takeWhile_cons_of_neg (by simp), List.append_nil]
      exact ((List.takeWhile_prefix _).eq_of_length whole).symm
    · rfl
  rw [tokenOf, split, shape, front]
  rfl

/-- Arming the adapter makes the server serve the key authorization, up to the first dot. -/
theorem arm_eq (lib : Libraries) (server : Http01Server) (identifier : Identifier) (token : String)
    (key : AccountKey) :
    Http01SolverAdapter.arm server identifier (computeKeyAuthorization lib token key)
      = .ok ({ token := upToDot token },
          server.insert (upToDot token) (computeKeyAuthorization lib token key)) := by
  -- The adapter looks for the token in the key authorization itself.
  rw [Http01SolverAdapter.arm, tokenOf_computeKeyAuthorization]
  rfl

/-- A token is served under what is visible of it exactly when it is plain. -/
theorem visible_eq_iff (token : String) :
    visible token = upToDot token ↔ Plain token := by
  -- A dot is no white space.
  have either (char : Char) : (!isWhitespace char) = true ∨ decide (char ≠ '.') := by
    by_cases dot : char = '.'
    · subst dot
      exact .inl (by decide)
    · exact .inr (by simpa using dot)
  rw [visible, upToDot, String.ofList_inj, Trimming.takeWhile_eq_takeWhile_iff either]
  simp [Plain]

/--
When a challenge was armed, an authority that asks for its token, whatever else it says in its
request, is answered by a well-formed response, which has exactly the key authorization as its
body when the token is plain. Otherwise the answer is the same as before. When the challenge
is over, nothing is found any more.
-/
theorem armed_token_served (lib : Libraries) (server : Http01Server) (identifier : Identifier)
    (token : String) (key : AccountKey) (others : List Char) (closed : Bool) :
    ∃ ready armed, Http01SolverAdapter.arm server identifier (computeKeyAuthorization lib token key)
        = .ok (ready, armed) ∧
      armed.asked token others closed
        = (if Plain token then
            some (reply 200 "OK" (Utf8.bytes (Http01.responseBody lib token key)))
          else server.asked token others closed) ∧
      (ready.drop armed).asked token others closed
        = (if Plain token then some (reply 404 "Not Found" [])
          else server.asked token others closed) := by
  refine ⟨_, _, arm_eq lib server identifier token key, ?_⟩
  rw [asked_eq, asked_eq, asked_eq]
  by_cases plain : Plain token
  · have same := (visible_eq_iff token).mpr plain
    simp only [Http01Server.insert, Http01Server.remove, Http01Ready.drop, if_pos same,
      if_pos plain, Http01.responseBody, and_self]
  · -- What is asked for is not what was armed.
    have other := mt (visible_eq_iff token).mp plain
    simp only [Http01Server.insert, Http01Server.remove, Http01Ready.drop, if_neg other,
      if_neg plain, and_self]

end Acme.Testing
