import Acme.Core.Challenge
import Acme.Encoding.HttpReply

/-! The HTTP-01 responder of the test harness, and what a challenge has to be answered with. -/

namespace Acme

namespace Http01

/-- The content type of a challenge response. -/
def contentType : String := "application/octet-stream"

/-- The path that an authority will ask for. -/
def path (token : String) : String :=
  "/.well-known/acme-challenge/" ++ token

/-- What it has to find there. -/
def responseBody (lib : Libraries) (token : String) (accountKey : AccountKey) : String :=
  computeKeyAuthorization lib token accountKey

/-- All that is needed to serve a challenge. -/
structure Http01Response where
  path : String
  body : String
  contentType : String
deriving DecidableEq

/-- How a challenge is served. -/
def respond (lib : Libraries) (token : String) (accountKey : AccountKey) : Http01Response where
  path := path token
  body := responseBody lib token accountKey
  contentType := contentType

end Http01

namespace Testing

/-- Why nothing can be read from a peer. -/
inductive IoError where
  | timedOut
  | invalidData
deriving DecidableEq

/-- A peer: what it sends in time, and whether it then closes its side. -/
structure Peer where
  input : Bytes
  closed : Bool

/-- The lines of some bytes, each with its line feed; the last one may lack it. -/
def toLines : Bytes → List Bytes
  | [] => []
  | byte :: rest =>
    if byte = 10 then [byte] :: toLines rest
    else match toLines rest with
      | [] => [[byte]]
      | line :: more => (byte :: line) :: more

/-- Read the next line, which is empty at the end of the input. -/
def readLine (closed : Bool) : List Bytes → Except IoError (String × List Bytes)
  | [] => if closed then .ok ("", []) else .error .timedOut
  | line :: rest =>
    -- A line without its line feed is complete when nothing can follow.
    if line.getLast? = some 10 ∨ closed = true then
      match Utf8.text line with
      | some text => .ok (text, rest)
      | none => .error .invalidData
    else .error .timedOut

/-- Read headers, up to and including the empty line behind them. -/
def drainHeaders (closed : Bool) : List Bytes → Except IoError Unit
  | [] => (readLine closed []).map fun _ => ()
  | line :: rest => do
    let (header, _) ← readLine closed (line :: rest)
    if header = "\r\n" ∨ header = "\n" then .ok () else drainHeaders closed rest

/-- The next word, and what stands behind it. -/
def nextWord (chars : List Char) : List Char × List Char :=
  (chars.dropWhile isWhitespace).span fun char => !isWhitespace char

/-- Where challenge responses are found. -/
def wellKnown : String := "/.well-known/acme-challenge/"

/-- Write a response. -/
def writeResponse (status : UInt16) (reason : String) (body : Bytes) : Bytes :=
  let header := "HTTP/1.1 " ++ toString status.toNat ++ " " ++ reason ++ "\r\n" ++
    "Content-Type: application/octet-stream\r\n" ++
    "Content-Length: " ++ toString body.length ++ "\r\n" ++
    "Connection: close\r\n" ++
    "\r\n"
  Utf8.bytes header ++ body

/-- The server: what it has to say for each token. -/
structure Http01Server where
  map : String → Option String

namespace Http01Server

/-- A server that has nothing to say. -/
def empty : Http01Server := ⟨fun _ => none⟩

/-- Serve a text for a token. -/
def insert (server : Http01Server) (token body : String) : Http01Server :=
  ⟨fun other => if other = token then some body else server.map other⟩

/-- Serve nothing for a token. -/
def remove (server : Http01Server) (token : String) : Http01Server :=
  ⟨fun other => if other = token then none else server.map other⟩

/-- Answer a request, of which only the first line is looked at. -/
def dispatch (server : Http01Server) (requestLine : String) : Bytes :=
  let (method, behind) := nextWord requestLine.toList
  let (path, _) := nextWord behind
  if method ≠ "GET".toList then writeResponse 405 "Method Not Allowed" []
  else
    -- Only the well-known paths of known tokens are found.
    match (wellKnown.toList.isPrefixOf? path).bind fun token => server.map (String.ofList token) with
    | some body => writeResponse 200 "OK" (Utf8.bytes body)
    | none => writeResponse 404 "Not Found" []

/-- Answer a peer, when its request can be read. -/
def handleConnection (server : Http01Server) (peer : Peer) : Except IoError Bytes := do
  let (requestLine, rest) ← readLine peer.closed (toLines peer.input)
  drainHeaders peer.closed rest
  .ok (server.dispatch requestLine)

end Http01Server

/-- The token in a key authorization. -/
def tokenOf (keyAuthorization : String) : Except AcmeError String :=
  match keyAuthorization.toList.splitOn '.' with
  | [] => .error (.malformed "empty key authorization")
  | token :: _ => .ok (String.ofList token)

/-- What takes a response down again. -/
structure Http01Ready where
  token : String
deriving DecidableEq

/-- Serve the response to a challenge. -/
def Http01SolverAdapter.arm (server : Http01Server) (_identifier : Identifier)
    (keyAuthorization : String) : Except AcmeError (Http01Ready × Http01Server) := do
  let token ← tokenOf keyAuthorization
  .ok ({ token }, server.insert token keyAuthorization)

/-- Take it down. -/
def Http01Ready.drop (ready : Http01Ready) (server : Http01Server) : Http01Server :=
  server.remove ready.token

end Testing

end Acme
