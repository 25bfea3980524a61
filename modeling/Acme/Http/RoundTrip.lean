import Acme.Http.ParseUrl
import Acme.Http.WriteAll
import Acme.Interaction.Handler

/-! One HTTP exchange through the host: building the request, sending it, reading the response. -/

namespace Acme.Http

open Interaction

/-- The methods that are used. -/
inductive Method where
  | head
  | get
  | post
deriving DecidableEq

/-- What the client holds of the host during an exchange. -/
inductive Resource where
  | fields
  | request
  | outgoingBody
  | outputStream
  | writePollable
  | futureResponse
  | futurePollable
  | incoming
  | headers
  | incomingBody
  | inputStream
  | readPollable
deriving DecidableEq

/-- Why a stream cannot be read; a failed operation is known by its debug text. -/
inductive StreamError where
  | closed
  | lastOperationFailed (debug : String)
deriving DecidableEq

/-- One call to the host. -/
inductive HostCall where
  | newFields
  /-- Add a header. -/
  | append (name : String) (value : Bytes)
  /-- Make a request of the headers. -/
  | newRequest
  | setMethod (method : Method)
  | setScheme (scheme : Option Scheme)
  | setAuthority (authority : Option String)
  | setPathWithQuery (path : Option String)
  /-- Take the body of the request. -/
  | requestBody
  /-- A call to the body of the request or to its stream. -/
  | body (call : Call)
  /-- Hand the body over, without trailers. -/
  | finish
  /-- Hand the request over. -/
  | handle
  /-- Ask for the response. -/
  | futureGet
  /-- Obtain the pollable of the response that is awaited. -/
  | futureSubscribe
  /-- Wait for it. -/
  | futureBlock
  | status
  /-- Take the headers of the response. -/
  | incomingHeaders
  | entries
  /-- Take the body of the response. -/
  | consume
  /-- Take its stream. -/
  | bodyStream
  /-- Obtain the pollable of that stream. -/
  | inputSubscribe
  /-- Wait until it can be read. -/
  | inputBlock
  /-- Read as many bytes at most. -/
  | read (len : UInt64)
  | drop (resource : Resource)
deriving DecidableEq

/-- What each call may be answered; failures of the host are known by their debug texts. -/
abbrev HostCall.Reply : HostCall → Type
  | .append _ _ | .finish | .handle => Except String Unit
  | .setMethod _ | .setScheme _ | .setAuthority _ | .setPathWithQuery _ | .requestBody
  | .consume | .bodyStream => Except Unit Unit
  | .body call => call.Reply
  | .futureGet => Option (Except Unit (Except String Unit))
  | .status => UInt16
  | .entries => List (String × Bytes)
  | .read _ => Except StreamError Bytes
  | .newFields | .newRequest | .futureSubscribe | .futureBlock | .incomingHeaders
  | .inputSubscribe | .inputBlock | .drop _ => Unit

/-- The calls to the host and their replies. -/
abbrev hostCalls : Signature where
  Call := HostCall
  Reply := HostCall.Reply

/-- What was called during an exchange, in order. -/
abbrev HostHistory := Trace hostCalls

/-- A step of an exchange. -/
abbrev Host := Fallible hostCalls Stop

/-- A failure of the transport. -/
def transportError (message : String) : Stop :=
  .error (.transport message)

/-- A failure of the host is reported with what failed. -/
def failing {α : Type} (name : String) (reply : Except String α) : Except Stop α :=
  reply.mapError fun failure => transportError (name ++ ": " ++ failure)

/-- A refusal of the host is reported by a message. -/
def refusing {α : Type} (message : String) (reply : Except Unit α) : Except Stop α :=
  reply.mapError fun _ => transportError message

/-- A call that cannot fail. -/
def simply (call : HostCall) : Host (hostCalls.Reply call) :=
  Fallible.ask (S := hostCalls) call .ok

/-- A call that may be refused. -/
def append (what name : String) (value : Bytes) : Host Unit :=
  Fallible.ask (S := hostCalls) (.append name value) (failing ("append " ++ what))

/-- Drop resources one after the other. -/
def dropAll : List Resource → Program hostCalls Unit
  | [] => .done ()
  | resource :: rest => .call (S := hostCalls) (.drop resource) fun _ => dropAll rest

/-- Run a program while resources are held, which fall when it returns an error. -/
def owned {α : Type} (resources : List Resource) (program : Host α) : Host α :=
  Fallible.cleaning (fun stop => match stop with
    | .error _ => dropAll resources
    -- A panic aborts, and a run that has not come to an end still holds them.
    | .panic _ | .unfinished => .done ()) program

/-- Write to the body of the request. -/
def writing {α : Type} (writer : Writer α) : Host α :=
  Fallible.handled (fun call => Fallible.ask (S := hostCalls) (.body call) .ok) writer

/-- A body with its media type. -/
structure JoseBody where
  contentType : String
  bytes : Bytes

/-- Read until the stream is closed, after what has been read. -/
def readChunks : Nat → Bytes → Host Bytes
  -- The fuel bounds the turns; a run that uses it up has not come to an end.
  | 0, _ => throw .unfinished
  | fuel + 1, body => do
    let _ ← simply .inputBlock
    match ← simply (.read 65536) with
    | .ok chunk => readChunks fuel (if chunk = [] then body else body ++ chunk)
    | .error .closed => pure body
    | .error (.lastOperationFailed debug) => throw (transportError ("body read: " ++ debug))

/-- Read the response that has come in. -/
def readResponse (fuel : Nat) : Host HttpResponse := do
  let status ← simply .status
  let _ ← simply .incomingHeaders
  let rawHeaders ← simply .entries
  let _ ← simply (.drop .headers)
  -- The values need not be UTF-8.
  let headers := rawHeaders.map fun entry => (entry.1, String.ofList (Utf8.lossy entry.2))
  owned [.incoming] <| Fallible.ask (S := hostCalls) .consume
    (refusing "incoming response body already consumed")
  let _ ← simply (.drop .incoming)
  owned [.incomingBody] <| Fallible.ask (S := hostCalls) .bodyStream
    (refusing "incoming body stream already taken")
  let _ ← simply .inputSubscribe
  let body ← owned [.readPollable, .inputStream, .incomingBody] (readChunks fuel [])
  let _ ← simply (.drop .readPollable)
  let _ ← simply (.drop .inputStream)
  let _ ← simply (.drop .incomingBody)
  pure { status, headers, body }

/-- Ask for the response, and wait for it when it is not there yet. -/
def awaitResponse : Host (Except Unit (Except String Unit)) := do
  match ← simply .futureGet with
  | some answer => pure answer
  | none =>
    let _ ← simply .futureSubscribe
    let _ ← simply .futureBlock
    match ← simply .futureGet with
    | some answer =>
      let _ ← simply (.drop .futurePollable)
      pure answer
    | none => throw (.panic "future-incoming-response resolved after block")

/-- Send the request, and read what comes back. -/
def dispatchAndRead (fuel : Nat) : Host HttpResponse := do
  Fallible.ask (S := hostCalls) .handle (failing "outgoing_handler::handle")
  owned [.futureResponse] do
    -- The response can be taken once only, and it may be an error.
    let answer ← Fallible.ofExcept
      (refusing "future-incoming-response already taken" (← awaitResponse))
    Fallible.ofExcept (failing "response error" answer)
  let _ ← simply (.drop .futureResponse)
  readResponse fuel

/-- Set the headers of a request, which fall when they cannot be set. -/
def setHeaders (authority : String) (body : Option JoseBody) : Host Unit :=
  owned [.fields] do
    -- The host conveys the authority apart from the headers; it is set here as well.
    append "host header" "host" (Utf8.bytes authority)
    match body with
    | some jose => append "content-type" "content-type" (Utf8.bytes jose.contentType)
    | none => pure ()

/-- Say what is requested and write the body; the request falls when that cannot be done. -/
def fillRequest (fuel : Nat) (method : Method) (scheme : Scheme) (authority pathWithQuery : String)
    (body : Option JoseBody) : Host Unit :=
  owned [.request] do
    Fallible.ask (S := hostCalls) (.setMethod method)
      (refusing "wasi:http set_method rejected value")
    Fallible.ask (S := hostCalls) (.setScheme (some scheme))
      (refusing "wasi:http set_scheme rejected value")
    Fallible.ask (S := hostCalls) (.setAuthority (some authority))
      (refusing "wasi:http set_authority rejected value")
    Fallible.ask (S := hostCalls) (.setPathWithQuery (some pathWithQuery))
      (refusing "wasi:http set_path_with_query rejected value")
    -- A request without a body has to finish one as well.
    Fallible.ask (S := hostCalls) .requestBody (refusing "outgoing-request body already taken")
    owned [.outgoingBody] <| match body with
      | some jose => writing (writeAll fuel jose.bytes)
      | none => pure ()
    Fallible.ask (S := hostCalls) .finish (failing "finish outgoing body")

/-- Make a request of a method, a URL and a body, and see it through. -/
def roundTrip (fuel : Nat) (method : Method) (url : String) (body : Option JoseBody) :
    Host HttpResponse := do
  let (scheme, authority, pathWithQuery) ← Fallible.ofExcept (result (parseUrl url))
  let _ ← simply .newFields
  setHeaders authority body
  let _ ← simply .newRequest
  fillRequest fuel method scheme authority pathWithQuery body
  dispatchAndRead fuel

namespace WasiHttpClient

/-- HEAD a URL. -/
def head (fuel : Nat) (url : String) : Host HttpResponse :=
  roundTrip fuel .head url none

/-- GET a URL. -/
def get (fuel : Nat) (url : String) : Host HttpResponse :=
  roundTrip fuel .get url none

/-- POST a signed body to a URL. -/
def postJose (fuel : Nat) (url : String) (body : Bytes) : Host HttpResponse :=
  roundTrip fuel .post url (some { contentType := "application/jose+json", bytes := body })

end WasiHttpClient

end Acme.Http
