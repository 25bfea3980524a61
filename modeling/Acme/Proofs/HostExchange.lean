import Acme.Proofs.HostHurdles

/-! What an exchange tells the host, and what it makes of what the host tells. -/

namespace Acme.Http

open Interaction

/-- A request, as far as the host has been told about it. -/
structure Draft where
  headers : List (String × Bytes)
  method : Option Method
  scheme : Option Scheme
  authority : Option String
  path : Option String
  /-- The bytes that were handed to the stream of the body. -/
  body : Bytes
  /-- The body is complete. -/
  finished : Bool
deriving DecidableEq

/-- A response, as far as the host has told about it. -/
structure Arrival where
  status : Option UInt16
  headers : Option (List (String × Bytes))
  body : Bytes
  /-- The stream of the body has come to its end. -/
  closed : Bool
deriving DecidableEq

/-- What has been said on both sides of an exchange. -/
structure Exchange where
  draft : Draft
  /-- What the request was each time it was handed over. -/
  sent : List Draft
  arrival : Arrival
deriving DecidableEq

/-- Nothing has been said. -/
def Exchange.silent : Exchange where
  draft :=
    { headers := []
      method := none
      scheme := none
      authority := none
      path := none
      body := []
      finished := false }
  sent := []
  arrival :=
    { status := none
      headers := none
      body := []
      closed := false }

/-- What an answered call says; what the host refuses has not been said. -/
def Exchange.next (exchange : Exchange) : Event hostCalls → Exchange
  -- A new request is begun.
  | ⟨.newFields, _⟩ => { Exchange.silent with sent := exchange.sent }
  | ⟨.append name value, .ok _⟩ =>
    { exchange with draft.headers := exchange.draft.headers ++ [(name, value)] }
  | ⟨.setMethod method, .ok _⟩ => { exchange with draft.method := some method }
  | ⟨.setScheme scheme, .ok _⟩ => { exchange with draft.scheme := scheme }
  | ⟨.setAuthority authority, .ok _⟩ => { exchange with draft.authority := authority }
  | ⟨.setPathWithQuery path, .ok _⟩ => { exchange with draft.path := path }
  -- A chunk is handed over even where the host reports a failure afterwards.
  | ⟨.body (.write chunk), _⟩ =>
    { exchange with draft.body := exchange.draft.body ++ chunk }
  | ⟨.finish, .ok _⟩ => { exchange with draft.finished := true }
  -- What has been said up to here is the request that is sent.
  | ⟨.handle, _⟩ => { exchange with sent := exchange.sent ++ [exchange.draft] }
  -- From here on it is the host that tells something.
  | ⟨.status, status⟩ => { exchange with arrival.status := some status }
  | ⟨.entries, headers⟩ => { exchange with arrival.headers := some headers }
  | ⟨.read _, .ok chunk⟩ =>
    { exchange with arrival.body := exchange.arrival.body ++ chunk }
  | ⟨.read _, .error .closed⟩ => { exchange with arrival.closed := true }
  | _ => exchange

/-- A host that may answer anything, and what has been said to and by it. -/
def listening : World hostCalls Exchange where
  Allows _ _ := True
  next := Exchange.next

/-- What a run of an exchange has said. -/
def said (trace : HostHistory) : Exchange :=
  listening.after .silent trace

/-- The response that has arrived, once it is complete. -/
def Arrival.response (arrival : Arrival) : Option HttpResponse :=
  match arrival.closed, arrival.status, arrival.headers with
  | true, some status, some headers =>
    -- Header values are bytes, which the client takes for text as well as it can.
    some { status
           headers := headers.map fun entry => (entry.1, String.ofList (Utf8.lossy entry.2))
           body := arrival.body }
  | _, _, _ => none

/-- The request that a method, a URL and a body ask for, when the URL can be read. -/
def requested (method : Method) (url : String) (body : Option JoseBody) : Option Draft :=
  match parseUrl url with
  | .error _ => none
  | .ok (scheme, authority, path) =>
    -- The type of the content is only said when there is a body.
    some { headers := ("host", Utf8.bytes authority) ::
             (body.map fun jose => ("content-type", Utf8.bytes jose.contentType)).toList
           method := some method
           scheme := some scheme
           authority := some authority
           path := some path
           body := (body.map JoseBody.bytes).getD []
           finished := true }

variable {α : Type} {exchange : Exchange}

/-- Dropping says nothing. -/
theorem safe_dropping {resources : List Resource} {post : Unit → Exchange → Prop}
    (kept : post () exchange) : (dropAll resources).Safe listening exchange post := by
  -- By induction on what is dropped, one resource at a time.
  induction resources with
  | nil => exact kept
  | cons resource rest ih => exact fun _ => ⟨trivial, ih⟩

/-- A program that owns resources says what it says itself. -/
theorem safe_speaking {resources : List Resource} {program : Host α}
    {post : Except Stop α → Exchange → Prop}
    (safe : Fallible.Safe listening exchange program post) :
    Fallible.Safe listening exchange (owned resources program) post := by
  refine safe_owned (Program.Safe.mono safe ?_)
  rintro (stop | value) reached ends
  · -- The resources are dropped after a failure, and not in a panic.
    cases stop with
    | error failure => exact safe_dropping ends
    | panic message => exact ends
    | unfinished => exact ends
  · exact ends

/-- A stage that failed has sent nothing and received nothing. -/
structure Unsent (exchange : Exchange) : Prop where
  sent : exchange.sent = []
  arrival : exchange.arrival = Exchange.silent.arrival

/-- A call that may be refused, of which the host takes note otherwise. -/
theorem safe_telling {call : HostCall} {read : hostCalls.Reply call → Except Stop Unit}
    {rest : Host α} {post : Except Stop α → Exchange → Prop}
    (told : ∀ reply, match read reply with
      | .ok _ => Fallible.Safe listening (exchange.next ⟨call, reply⟩) rest post
      | .error stop => post (.error stop) (exchange.next ⟨call, reply⟩)) :
    Fallible.Safe listening exchange (Fallible.ask (S := hostCalls) call read >>= fun _ => rest)
      post := by
  refine Fallible.safe_bind.mpr (Fallible.safe_ask.mpr fun reply => ⟨trivial, ?_⟩)
  -- The call may be refused, and then its stage ends here.
  have ends := told reply
  cases given : read reply with
  | error stop =>
    rw [given] at ends
    exact ends
  | ok value =>
    rw [given] at ends
    exact ends

/-- The headers are set as they are requested. -/
theorem setHeaders_speaks (authority : String) (body : Option JoseBody) :
    Fallible.Safe listening .silent (setHeaders authority body) fun outcome reached =>
      match outcome with
      | .ok _ => reached = { Exchange.silent with
          draft.headers := ("host", Utf8.bytes authority) ::
            (body.map fun jose => ("content-type", Utf8.bytes jose.contentType)).toList }
      | .error _ => Unsent reached := by
  refine safe_speaking (safe_telling ?_)
  rintro (failure | ⟨⟩)
  · -- The host refuses the first header.
    exact ⟨rfl, rfl⟩
  cases body with
  -- Without a body there is no second header.
  | none => rfl
  -- The second header says what kind of body follows.
  | some jose =>
    refine fun reply => ⟨trivial, ?_⟩
    rcases reply with failure | ⟨⟩
    · exact ⟨rfl, rfl⟩
    · rfl

/-- What is told while a body is written. -/
abbrev listeningBody : World calls Exchange :=
  listening.through fun event => ⟨.body event.call, event.reply⟩

/-- The bytes of a body have been handed over. -/
def Exchange.writing (exchange : Exchange) (data : Bytes) : Exchange :=
  { exchange with draft.body := exchange.draft.body ++ data }

/-- Something may have been written, and nothing else was said. -/
def Writes (data : Bytes) (exchange : Exchange) (outcome : Except Stop Unit)
    (reached : Exchange) : Prop :=
  match outcome with
  | .ok _ => reached = exchange.writing data
  | .error _ => ∃ written, reached = exchange.writing written

/-- Nothing is written when nothing is handed over. -/
@[simp] theorem Exchange.writing_nil : exchange.writing [] = exchange := by
  simp [writing]

/-- Bytes are handed over one part after the other. -/
@[simp] theorem Exchange.writing_append (first second : Bytes) :
    (exchange.writing first).writing second = exchange.writing (first ++ second) := by
  simp [writing]

/-- The turns of the writer hand over the data. -/
theorem writeChunks_speaks (fuel : Nat) (data : Bytes) :
    Fallible.Safe listeningBody exchange (writeChunks fuel data) (Writes data exchange) := by
  -- By induction on the turns; each of them hands over the beginning of what is left.
  induction fuel generalizing data exchange with
  | zero =>
    -- Without a turn left, only an empty body has been written.
    by_cases left : data = []
    · subst left
      exact Exchange.writing_nil.symm
    · simp only [writeChunks, if_neg left]
      exact ⟨[], Exchange.writing_nil.symm⟩
  | succ fuel ih =>
    by_cases left : data = []
    · subst left
      -- There is nothing left to hand over.
      rw [writeChunks_nil]
      exact Exchange.writing_nil.symm
    · rw [writeChunks_succ left]
      -- A turn waits for the stream, and asks how much it may write.
      refine Fallible.safe_bind.mpr fun _ => ⟨trivial, ?_⟩
      refine Fallible.safe_bind.mpr fun permission => ⟨trivial, ?_⟩
      rcases permission with failure | permit
      · exact ⟨[], Exchange.writing_nil.symm⟩
      show Fallible.Safe listeningBody exchange (if asUsize permit = 0 then _ else _) _
      -- With no permission the turn has only waited.
      split
      · exact ih data
      · refine Fallible.safe_bind.mpr fun answer => ⟨trivial, ?_⟩
        rcases answer with failure | ⟨⟩
        · -- The host has failed, but the chunk was in its hands by then.
          exact ⟨data.take (asUsize permit), rfl⟩
        -- The chunk and what follows it are the data.
        show Fallible.Safe listeningBody (exchange.writing (data.take (asUsize permit)))
          (writeChunks fuel (data.drop (asUsize permit))) _
        refine Program.Safe.mono (ih (data.drop (asUsize permit))) ?_
        rintro (stop | ⟨⟩) reached ends
        · -- A later turn has failed, after it has written something more.
          obtain ⟨written, rfl⟩ := ends
          exact ⟨data.take (asUsize permit) ++ written, Exchange.writing_append _ _⟩
        · obtain rfl := ends
          have whole := @Exchange.writing_append exchange (data.take (asUsize permit))
            (data.drop (asUsize permit))
          rwa [List.take_append_drop] at whole

/-- Holding the stream and its pollable says nothing by itself. -/
theorem safe_holding_speaks {program : Writer Unit} {post : Except Stop Unit → Exchange → Prop}
    (safe : Fallible.Safe listeningBody exchange program post) :
    Fallible.Safe listeningBody exchange (holding program) post := by
  refine Fallible.safe_cleaning.mpr (Program.Safe.mono safe ?_)
  rintro (stop | value) reached ends
  · cases stop with
    -- When the run is cut short, they are not dropped either.
    | unfinished => exact ends
    | error | panic => exact fun _ => ⟨trivial, fun _ => ⟨trivial, ends⟩⟩
  · exact ends

/-- Writing a body hands over the body. -/
theorem writeAll_speaks (fuel : Nat) (data : Bytes) :
    Fallible.Safe listeningBody exchange (writeAll fuel data) (Writes data exchange) := by
  unfold writeAll
  split
  · -- An empty body is not written at all.
    rename_i empty
    subst empty
    exact Exchange.writing_nil.symm
  refine Fallible.safe_bind.mpr fun opening => ⟨trivial, ?_⟩
  rcases opening with failure | ⟨⟩
  · -- The stream could not be opened.
    exact ⟨[], Exchange.writing_nil.symm⟩
  refine Fallible.safe_bind.mpr fun _ => ⟨trivial, ?_⟩
  -- While the stream is held, the chunks are written and flushed.
  have sending : Fallible.Safe listeningBody exchange
      (holding do writeChunks fuel data; flush; block) (Writes data exchange) := by
    refine safe_holding_speaks (Fallible.safe_bind.mpr ?_)
    refine Program.Safe.mono (writeChunks_speaks fuel data) ?_
    rintro (stop | ⟨⟩) reached ends
    · exact ends
    -- What is flushed has been handed over before.
    obtain rfl := ends
    refine Fallible.safe_bind.mpr fun sent => ⟨trivial, ?_⟩
    rcases sent with failure | ⟨⟩
    · exact ⟨data, rfl⟩
    · exact Fallible.safe_ask.mpr fun _ => ⟨trivial, rfl⟩
  -- Behind the chunks the pollable and the stream are dropped.
  refine Fallible.safe_bind.mpr (Program.Safe.mono sending ?_)
  rintro (stop | ⟨⟩) reached ends
  · exact ends
  refine Fallible.safe_bind.mpr fun _ => ⟨trivial, ?_⟩
  exact Fallible.safe_ask.mpr fun _ => ⟨trivial, ends⟩

/-- A request that is filled is the one that was asked for, and it has not been sent. -/
theorem fillRequest_speaks (fuel : Nat) (method : Method) (scheme : Scheme)
    (authority path : String) (body : Option JoseBody) (headers : List (String × Bytes)) :
    Fallible.Safe listening { Exchange.silent with draft.headers := headers }
      (fillRequest fuel method scheme authority path body) fun outcome reached => match outcome with
        | .ok _ => reached = { Exchange.silent with draft :=
            { headers
              method := some method
              scheme := some scheme
              authority := some authority
              path := some path
              body := (body.map JoseBody.bytes).getD []
              finished := true } }
        | .error _ => Unsent reached := by
  -- One by one the parts are set, and each of them may be refused.
  refine safe_speaking (safe_telling ?_)
  rintro (⟨⟩ | ⟨⟩)
  · exact ⟨rfl, rfl⟩
  refine safe_telling ?_
  rintro (⟨⟩ | ⟨⟩)
  · exact ⟨rfl, rfl⟩
  refine safe_telling ?_
  rintro (⟨⟩ | ⟨⟩)
  · exact ⟨rfl, rfl⟩
  refine safe_telling ?_
  rintro (⟨⟩ | ⟨⟩)
  · exact ⟨rfl, rfl⟩
  refine safe_telling ?_
  rintro (⟨⟩ | ⟨⟩)
  · exact ⟨rfl, rfl⟩
  -- Everything but the body has been said.
  let described : Exchange := { Exchange.silent with draft :=
    { headers
      method := some method
      scheme := some scheme
      authority := some authority
      path := some path
      body := []
      finished := false } }
  show Fallible.Safe listening described _ _
  refine Fallible.safe_bind.mpr (safe_speaking (Program.Safe.mono
    (show Program.Safe listening described _
      (Writes ((body.map JoseBody.bytes).getD []) described) from ?_) ?_))
  · cases body with
    -- Without a body nothing is written.
    | none => exact Exchange.writing_nil.symm
    -- The body is written by the other program, in the calls for bodies.
    | some jose =>
      exact Fallible.Safe.handled (writeAll_speaks fuel jose.bytes) fun _ _ _ _ => ⟨trivial, rfl⟩
  rintro (stop | ⟨⟩) reached ends
  · -- The body was not written completely, so the request is not sent.
    obtain ⟨bytes, rfl⟩ := ends
    exact ⟨rfl, rfl⟩
  -- The body was written, and is the one that was asked for.
  obtain rfl := ends
  refine fun finishing => ⟨trivial, ?_⟩
  -- The body has to be finished before the request can be sent.
  rcases finishing with failure | ⟨⟩
  · exact ⟨rfl, rfl⟩
  · rfl

/-- More of the body has arrived. -/
def Exchange.reading (exchange : Exchange) (data : Bytes) : Exchange :=
  { exchange with arrival.body := exchange.arrival.body ++ data }

/-- The body that is read is all that arrived before the stream was closed. -/
theorem readChunks_speaks (fuel : Nat) (body : Bytes)
    (same : exchange.arrival.body = body) (opened : exchange.arrival.closed = false) :
    Fallible.Safe listening exchange (readChunks fuel body) fun outcome reached =>
      match outcome with
      | .ok whole => reached =
          { exchange with arrival.body := whole, arrival.closed := true }
      | .error _ => reached.sent = exchange.sent ∧ reached.arrival.closed = false := by
  -- By induction on the turns; a chunk is appended on both sides.
  induction fuel generalizing body exchange with
  -- Without a turn left the end has not been seen.
  | zero => exact ⟨rfl, opened⟩
  | succ fuel ih =>
    refine safe_then (fun _ => trivial) fun _ => safe_then (fun _ => trivial) fun answer => ?_
    rcases answer with failure | chunk
    · cases failure with
      -- The stream is at its end, and the body is what was read.
      | closed =>
        subst same
        rfl
      -- The stream has failed, and the body is not complete.
      | lastOperationFailed debug => exact ⟨rfl, opened⟩
    · -- An empty chunk is not appended, which makes no difference.
      have more : (if chunk = [] then body else body ++ chunk) = body ++ chunk := by
        split <;> simp_all
      show Fallible.Safe listening (exchange.reading chunk)
        (readChunks fuel (if chunk = [] then body else body ++ chunk)) _
      rw [more]
      exact @ih (exchange.reading chunk) (body ++ chunk)
        (by rw [← same]; rfl) opened

/-- A response that is read is the one that has arrived. -/
structure Answered (sent : List Draft) (outcome : Except Stop HttpResponse)
    (exchange : Exchange) : Prop where
  sent : exchange.sent = sent
  response : ∀ response, outcome = .ok response ↔ exchange.arrival.response = some response

/-- Without the end of the body, there is no response. -/
theorem Answered.failed {sent : List Draft} {stop : Stop} (same : exchange.sent = sent)
    (opened : exchange.arrival.closed = false) : Answered sent (.error stop) exchange where
  sent := same
  -- A response is complete only when its body is.
  response response := by simp [Arrival.response, opened]

/-- A response that has arrived is the one that is returned. -/
theorem Answered.complete {sent : List Draft} {response : HttpResponse}
    (same : exchange.sent = sent) (arrived : exchange.arrival.response = some response) :
    Answered sent (.ok response) exchange where
  sent := same
  response other := by rw [arrived, Except.ok.injEq, Option.some.injEq]

/-- Reading a response gives what has arrived. -/
theorem readResponse_speaks (fuel : Nat) (nothing : exchange.arrival = Exchange.silent.arrival) :
    Fallible.Safe listening exchange (readResponse fuel) (Answered exchange.sent) := by
  have empty : exchange.arrival.body = [] := by rw [nothing]; rfl
  have opened : exchange.arrival.closed = false := by rw [nothing]; rfl
  -- The status and the headers are asked for before the body is opened.
  refine safe_then (fun _ => trivial) fun status => safe_then (fun _ => trivial) fun _ => ?_
  refine safe_then (fun _ => trivial) fun rawHeaders => safe_then (fun _ => trivial) fun _ => ?_
  refine Fallible.safe_bind.mpr (safe_speaking fun consumed => ⟨trivial, ?_⟩)
  rcases consumed with ⟨⟩ | ⟨⟩
  · -- The body cannot be had.
    exact Answered.failed rfl opened
  refine safe_then (fun _ => trivial) fun _ => ?_
  refine Fallible.safe_bind.mpr (safe_speaking fun taken => ⟨trivial, ?_⟩)
  rcases taken with ⟨⟩ | ⟨⟩
  · exact Answered.failed rfl opened
  refine safe_then (fun _ => trivial) fun _ => ?_
  -- The status and the headers have arrived.
  show Fallible.Safe listening { exchange with
    arrival.status := some status, arrival.headers := some rawHeaders } _ _
  refine Fallible.safe_bind.mpr (safe_speaking ?_)
  refine Program.Safe.mono (readChunks_speaks fuel [] empty opened) ?_
  rintro (stop | whole) reached ends
  · -- The body could not be read to its end.
    exact Answered.failed ends.1 ends.2
  obtain rfl := ends
  refine safe_then (fun _ => trivial) fun _ => safe_then (fun _ => trivial) fun _ => ?_
  refine safe_then (fun _ => trivial) fun _ => ?_
  -- All of it has arrived.
  exact Answered.complete rfl rfl

/-- Waiting for a response says nothing. -/
theorem awaitResponse_speaks :
    Fallible.Safe listening exchange awaitResponse fun outcome reached => reached = exchange ∧
      ∀ failure, outcome ≠ .error (.error failure) := by
  refine safe_then (fun _ => trivial) fun answer => ?_
  -- The response is there, or it has to be waited for.
  rcases answer with _ | answer
  · refine safe_then (fun _ => trivial) fun _ => safe_then (fun _ => trivial) fun _ => ?_
    refine safe_then (fun _ => trivial) fun answer => ?_
    rcases answer with _ | answer
    · -- After the wait there is none, and the client panics.
      exact ⟨rfl, by simp⟩
    · exact safe_then (fun _ => trivial) fun _ => ⟨rfl, by simp⟩
  · exact ⟨rfl, by simp⟩

/-- A request is sent as it is, once, and the response is the one that arrives. -/
theorem dispatchAndRead_speaks (fuel : Nat) (unsent : exchange.sent = [])
    (nothing : exchange.arrival = Exchange.silent.arrival) :
    Fallible.Safe listening exchange (dispatchAndRead fuel) (Answered [exchange.draft]) := by
  have opened : exchange.arrival.closed = false := by rw [nothing]; rfl
  have once : exchange.sent ++ [exchange.draft] = [exchange.draft] := by rw [unsent]; rfl
  refine safe_telling ?_
  rintro (failure | ⟨⟩)
  · -- The request is handed over, but the host refuses to send it.
    exact Answered.failed once opened
  refine Fallible.safe_bind.mpr (safe_speaking (Fallible.safe_bind.mpr ?_))
  refine Program.Safe.mono awaitResponse_speaks ?_
  rintro (stop | answer) reached ⟨rfl, unrefused⟩
  · -- Without an answer nothing has arrived, and there is nothing to drop in a panic.
    cases stop with
    | error failure => exact absurd rfl (unrefused failure)
    | panic | unfinished => exact Answered.failed once opened
  -- The answer was taken already, or is an error, or is a response.
  rcases answer with ⟨⟩ | failure | ⟨⟩
  · exact Answered.failed once opened
  · exact Answered.failed once opened
  refine safe_then (fun _ => trivial) fun _ => ?_
  -- Now there is one, which has not been looked at.
  have answered := @readResponse_speaks
    { exchange with sent := exchange.sent ++ [exchange.draft] } fuel nothing
  rw [← once]
  exact answered

/-- What every exchange says, and what it makes of what is said to it. -/
structure Conveys (method : Method) (url : String) (body : Option JoseBody)
    (outcome : Except Stop HttpResponse) (exchange : Exchange) : Prop where
  /-- Nothing else is sent than what was asked for, and that at most once. -/
  sent : exchange.sent <+: (requested method url body).toList
  /-- A response is returned exactly when it has arrived, and as it has arrived. -/
  response : ∀ response, outcome = .ok response ↔ exchange.arrival.response = some response
  /-- A response answers the request. -/
  answers : ∀ response, outcome = .ok response →
    exchange.sent = (requested method url body).toList ∧ exchange.sent ≠ []

/-- What every exchange says, and why it comes to no response. -/
structure Spoken (fuel : Nat) (method : Method) (url : String) (body : Option JoseBody)
    (trace : HostHistory) (outcome : Except Stop HttpResponse) : Prop where
  conveys : Conveys method url body outcome (said trace)
  /-- The URL is at fault, or the host is; and the client panics when a response is missing. -/
  reason : ∀ stop, outcome = .error stop →
    (requested method url body = none ∧ ∃ message, stop = .error (.transport message)) ∨
      Hindered fuel stop (met trace)

/-- A stage that failed has said nothing wrong. -/
theorem Unsent.conveys {method : Method} {url : String} {body : Option JoseBody} {stop : Stop}
    (unsent : Unsent exchange) : Conveys method url body (.error stop) exchange where
  sent := by
    rw [unsent.sent]
    exact List.nil_prefix
  response response := by simp [unsent.arrival, Exchange.silent, Arrival.response]
  -- There is no response to answer for.
  answers := by rintro _ ⟨⟩

/-- An exchange says what it was asked to say, and returns what arrives. -/
theorem roundTrip_speaks (fuel : Nat) (method : Method) (url : String) (body : Option JoseBody) :
    Fallible.Safe listening .silent (roundTrip fuel method url body)
      (Conveys method url body) := by
  refine Fallible.safe_bind.mpr (Fallible.safe_ofExcept.mpr ?_)
  cases parsed : parseUrl url with
  | error failure =>
    -- With a URL that cannot be read, the host is not called at all.
    exact Unsent.conveys ⟨rfl, rfl⟩
  | ok parts =>
    obtain ⟨scheme, authority, path⟩ := parts
    -- The headers come first, and nothing is sent when one of them is refused.
    refine safe_then (fun _ => trivial) fun _ => ?_
    refine Fallible.safe_bind.mpr (Program.Safe.mono (setHeaders_speaks authority body) ?_)
    rintro (stop | ⟨⟩) reached unsent
    · exact Unsent.conveys unsent
    obtain rfl := unsent
    -- The rest of the request is filled in before it is handed over.
    refine safe_then (fun _ => trivial) fun _ => ?_
    refine Fallible.safe_bind.mpr
      (Program.Safe.mono (fillRequest_speaks fuel method scheme authority path body _) ?_)
    rintro (stop | ⟨⟩) reached unsent
    · exact Unsent.conveys unsent
    obtain rfl := unsent
    refine Program.Safe.mono (dispatchAndRead_speaks fuel rfl rfl) fun outcome reached answered => ?_
    -- What was sent is what the parts of the URL were put together to.
    have whole : reached.sent = (requested method url body).toList := by
      rw [answered.sent, requested, parsed]
      rfl
    exact
      { sent := whole ▸ List.prefix_rfl
        response := answered.response
        answers := fun _ _ => ⟨whole, by simp [answered.sent]⟩ }

/--
Whatever the host answers, an exchange hands over nothing but the request for its method,
its URL and its body, complete and at most once. It returns a response exactly when the
host has told all of one up to the end of the body, with that status, those headers and
that body. It fails with an error of the transport only, and only for a URL that cannot be
read or when the host has refused something; it panics only when the host has no response
after the wait for it, and it goes on for as long as it has turns left.
-/
theorem round_trip_speaks {fuel : Nat} {method : Method} {url : String}
    {body : Option JoseBody} {trace : HostHistory} {outcome : Except Stop HttpResponse}
    (run : (roundTrip fuel method url body).Ends trace outcome) :
    Spoken fuel method url body trace outcome where
  conveys := (Program.Safe.leads (roundTrip_speaks fuel method url body) run).2
  reason stop failed := by
    have excused := (Program.Safe.leads (roundTrip_excused fuel method url body .none) run).2
    rcases excused stop failed with ⟨failure, unread, rfl, message, rfl⟩ | hindered
    · -- Where the URL cannot be read, there is no request.
      exact .inl ⟨by simp [requested, unread], message, rfl⟩
    · exact .inr hindered

/-- A POST of three bytes is answered by a response in three chunks. -/
theorem samplePost_speaks :
    Spoken 4 .post "https://ca.example/acct?x"
        (some { contentType := "application/jose+json", bytes := [1, 2, 3] })
        (samplePost [[7], [], [8, 9]]).1 (samplePost [[7], [], [8, 9]]).2 ∧
      (samplePost [[7], [], [8, 9]]).2 =
        .ok { status := 201, headers := [("Replay-Nonce", "n1")], body := [7, 8, 9] } :=
  ⟨round_trip_speaks (samplePost_ends [[7], [], [8, 9]]), by decide +kernel⟩

end Acme.Http
