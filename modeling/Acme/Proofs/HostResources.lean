import Acme.Http.RoundTrip
import Acme.Interaction.Custody
import Acme.Proofs.WriteAll

/-! What an exchange holds of the host, and that it gives everything back in time. -/

namespace Acme.Http

open Interaction

/-- What has to outlive a resource of the host. -/
def Resource.parent : Resource → Option Resource
  | .outputStream => some .outgoingBody
  | .writePollable => some .outputStream
  | .futurePollable => some .futureResponse
  | .headers => some .incoming
  | .inputStream => some .incomingBody
  | .readPollable => some .inputStream
  | .fields | .request | .outgoingBody | .futureResponse | .incoming | .incomingBody => none

/-- What a call to the body of a request or to its stream needs. -/
def Call.uses : Call → List Resource
  | .bodyWrite => [.outgoingBody]
  | .subscribe | .checkWrite | .write _ | .flush | .dropStream => [.outputStream]
  | .block | .dropPollable => [.writePollable]

/-- What a call needs. -/
def HostCall.uses : HostCall → List Resource
  | .newFields => []
  | .append _ _ | .newRequest => [.fields]
  | .setMethod _ | .setScheme _ | .setAuthority _ | .setPathWithQuery _ | .requestBody
  | .handle => [.request]
  | .body call => call.uses
  | .finish => [.outgoingBody]
  | .futureGet | .futureSubscribe => [.futureResponse]
  | .futureBlock => [.futurePollable]
  | .status | .incomingHeaders | .consume => [.incoming]
  | .entries => [.headers]
  | .bodyStream => [.incomingBody]
  | .inputSubscribe | .read _ => [.inputStream]
  | .inputBlock => [.readPollable]
  | .drop resource => [resource]

/-- What a call gives away, whatever it is answered. -/
def HostCall.takes : HostCall → Option Resource
  | .newRequest => some .fields
  | .finish => some .outgoingBody
  | .handle => some .request
  | .body .dropPollable => some .writePollable
  | .body .dropStream => some .outputStream
  | .drop resource => some resource
  | _ => none

/-- What an answered call brings. -/
def gives : Event hostCalls → Option Resource
  | ⟨.newFields, _⟩ => some .fields
  | ⟨.newRequest, _⟩ => some .request
  | ⟨.requestBody, .ok _⟩ => some .outgoingBody
  | ⟨.body .bodyWrite, .ok _⟩ => some .outputStream
  | ⟨.body .subscribe, _⟩ => some .writePollable
  | ⟨.handle, .ok _⟩ => some .futureResponse
  | ⟨.futureGet, some (.ok (.ok _))⟩ => some .incoming
  | ⟨.futureSubscribe, _⟩ => some .futurePollable
  | ⟨.incomingHeaders, _⟩ => some .headers
  | ⟨.consume, .ok _⟩ => some .incomingBody
  | ⟨.bodyStream, .ok _⟩ => some .inputStream
  | ⟨.inputSubscribe, _⟩ => some .readPollable
  | _ => none

/-- What the host demands of its resources. -/
def hostCustody : Custody hostCalls Resource where
  uses := HostCall.uses
  takes := HostCall.takes
  gives := gives
  parent := Resource.parent

/-- A run that came to an end by itself: not in a panic, and not cut short. -/
def Settled {α : Type} (outcome : Except Stop α) : Prop :=
  (∃ value, outcome = .ok value) ∨ ∃ failure, outcome = .error (.error failure)

/-- What the host demands of every call. -/
abbrev demands : World hostCalls (List Resource) := hostCustody.world

/-- After a run that came to an end, this is held. -/
def leaving {α : Type} (kept : List Resource) (outcome : Except Stop α) (held : List Resource) :
    Prop :=
  Settled outcome → held = kept

variable {α β : Type} {held kept : List Resource}

section

variable {σ : Type} {W : World hostCalls σ} {state : σ}

/-- A call that cannot fail is followed by the rest. -/
theorem safe_then {call : HostCall} {rest : hostCalls.Reply call → Host α}
    {post : Except Stop α → σ → Prop} (allowed : ∀ reply, W.Allows state ⟨call, reply⟩)
    (later : ∀ reply, Fallible.Safe W (W.next state ⟨call, reply⟩) (rest reply) post) :
    Fallible.Safe W state (simply call >>= rest) post :=
  Fallible.safe_bind.mpr fun reply => ⟨allowed reply, later reply⟩

/-- What is owned falls with an error. -/
theorem safe_owned {resources : List Resource} {program : Host α}
    {post : Except Stop α → σ → Prop}
    (safe : Fallible.Safe W state program fun outcome reached => match outcome with
      | .ok value => post (.ok value) reached
      | .error (.error failure) =>
        (dropAll resources).Safe W reached fun _ last => post (.error (.error failure)) last
      | .error stop => post (.error stop) reached) :
    Fallible.Safe W state (owned resources program) post := by
  unfold owned
  rw [Fallible.safe_cleaning]
  refine Program.Safe.mono safe fun outcome reached ends => ?_
  -- Only an error has anything dropped.
  rcases outcome with stop | value
  · cases stop <;> exact ends
  · exact ends

end

/-- A panic leaves what it leaves. -/
theorem leaving_panic {message : String} :
    leaving kept (.error (.panic message) : Except Stop α) held := by
  rintro (⟨_, impossible⟩ | ⟨_, impossible⟩) <;> cases impossible

/-- A run that is cut short has not given anything back. -/
theorem leaving_unfinished : leaving kept (.error .unfinished : Except Stop α) held := by
  rintro (⟨_, impossible⟩ | ⟨_, impossible⟩) <;> cases impossible

/-- An error leaves the same whatever the value would have been. -/
theorem leaving_error {stop : Stop} (left : leaving kept (.error stop : Except Stop α) held) :
    leaving kept (.error stop : Except Stop β) held := by
  rintro (⟨_, ⟨⟩⟩ | ⟨failure, ⟨⟩⟩)
  exact left (.inr ⟨failure, rfl⟩)

/-- The reading of a body moves no resource. -/
theorem readChunks_safe (fuel : Nat) (body : Bytes) :
    Fallible.Safe demands [.incomingBody, .inputStream, .readPollable] (readChunks fuel body)
      fun _ reached => reached = [.incomingBody, .inputStream, .readPollable] := by
  -- By induction on the turns, each of which waits and reads.
  induction fuel generalizing body with
  | zero => rfl
  | succ fuel ih =>
    refine safe_then (fun _ => of_decide_eq_true rfl) fun _ => ?_
    refine safe_then (fun _ => of_decide_eq_true rfl) fun answer => ?_
    rcases answer with failure | chunk
    · cases failure <;> exact rfl
    · exact ih _

/-- Reading a response gives back all that it was given. -/
theorem readResponse_safe (fuel : Nat) :
    Fallible.Safe demands [.incoming] (readResponse fuel) (leaving []) := by
  -- The headers are held just as long as it takes to read them.
  refine safe_then (fun _ => of_decide_eq_true rfl) fun status => ?_
  refine safe_then (fun _ => of_decide_eq_true rfl) fun _ => ?_
  refine safe_then (fun _ => of_decide_eq_true rfl) fun rawHeaders => ?_
  refine safe_then (fun _ => of_decide_eq_true rfl) fun _ => ?_
  -- The headers are gone again.
  show Fallible.Safe demands [.incoming] _ _
  refine Fallible.safe_bind.mpr (safe_owned ?_)
  rintro (⟨⟩ | ⟨⟩)
  · exact ⟨of_decide_eq_true rfl, fun _ => ⟨of_decide_eq_true rfl, fun _ => rfl⟩⟩
  refine ⟨of_decide_eq_true rfl, ?_⟩
  refine safe_then (fun _ => of_decide_eq_true rfl) fun _ => ?_
  -- The body outlives the response.
  show Fallible.Safe demands [.incomingBody] _ _
  refine Fallible.safe_bind.mpr (safe_owned ?_)
  rintro (⟨⟩ | ⟨⟩)
  · exact ⟨of_decide_eq_true rfl, fun _ => ⟨of_decide_eq_true rfl, fun _ => rfl⟩⟩
  refine ⟨of_decide_eq_true rfl, ?_⟩
  refine safe_then (fun _ => of_decide_eq_true rfl) fun _ => ?_
  refine Fallible.safe_bind.mpr (safe_owned ?_)
  refine Program.Safe.mono (readChunks_safe fuel []) ?_
  rintro (stop | body) reached rfl
  · -- The pollable falls first, then its stream, then the body.
    cases stop with
    | error failure =>
      exact fun _ => ⟨of_decide_eq_true rfl, fun _ => ⟨of_decide_eq_true rfl,
        fun _ => ⟨of_decide_eq_true rfl, fun _ => rfl⟩⟩⟩
    | panic message => exact leaving_panic
    | unfinished => exact leaving_unfinished
  · refine safe_then (fun _ => of_decide_eq_true rfl) fun _ => ?_
    refine safe_then (fun _ => of_decide_eq_true rfl) fun _ => ?_
    exact safe_then (fun _ => of_decide_eq_true rfl) fun _ _ => rfl

/-- What an awaited response has brought, when it came. -/
def awaited (answer : Except Unit (Except String Unit)) : List Resource :=
  match answer with
  | .ok (.ok _) => [.futureResponse, .incoming]
  | _ => [.futureResponse]

/-- Waiting for the response leaves the future, and the response when there is one. -/
theorem awaitResponse_safe :
    Fallible.Safe demands [.futureResponse] awaitResponse fun outcome reached =>
      match outcome with
      | .ok answer => reached = awaited answer
      | .error stop => ∃ message, stop = .panic message := by
  refine safe_then (fun answer => ?_) fun answer => ?_
  · rcases answer with _ | _ | _ | _ <;> exact of_decide_eq_true rfl
  rcases answer with _ | answer
  · refine safe_then (fun _ => of_decide_eq_true rfl) fun _ => ?_
    refine safe_then (fun _ => of_decide_eq_true rfl) fun _ => ?_
    refine safe_then (fun answer => ?_) fun answer => ?_
    · rcases answer with _ | _ | _ | _ <;> exact of_decide_eq_true rfl
    rcases answer with _ | answer
    · -- Without an answer the client panics, and nothing is promised.
      exact ⟨_, rfl⟩
    · -- The pollable falls when the answer is there.
      rcases answer with _ | _ | _ <;>
        exact safe_then (fun _ => of_decide_eq_true rfl) fun _ => rfl
  · rcases answer with _ | _ | _ <;> exact rfl

/-- Sending a request and reading the response gives back all that was given. -/
theorem dispatchAndRead_safe (fuel : Nat) :
    Fallible.Safe demands [.request] (dispatchAndRead fuel) (leaving []) := by
  refine Fallible.safe_bind.mpr ?_
  rintro (failure | ⟨⟩)
  · exact ⟨of_decide_eq_true rfl, fun _ => rfl⟩
  refine ⟨of_decide_eq_true rfl, ?_⟩
  -- The request belongs to the host now.
  show Fallible.Safe demands [.futureResponse] _ _
  refine Fallible.safe_bind.mpr (safe_owned (Fallible.safe_bind.mpr ?_))
  refine Program.Safe.mono awaitResponse_safe ?_
  rintro (stop | answer) reached ends
  · obtain ⟨message, rfl⟩ := ends
    exact leaving_panic
  obtain rfl := ends
  -- Without a response the future alone is left.
  rcases answer with failure | failure | ⟨⟩
  · exact fun _ => ⟨of_decide_eq_true rfl, fun _ => rfl⟩
  · exact fun _ => ⟨of_decide_eq_true rfl, fun _ => rfl⟩
  · exact safe_then (fun _ => of_decide_eq_true rfl) fun _ => readResponse_safe fuel

/-- What the host demands while a body is written. -/
abbrev bodyDemands : World calls (List Resource) :=
  demands.through fun event => ⟨.body event.call, event.reply⟩

/-- Writing to the body of the request is writing to a body. -/
theorem safe_writing {writer : Writer α} {post : Except Stop α → List Resource → Prop}
    (safe : Fallible.Safe bodyDemands held writer post) :
    Fallible.Safe demands held (writing writer) post :=
  Fallible.Safe.handled safe fun _ _ allowed reply => ⟨allowed reply, rfl⟩

/-- The turns of the writer move no resource. -/
theorem writeChunks_safe (fuel : Nat) (data : Bytes) :
    Fallible.Safe bodyDemands [.request, .outgoingBody, .outputStream, .writePollable]
      (writeChunks fuel data)
      fun _ reached => reached = [.request, .outgoingBody, .outputStream, .writePollable] := by
  -- By induction on the turns; a turn asks for a permit, and may write under it.
  induction fuel generalizing data with
  | zero =>
    by_cases left : data = []
    · subst left
      rfl
    · simp [writeChunks, left]
  | succ fuel ih =>
    by_cases left : data = []
    · subst left
      rw [writeChunks_nil]
      rfl
    · rw [writeChunks_succ left]
      refine Fallible.safe_bind.mpr fun _ => ⟨of_decide_eq_true rfl, ?_⟩
      refine Fallible.safe_bind.mpr fun permission => ⟨of_decide_eq_true rfl, ?_⟩
      -- Reading the permit and writing need the stream, which is held all the time.
      rcases permission with failure | permit
      · rfl
      show Fallible.Safe bodyDemands _ (if asUsize permit = 0 then _ else _) _
      -- A turn without a permit moves nothing, and no more does one that writes.
      split
      · exact ih data
      · refine Fallible.safe_bind.mpr fun answer => ⟨of_decide_eq_true rfl, ?_⟩
        rcases answer with failure | ⟨⟩
        · rfl
        · exact ih _

/-- The stream and its pollable are held to the end, or fall with a failure. -/
theorem safe_holding {program : Writer Unit}
    (safe : Fallible.Safe bodyDemands [.request, .outgoingBody, .outputStream, .writePollable]
      program fun _ reached => reached = [.request, .outgoingBody, .outputStream, .writePollable]) :
    Fallible.Safe bodyDemands [.request, .outgoingBody, .outputStream, .writePollable]
      (holding program) fun outcome reached => match outcome with
        | .ok _ => reached = [.request, .outgoingBody, .outputStream, .writePollable]
        | .error stop =>
          leaving [.request, .outgoingBody] (.error stop : Except Stop Unit) reached := by
  refine Fallible.safe_cleaning.mpr (Program.Safe.mono safe ?_)
  rintro (stop | ⟨⟩) reached rfl
  · cases stop with
    | unfinished => exact leaving_unfinished
    | error | panic =>
      -- The pollable falls before its stream.
      exact fun _ => ⟨of_decide_eq_true rfl, fun _ => ⟨of_decide_eq_true rfl, fun _ => rfl⟩⟩
  · rfl

/-- Writing a body leaves the request and the body as they were. -/
theorem writeAll_safe (fuel : Nat) (data : Bytes) :
    Fallible.Safe bodyDemands [.request, .outgoingBody] (writeAll fuel data)
      (leaving [.request, .outgoingBody]) := by
  unfold writeAll
  split
  · exact fun _ => rfl
  refine Fallible.safe_bind.mpr ?_
  -- When the stream cannot be had, nothing more is held.
  rintro (failure | ⟨⟩)
  · exact ⟨of_decide_eq_true rfl, fun _ => rfl⟩
  refine ⟨of_decide_eq_true rfl, ?_⟩
  refine Fallible.safe_bind.mpr fun _ => ⟨of_decide_eq_true rfl, ?_⟩
  -- The stream and its pollable are held until everything is sent.
  show Fallible.Safe bodyDemands [.request, .outgoingBody, .outputStream, .writePollable] _ _
  have sending : Fallible.Safe bodyDemands
      [.request, .outgoingBody, .outputStream, .writePollable]
      (do writeChunks fuel data; flush; block)
      fun _ reached => reached = [.request, .outgoingBody, .outputStream, .writePollable] := by
    refine Fallible.safe_bind.mpr (Program.Safe.mono (writeChunks_safe fuel data) ?_)
    rintro (stop | ⟨⟩) reached rfl
    · rfl
    refine Fallible.safe_bind.mpr fun sent => ⟨of_decide_eq_true rfl, ?_⟩
    rcases sent with failure | ⟨⟩
    · rfl
    · exact Fallible.safe_ask.mpr fun _ => ⟨of_decide_eq_true rfl, rfl⟩
  refine Fallible.safe_bind.mpr (Program.Safe.mono (safe_holding sending) ?_)
  rintro (stop | ⟨⟩) reached held
  · exact held
  -- In the end both are dropped, the pollable before its stream.
  obtain rfl := held
  refine Fallible.safe_bind.mpr fun _ => ⟨of_decide_eq_true rfl, ?_⟩
  exact Fallible.safe_ask.mpr fun _ => ⟨of_decide_eq_true rfl, fun _ => rfl⟩

/-- A call that may be refused, and moves no resource. -/
theorem safe_refusable {call : HostCall} {read : hostCalls.Reply call → Except Stop Unit}
    {rest : Host α} {post : Except Stop α → List Resource → Prop}
    (allowed : ∀ reply, demands.Allows held ⟨call, reply⟩)
    (still : ∀ reply, demands.next held ⟨call, reply⟩ = held)
    (refused : ∀ reply stop, read reply = .error stop → post (.error stop) held)
    (later : Fallible.Safe demands held rest post) :
    Fallible.Safe demands held (Fallible.ask (S := hostCalls) call read >>= fun _ => rest) post := by
  refine Fallible.safe_bind.mpr (Fallible.safe_ask.mpr fun reply => ⟨allowed reply, ?_⟩)
  -- Whatever the answer is, it moves no resource.
  rw [still]
  cases given : read reply with
  | error stop => exact refused reply stop given
  | ok value => exact later

/-- Setting the headers leaves them, or nothing when it fails. -/
theorem setHeaders_safe (authority : String) (body : Option JoseBody) :
    Fallible.Safe demands [.fields] (setHeaders authority body) fun outcome reached =>
      match outcome with
      | .ok _ => reached = [.fields]
      | .error stop => leaving [] (.error stop : Except Stop Unit) reached := by
  refine safe_owned (safe_refusable (fun _ => of_decide_eq_true rfl) (fun _ => rfl) ?_ ?_)
  · -- When a header is refused, the fields are dropped.
    rintro (failure | ⟨⟩) stop ⟨⟩
    exact fun _ => ⟨of_decide_eq_true rfl, fun _ => rfl⟩
  cases body with
  | none => rfl
  -- The second header is treated like the first.
  | some jose =>
    rintro (failure | ⟨⟩)
    · exact ⟨of_decide_eq_true rfl, fun _ => ⟨of_decide_eq_true rfl, fun _ => rfl⟩⟩
    · exact ⟨of_decide_eq_true rfl, rfl⟩

/-- Filling a request leaves it, or nothing when it fails. -/
theorem fillRequest_safe (fuel : Nat) (method : Method) (scheme : Scheme)
    (authority path : String) (body : Option JoseBody) :
    Fallible.Safe demands [.request] (fillRequest fuel method scheme authority path body)
      fun outcome reached => match outcome with
        | .ok _ => reached = [.request]
        | .error stop => leaving [] (.error stop : Except Stop Unit) reached := by
  refine safe_owned ?_
  -- The four settings move nothing, and the request falls when one is refused.
  refine safe_refusable (fun _ => of_decide_eq_true rfl) (fun _ => rfl) ?_ ?_
  · rintro (⟨⟩ | ⟨⟩) stop ⟨⟩
    exact fun _ => ⟨of_decide_eq_true rfl, fun _ => rfl⟩
  refine safe_refusable (fun _ => of_decide_eq_true rfl) (fun _ => rfl) ?_ ?_
  · rintro (⟨⟩ | ⟨⟩) stop ⟨⟩
    exact fun _ => ⟨of_decide_eq_true rfl, fun _ => rfl⟩
  refine safe_refusable (fun _ => of_decide_eq_true rfl) (fun _ => rfl) ?_ ?_
  · rintro (⟨⟩ | ⟨⟩) stop ⟨⟩
    exact fun _ => ⟨of_decide_eq_true rfl, fun _ => rfl⟩
  refine safe_refusable (fun _ => of_decide_eq_true rfl) (fun _ => rfl) ?_ ?_
  · rintro (⟨⟩ | ⟨⟩) stop ⟨⟩
    exact fun _ => ⟨of_decide_eq_true rfl, fun _ => rfl⟩
  -- The body is taken out of the request, once.
  refine Fallible.safe_bind.mpr ?_
  rintro (⟨⟩ | ⟨⟩)
  · exact ⟨of_decide_eq_true rfl, fun _ => ⟨of_decide_eq_true rfl, fun _ => rfl⟩⟩
  refine ⟨of_decide_eq_true rfl, ?_⟩
  show Fallible.Safe demands [.request, .outgoingBody] _ _
  refine Fallible.safe_bind.mpr (safe_owned (Program.Safe.mono
    (show Program.Safe demands [.request, .outgoingBody] _ (leaving [.request, .outgoingBody])
      from ?_) ?_))
  · cases body with
    | none => exact fun _ => rfl
    | some jose => exact safe_writing (writeAll_safe fuel jose.bytes)
  rintro (stop | ⟨⟩) reached held
  · cases stop with
    | error failure =>
      -- The body falls before the request.
      obtain rfl := held (.inr ⟨failure, rfl⟩)
      exact fun _ => ⟨of_decide_eq_true rfl, fun _ => ⟨of_decide_eq_true rfl, fun _ => rfl⟩⟩
    | panic message => exact leaving_panic
    | unfinished => exact leaving_unfinished
  obtain rfl := held (.inl ⟨(), rfl⟩)
  rintro (failure | ⟨⟩)
  · exact ⟨of_decide_eq_true rfl, fun _ => ⟨of_decide_eq_true rfl, fun _ => rfl⟩⟩
  · exact ⟨of_decide_eq_true rfl, rfl⟩

/-- An exchange gives back all that it was given. -/
theorem roundTrip_safe (fuel : Nat) (method : Method) (url : String) (body : Option JoseBody) :
    Fallible.Safe demands [] (roundTrip fuel method url body) (leaving []) := by
  refine Fallible.safe_bind.mpr (Fallible.safe_ofExcept.mpr ?_)
  cases parsed : result (parseUrl url) with
  -- The host has not given anything yet.
  | error stop => exact fun _ => rfl
  | ok parts =>
    obtain ⟨scheme, authority, path⟩ := parts
    refine safe_then (fun _ => of_decide_eq_true rfl) fun _ => ?_
    -- The fields are all that is held, and go into the request.
    refine Fallible.safe_bind.mpr (Program.Safe.mono (setHeaders_safe authority body) ?_)
    rintro (stop | ⟨⟩) reached held
    · exact leaving_error held
    obtain rfl := held
    refine safe_then (fun _ => of_decide_eq_true rfl) fun _ => ?_
    refine Fallible.safe_bind.mpr
      (Program.Safe.mono (fillRequest_safe fuel method scheme authority path body) ?_)
    rintro (stop | ⟨⟩) reached held
    · exact leaving_error held
    obtain rfl := held
    -- The request goes to the host, and what comes back is read.
    exact dispatchAndRead_safe fuel

/--
At no time does an exchange use what it does not hold, drop what is still needed by
something else, or hold anything twice, whatever the host answers and wherever the run is
interrupted. A run that comes to its end has given back everything that it was given, also
when it failed on the way.
-/
theorem round_trip_custody (fuel : Nat) (method : Method) (url : String)
    (body : Option JoseBody) :
    (∀ trace reached, (roundTrip fuel method url body).run.Leads trace reached →
      demands.Admits [] trace) ∧
    ∀ trace outcome, (roundTrip fuel method url body).Ends trace outcome → Settled outcome →
      ∀ resource, hostCustody.given resource trace = hostCustody.taken resource trace := by
  have safe := roundTrip_safe fuel method url body
  constructor
  · -- Up to any point, no call was made that is not allowed.
    intro trace reached leads
    exact (Program.Safe.leads safe leads).1
  · -- At the end nothing is held, so that all was taken back.
    intro trace outcome run settled resource
    obtain ⟨admits, released⟩ := Program.Safe.leads safe run
    exact Custody.balanced admits (released settled) resource

/-- How often a call has been made. -/
def asked (call : HostCall) (history : HostHistory) : Nat :=
  (history.filter fun event => event.call = call).length

/-- A host whose response comes after some waiting, in chunks that are listed. -/
def obliging (arriving : List Bytes) (history : HostHistory) : (call : HostCall) → call.Reply
  | .append _ _ | .finish | .handle => .ok ()
  | .setMethod _ | .setScheme _ | .setAuthority _ | .setPathWithQuery _ | .requestBody
  | .consume | .bodyStream => .ok ()
  | .body call => hosting [2, 0, 5] (history.filterMap fun event => match event with
    | ⟨.body earlier, reply⟩ => some ⟨earlier, reply⟩
    | _ => none) call
  -- The response is there at the second time.
  | .futureGet => if asked .futureGet history = 0 then none else some (.ok (.ok ()))
  | .status => 201
  | .entries => [("Replay-Nonce", [110, 49])]
  | .read len => match arriving[asked (.read len) history]? with
    | some chunk => .ok chunk
    | none => .error .closed
  | .newFields | .newRequest | .futureSubscribe | .futureBlock | .incomingHeaders
  | .inputSubscribe | .inputBlock | .drop _ => ()

/-- A POST of three bytes to such a host. -/
def samplePost (arriving : List Bytes) : HostHistory × Except Stop HttpResponse :=
  (WasiHttpClient.postJose 4 "https://ca.example/acct?x" [1, 2, 3]).run.play
    (obliging arriving) []

/-- A played exchange is one of its runs. -/
theorem samplePost_ends (arriving : List Bytes) :
    (WasiHttpClient.postJose 4 "https://ca.example/acct?x" [1, 2, 3]).Ends
      (samplePost arriving).1 (samplePost arriving).2 :=
  Program.play_returns _ _ _

/-- The POST is answered, and twelve resources have come and gone. -/
theorem samplePost_custody :
    demands.Admits [] (samplePost [[7], [], [8, 9]]).1 ∧
      (∀ resource, hostCustody.given resource (samplePost [[7], [], [8, 9]]).1
        = hostCustody.taken resource (samplePost [[7], [], [8, 9]]).1) ∧
      hostCustody.given .readPollable (samplePost [[7], [], [8, 9]]).1 = 1 :=
  ⟨(round_trip_custody 4 .post "https://ca.example/acct?x" _).1 _ _
      (samplePost_ends [[7], [], [8, 9]]),
    (round_trip_custody 4 .post "https://ca.example/acct?x" _).2 _ _
      (samplePost_ends [[7], [], [8, 9]])
      (.inl ⟨{ status := 201, headers := [("Replay-Nonce", "n1")], body := [7, 8, 9] },
        by decide +kernel⟩),
    by decide +kernel⟩

end Acme.Http
