import Acme.Http.Composed
import Acme.Proofs.HostExchange
import Acme.Proofs.ScriptedAuthority
import Acme.Proofs.SignedRequests

/-! What an issuance sends through the host and what it takes of it, request by request. -/

namespace Acme.Http

open Interaction

/-- The request that a call of the client asks for, when it is one that can be sent. -/
def wanted : Event Acme.calls → Option Draft
  | ⟨.head url, _⟩ => requested .head url none
  | ⟨.get url, _⟩ => requested .get url none
  | ⟨.postJose url body, _⟩ =>
    requested .post url (some { contentType := "application/jose+json", bytes := body })
  -- The other calls are not carried out by the host.
  | _ => none

/-- The requests that were handed to the host. -/
def wired (trace : Trace composed) : List Draft :=
  (said trace.lefts).sent

/-- What a request that is sent has to be, after a run of the client. -/
def Authentic (lib : Libraries) (request : IssueRequest) (outer : History) (draft : Draft) : Prop :=
  match draft.method with
  -- The only thing that is read is the directory.
  | some .get => requested .get request.directoryUrl none = some draft
  -- A nonce is asked for where the directory says.
  | some .head => ∃ directory, Fetched lib request outer directory ∧
      requested .head directory.newNonce none = some draft
  -- A body is signed for where it is sent to.
  | some .post => ∃ header payload, Says draft.body header payload ∧
      header.alg = request.accountKey.alg ∧
      requested .post header.url
        (some { contentType := "application/jose+json", bytes := draft.body }) = some draft
  | none => False

variable {exchange : Exchange}

/-- What was sent before does not change what is said next. -/
theorem next_prepend (earlier : List Draft) (event : Event hostCalls) :
    ({ exchange with sent := earlier ++ exchange.sent } : Exchange).next event
      = { exchange.next event with sent := earlier ++ (exchange.next event).sent } := by
  obtain ⟨call, reply⟩ := event
  cases call with
  -- No call looks at what was sent; one of them adds to it.
  | body inner => cases inner <;> rfl
  | handle => simp [Exchange.next]
  | append | setMethod | setScheme | setAuthority | setPathWithQuery | finish =>
    cases reply <;> rfl
  -- The other calls add to what was said, or to what was told.
  | read len =>
    rcases reply with failure | chunk
    · cases failure <;> rfl
    · rfl
  | _ => rfl

/-- What was sent before stays in front of what is sent later. -/
theorem after_prepend (exchange : Exchange) (earlier : List Draft) (history : HostHistory) :
    listening.after { exchange with sent := earlier ++ exchange.sent } history
      = { listening.after exchange history with
          sent := earlier ++ (listening.after exchange history).sent } := by
  -- By induction on the calls, whatever has been said so far.
  induction history generalizing exchange with
  | nil => rfl
  | cons event later ih =>
    rw [World.after_cons, World.after_cons, ← ih]
    show listening.after (Exchange.next _ event) later = _
    rw [next_prepend]
    rfl

/-- An exchange does not begin, or begins with a new request. -/
theorem roundTrip_begins {fuel : Nat} {method : Method} {url : String} {body : Option JoseBody}
    {history : HostHistory} {outcome : Except Stop HttpResponse}
    (run : (roundTrip fuel method url body).Ends history outcome) :
    history = [] ∨ ∃ later, history = ⟨.newFields, ()⟩ :: later := by
  rcases Fallible.ends_bind.mp run with ⟨parts, earlier, later, rfl, parsed, rest⟩ |
    ⟨failure, parsed, _⟩
  · -- The URL can be read, and the first thing asked for is a set of headers.
    obtain ⟨rfl, _⟩ := Fallible.ends_ofExcept.mp parsed
    obtain ⟨⟨⟩, further, rfl, _⟩ := Fallible.ends_ask_bind.mp rest
    exact .inr ⟨further, rfl⟩
  · -- The URL cannot be read, and the host is not called.
    exact .inl (Fallible.ends_ofExcept.mp parsed).1

/-- An exchange adds its request to what was sent before, or nothing. -/
theorem roundTrip_sends {fuel : Nat} {method : Method} {url : String} {body : Option JoseBody}
    {history : HostHistory} {outcome : Except Stop HttpResponse}
    (run : (roundTrip fuel method url body).Ends history outcome) :
    ∃ sent, (listening.after exchange history).sent = exchange.sent ++ sent ∧
      sent <+: (requested method url body).toList := by
  refine ⟨(said history).sent, ?_,
    (Program.Safe.leads (roundTrip_speaks fuel method url body) run).2.sent⟩
  rcases roundTrip_begins run with rfl | ⟨later, rfl⟩
  · -- Nothing was said.
    simp [said, Exchange.silent]
  · -- What was told before does not matter for the new request.
    have later := after_prepend .silent exchange.sent later
    have same : ({ Exchange.silent with sent := exchange.sent ++ Exchange.silent.sent } : Exchange)
        = exchange.next ⟨.newFields, ()⟩ := by simp [Exchange.next, Exchange.silent]
    rw [same] at later
    exact congrArg Exchange.sent later

/-- A call of the client sends what it asks for, or nothing. -/
theorem carrying_sends (exchange : Exchange) {fuel : Nat} (event : Event Acme.calls)
    {inner : Trace composed} {outcome : Except Stop (Acme.calls.Reply event.call)}
    (run : (WasiHttpClient.carrying fuel event.call).Ends inner outcome) :
    ∃ sent, (listening.after exchange inner.lefts).sent = exchange.sent ++ sent ∧
      sent <+: (wanted event).toList := by
  -- The three calls for HTTP are exchanges.
  have transport {method : Method} {url : String} {body : Option JoseBody}
      {answered : Except Stop (Except AcmeError HttpResponse)}
      (sending : (transported (roundTrip fuel method url body)).Ends inner answered) :
      ∃ sent, (listening.after exchange inner.lefts).sent = exchange.sent ++ sent ∧
        sent <+: (requested method url body).toList := by
    obtain ⟨original, exchanged, _⟩ := Fallible.ends_viewing.mp sending
    exact roundTrip_sends (Fallible.ends_left exchanged)
  obtain ⟨call, answer⟩ := event
  cases call with
  | head | get | postJose => exact transport run
  | _ =>
    -- The host is not asked for anything.
    obtain ⟨reply, rfl, _⟩ := Fallible.ends_ask.mp run
    exact ⟨[], by simp [Trace.lefts], List.nil_prefix⟩

/-- What is sent for calls that are carried out is what they ask for, in order. -/
theorem carried_sends (exchange : Exchange) {fuel : Nat} {outer : History} {trace : Trace composed}
    (carried : Carried (WasiHttpClient.carrying fuel) outer trace) :
    ∃ sent, (listening.after exchange trace.lefts).sent = exchange.sent ++ sent ∧
      sent.Sublist (outer.filterMap wanted) := by
  -- By induction on the calls that are carried out; each of them adds what it sends.
  induction carried generalizing exchange with
  | none => exact ⟨[], by simp [Trace.lefts], List.nil_sublist _⟩
  | @answered call reply outer inner later ended _ ih =>
    -- First this call sends its request or nothing, then the others theirs.
    obtain ⟨first, here, asked⟩ := carrying_sends exchange ⟨call, reply⟩ ended
    obtain ⟨others, there, ordered⟩ := ih (listening.after exchange inner.lefts)
    refine ⟨first ++ others, ?_, ?_⟩
    · rw [Trace.lefts_append, World.after_append, there, here, List.append_assoc]
    · rw [List.filterMap_cons]
      -- A call that asks for no request sends none.
      cases wants : wanted ⟨call, reply⟩ <;> rw [wants] at asked
      · exact (asked.sublist.append ordered)
      · exact (asked.sublist.append ordered)

/-- That is so up to a call that is not answered, which may have sent its own request. -/
theorem broken_sends {fuel : Nat} {failure : Stop} {outer : History} {trace : Trace composed}
    (broken : Broken (WasiHttpClient.carrying fuel) failure outer trace) :
    (wired trace).Sublist (outer.filterMap wanted) := by
  -- Some calls were carried out, and one was begun.
  obtain ⟨made, event, others, earlier, inner, rfl, rfl, carried, failed⟩ := broken
  obtain ⟨first, here, ordered⟩ := carried_sends .silent carried
  obtain ⟨last, there, asked⟩ := carrying_sends (listening.after .silent earlier.lefts) event failed
  -- Together they have sent what each of them has sent.
  have whole : wired (earlier ++ inner) = first ++ last := by
    rw [wired, said, Trace.lefts_append, World.after_append, there, here]
    rfl
  rw [whole, List.filterMap_append, List.filterMap_cons]
  refine ordered.append ?_
  -- The last call may have sent its request, or nothing.
  cases wants : wanted event <;> rw [wants] at asked
  · exact asked.sublist.trans (List.nil_sublist _)
  · exact asked.sublist.trans (List.singleton_sublist.mpr (.head _))

/-- Why a call of the client is not answered: a response is missing, or the run is cut short. -/
def Unanswered (failure : Stop) : Prop :=
  failure = .panic "future-incoming-response resolved after block" ∨ failure = .unfinished

/-- A call of the client is answered, unless its exchange panics or is cut short. -/
theorem carrying_unanswered {fuel : Nat} {call : Acme.Call} {inner : Trace composed}
    {failure : Stop} (run : (WasiHttpClient.carrying fuel call).Ends inner (.error failure)) :
    Unanswered failure := by
  -- An exchange returns an error of the transport as its answer.
  have transport {method : Method} {url : String} {body : Option JoseBody}
      (sending : (transported (roundTrip fuel method url body)).Ends inner (.error failure)) :
      Unanswered failure := by
    obtain ⟨original, exchanged, seen⟩ := Fallible.ends_viewing.mp sending
    have hindered := (Program.Safe.leads (roundTrip_excused fuel method url body .none)
      (Fallible.ends_left exchanged)).2
    -- A failure of the transport is an answer, and what is left is a panic or no end.
    rcases original with stop | response
    · cases stop with
      | error error => cases seen
      -- There is one panic in an exchange.
      | panic message =>
        obtain rfl := Except.error.inj seen
        rcases hindered _ rfl with ⟨_, _, impossible, _⟩ | ⟨rfl, _⟩
        · cases impossible
        · exact .inl rfl
      | unfinished => exact .inr (Except.error.inj seen)
    · cases seen
  cases call with
  | head | get | postJose => exact transport run
  -- The other calls are always answered.
  | _ =>
    obtain ⟨reply, _, answered⟩ := Fallible.ends_ask.mp run
    cases answered

/-- A request is for its method, and carries the bytes of its body. -/
theorem requested_eq {method : Method} {url : String} {body : Option JoseBody} {draft : Draft}
    (asked : requested method url body = some draft) :
    draft.method = some method ∧ draft.body = (body.map JoseBody.bytes).getD [] := by
  unfold requested at asked
  split at asked
  · -- The URL could not be read.
    cases asked
  · cases asked
    exact ⟨rfl, rfl⟩

/-- What an issuance asks for is authentic. -/
theorem wanted_authentic {lib : Libraries} {fuel : Nat} {request : IssueRequest} {outer : History}
    {outcome : Except Stop Bytes} {event : Event Acme.calls} {draft : Draft}
    (run : (issueCertificateWithTimeouts lib fuel request).Ends outer outcome)
    (member : event ∈ outer) (asked : wanted event = some draft) :
    Authentic lib request outer draft := by
  -- What is asked for where is known of every run.
  have outline := (issue_run run).outline
  obtain ⟨first, rest, split, addressed⟩ := outline.addressed
  obtain ⟨call, answer⟩ := event
  cases call with
  | head url =>
    obtain ⟨method, _⟩ := requested_eq asked
    -- The first call is a GET, so this one comes after it.
    have later : headed url answer ∈ rest := by
      rw [split] at member
      simpa using member
    obtain ⟨response, directory, rfl, fetched, target⟩ := addressed _ later
    obtain rfl : url = directory.newNonce := target
    unfold Authentic
    rw [method]
    exact ⟨directory, ⟨response, rest, split, fetched⟩, asked⟩
  -- The only GET is the first call.
  | get url =>
    obtain ⟨method, _⟩ := requested_eq asked
    unfold Authentic
    rw [method]
    rw [split] at member
    rcases List.mem_cons.mp member with same | later
    · cases same
      exact asked
    · obtain ⟨_, _, _, _, impossible⟩ := addressed _ later
      exact impossible.elim
  -- A POST states in its body where it goes.
  | postJose url body =>
    obtain ⟨method, bytes⟩ := requested_eq asked
    obtain ⟨before, after, rfl⟩ := List.append_of_mem member
    obtain ⟨header, payload, states, target, alg, _⟩ := outline.bound
    unfold Authentic
    rw [method]
    obtain rfl : draft.body = body := bytes
    subst target
    exact ⟨header, payload, states, alg, asked⟩
  | _ => cases asked

/-- A run over the host is one of the client: all of it, or up to an exchange without an answer. -/
def Conducted (hostFuel : Nat) (outer : History) (result : Except Stop Bytes)
    (trace : Trace composed) (outcome : Except Stop Bytes) : Prop :=
  (Carried (WasiHttpClient.carrying hostFuel) outer trace ∧ outcome = result) ∨
    ∃ failure, Broken (WasiHttpClient.carrying hostFuel) failure outer trace ∧
      outcome = .error failure ∧ Unanswered failure

/--
An issuance over the host is a run of the client whose calls are carried out one after the
other, with the outcome of that run. Only when an exchange panics or is cut short, that is
the outcome, and the calls that follow are not made. What it hands to the host are requests
of that run, each at most once and in order: the directory is read, nonces are asked for
where the directory says, and every body is signed for the very address that it is sent to.
-/
theorem issuance_on_the_wire {lib : Libraries} {hostFuel fuel : Nat} {request : IssueRequest}
    {trace : Trace composed} {outcome : Except Stop Bytes}
    (run : (WasiHttpClient.issueCertificate lib hostFuel fuel request).Ends trace outcome) :
    ∃ outer result, (issueCertificateWithTimeouts lib fuel request).Ends outer result ∧
      Conducted hostFuel outer result trace outcome ∧
      (wired trace).Sublist (outer.filterMap wanted) ∧
      ∀ draft ∈ wired trace, Authentic lib request outer draft := by
  -- Whatever was sent was asked for by a call of the run.
  have authentic : ∀ {outer result},
      (issueCertificateWithTimeouts lib fuel request).Ends outer result →
      (wired trace).Sublist (outer.filterMap wanted) →
      ∀ draft ∈ wired trace, Authentic lib request outer draft := by
    intro outer result ended ordered draft member
    obtain ⟨event, called, asked⟩ := List.mem_filterMap.mp (ordered.subset member)
    exact wanted_authentic ended called asked
  -- All calls were carried out, or one of them was not answered.
  rcases Fallible.handled_ends answerable run with ⟨outer, ended, carried⟩ |
    ⟨outer, result, failure, ended, broken, rfl⟩
  · obtain ⟨sent, same, ordered⟩ := carried_sends .silent carried
    obtain rfl : wired trace = sent := same
    exact ⟨outer, outcome, ended, .inl ⟨carried, rfl⟩, ordered, authentic ended ordered⟩
  · have ordered := broken_sends broken
    -- A call fails for the reasons that its exchange has.
    have unanswered : Unanswered failure := by
      obtain ⟨_, _, _, _, _, _, _, _, failed⟩ := broken
      exact carrying_unanswered failed
    exact ⟨outer, result, ended, .inr ⟨failure, broken, rfl, unanswered⟩, ordered,
      authentic ended ordered⟩

/-- The calls since a request was handed over. -/
def sinceHandle (history : HostHistory) : HostHistory :=
  history.reverse.takeWhile fun event => event.call ≠ .handle

/-- A host that answers one exchange after the other with listed documents, each in one chunk. -/
def serving (documents : List Bytes) (history : HostHistory) : (call : HostCall) → call.Reply
  | .body call => hosting [512, 0, 4096] (history.filterMap fun event => match event with
    | ⟨.body earlier, reply⟩ => some ⟨earlier, reply⟩
    | _ => none) call
  -- The response is there once it has been waited for.
  | .futureGet => if asked .futureBlock (sinceHandle history) = 0 then none else some (.ok (.ok ()))
  -- A document comes in one chunk, behind which the stream is closed.
  | .read len =>
    if asked (.read len) (sinceHandle history) = 0 then
      .ok ((documents[asked .handle history - 1]?).getD [])
    else .error .closed
  | call => obliging [] history call

/-- The calls of the client itself in a run over the host. -/
def clientCalls (history : Trace composed) : History :=
  history.filterMap fun event => match event with
    | ⟨.inr call, reply⟩ => some ⟨call, reply⟩
    | ⟨.inl _, _⟩ => none

/-- Such a host, beside a pool that behaves as a queue. -/
def servingBoth (documents : List Bytes) (history : Trace composed) :
    (call : composed.Call) → composed.Reply call
  | .inl call => serving documents history.lefts call
  | .inr (.head _) | .inr (.get _) | .inr (.postJose _ _) => .error (.other "")
  | .inr .popFront => (pool.after [] (clientCalls history)).head?
  | .inr .isEmpty => (pool.after [] (clientCalls history)).isEmpty
  | .inr (.arm _ _ _) => .ok 1
  | .inr (.selfCheck _) => .ok ()
  | .inr .now => 0
  | .inr (.pushBack _) | .inr .clear | .inr (.dropReady _) | .inr (.sleep _) => ()

/-- The text of a directory with absolute addresses. -/
def servedDirectoryText : String :=
  "\x7b\"newNonce\":\"https://ca.example/nonce\",\"newAccount\":\"https://ca.example/account\"," ++
  "\"newOrder\":\"https://ca.example/order\",\"revokeCert\":\"https://ca.example/revoke\"," ++
  "\"keyChange\":\"https://ca.example/key\"\x7d"

/-- Libraries that know this directory. -/
def servedLibraries : Libraries :=
  { sampleLibraries with
    parseDirectory := readTable [(servedDirectoryText, { sampleDirectory with
      newNonce := "https://ca.example/nonce"
      newAccount := "https://ca.example/account"
      newOrder := "https://ca.example/order"
      revokeCert := "https://ca.example/revoke"
      keyChange := "https://ca.example/key" })] }

/-- What a caller asks for over the host. -/
def servedRequest : IssueRequest :=
  { sampleRequest with directoryUrl := "https://ca.example/directory" }

/-- An issuance over such a host, which gives the account no address. -/
def sampleOverHost : Trace composed × Except Stop Bytes :=
  (WasiHttpClient.issueCertificate servedLibraries 4 0 servedRequest).run.play
    (servingBoth [Utf8.bytes servedDirectoryText, [], Utf8.bytes "\x7b\x7d"]) []

/-- It is a run of the issuance. -/
theorem sampleOverHost_ends :
    (WasiHttpClient.issueCertificate servedLibraries 4 0 servedRequest).Ends
      sampleOverHost.1 sampleOverHost.2 :=
  Program.play_returns _ _ _

-- The run is evaluated by `decide` alone, and not while statements about it are unfolded.
attribute [irreducible] sampleOverHost

/--
The account that it has made is without an address. Until then three requests were sent, each of
which has got a response, and one body was written.
-/
theorem sampleOverHost_summary :
    sampleOverHost.2 = .error (.error (.missingField "Location on newAccount response")) ∧
      (wired sampleOverHost.1).map Draft.method = [some .get, some .head, some .post] ∧
      hostCustody.given .incoming sampleOverHost.1.lefts = 3 ∧
      hostCustody.given .outputStream sampleOverHost.1.lefts = 1 := by
  -- The run is evaluated once for all that is said about it.
  decide +kernel

/-- It has sent for the directory and for a nonce, and posted one signed body. -/
theorem sampleOverHost_on_the_wire :
    (wired sampleOverHost.1).map Draft.method = [some .get, some .head, some .post] ∧
      ∃ outer result, (issueCertificateWithTimeouts servedLibraries 0 servedRequest).Ends outer
          result ∧
        Conducted 4 outer result sampleOverHost.1 sampleOverHost.2 ∧
        (wired sampleOverHost.1).Sublist (outer.filterMap wanted) ∧
        ∀ draft ∈ wired sampleOverHost.1, Authentic servedLibraries servedRequest outer draft :=
  ⟨sampleOverHost_summary.2.1, issuance_on_the_wire sampleOverHost_ends⟩

/-- Between the calls of the client, nothing of the host is held. -/
def emptyHanded : World Acme.calls (List Resource) where
  Allows held _ := held = []
  next held _ := held

/-- Every operation of the client is safe when it starts without anything. -/
theorem safe_emptyHanded {α : Type} (operation : Client α) :
    Fallible.Safe emptyHanded [] operation (leaving []) := by
  have general : ∀ (inner : Program Acme.calls (Except Stop α)),
      Program.Safe emptyHanded [] inner (leaving []) := by
    -- By induction on the operation: each call is allowed with empty hands.
    intro inner
    induction inner with
    | done value => exact fun _ => rfl
    | call request next ih => exact fun reply => ⟨rfl, ih reply⟩
  exact general operation.run

/-- An exchange for the client gives back what it was given before the client goes on. -/
theorem transported_safe {exchange : Host HttpResponse}
    (safe : Fallible.Safe demands [] exchange (leaving [])) :
    Fallible.Safe demands.onLefts [] (transported exchange) (leaving []) := by
  refine Program.safe_bind.mpr (Program.Safe.mono (Fallible.Safe.left safe) ?_)
  rintro (stop | response) reached left
  · cases stop with
    | error failure => exact fun _ => left (.inr ⟨failure, rfl⟩)
    -- In a panic nothing is promised.
    | panic message => exact leaving_panic
    | unfinished => exact leaving_unfinished
  · exact fun _ => left (.inl ⟨response, rfl⟩)

/-- A call of the client is carried out without keeping anything. -/
theorem carrying_safe (fuel : Nat) (call : Acme.calls.Call) :
    Fallible.Safe demands.onLefts [] (WasiHttpClient.carrying fuel call) (leaving []) := by
  cases call with
  -- Each of the three exchanges gives back what it was given.
  | head url => exact transported_safe (roundTrip_safe fuel .head url none)
  | get url => exact transported_safe (roundTrip_safe fuel .get url none)
  | postJose url body => exact transported_safe (roundTrip_safe fuel .post url (some _))
  | _ => exact fun _ => ⟨trivial, fun _ => rfl⟩

/--
However long an issuance over the host goes on, and wherever it is interrupted, it uses
what it holds only, and drops nothing that something else still needs. When it comes to its
end, with a certificate or with an error, everything has been given back.
-/
theorem issuance_custody (lib : Libraries) (hostFuel fuel : Nat) (request : IssueRequest) :
    (∀ trace reached,
      (WasiHttpClient.issueCertificate lib hostFuel fuel request).run.Leads trace reached →
        demands.Admits [] trace.lefts) ∧
    ∀ trace outcome, (WasiHttpClient.issueCertificate lib hostFuel fuel request).Ends trace outcome →
      Settled outcome → ∀ resource,
        hostCustody.given resource trace.lefts = hostCustody.taken resource trace.lefts := by
  have safe : Fallible.Safe demands.onLefts []
      (WasiHttpClient.issueCertificate lib hostFuel fuel request) (leaving []) := by
    -- Each call of the client is carried out with empty hands, and leaves them empty.
    refine (safe_emptyHanded _).handled fun held call allowed => ?_
    -- The call can be answered somehow, so nothing is held before it.
    obtain ⟨reply⟩ := answerable call
    obtain rfl : held = [] := allowed reply
    refine Program.Safe.mono (carrying_safe hostFuel call) ?_
    rintro (stop | answer) reached left
    · exact leaving_error left
    · exact left (.inl ⟨answer, rfl⟩)
  constructor
  · -- At each point only the calls to the host matter.
    intro trace reached leads
    exact World.onLefts_admits.1.mp (Program.Safe.leads safe leads).1
  · -- At the end nothing is held, so that everything given was taken back.
    intro trace outcome run settled
    obtain ⟨admits, released⟩ := Program.Safe.leads safe run
    refine Custody.balanced (World.onLefts_admits.1.mp admits) ?_
    rw [← World.onLefts_admits.2]
    exact released settled

/-- An issuance that ends behind its first POST has used one writer, and three responses. -/
theorem sampleOverHost_custody :
    demands.Admits [] sampleOverHost.1.lefts ∧
      (∀ resource, hostCustody.given resource sampleOverHost.1.lefts
        = hostCustody.taken resource sampleOverHost.1.lefts) ∧
      hostCustody.given .incoming sampleOverHost.1.lefts = 3 ∧
      hostCustody.given .outputStream sampleOverHost.1.lefts = 1 :=
  -- The run ends in an error, which is an end all the same.
  ⟨(issuance_custody servedLibraries 4 0 servedRequest).1 _ _ sampleOverHost_ends,
    (issuance_custody servedLibraries 4 0 servedRequest).2 _ _ sampleOverHost_ends
      (.inr ⟨_, sampleOverHost_summary.1⟩),
    sampleOverHost_summary.2.2.1, sampleOverHost_summary.2.2.2⟩

end Acme.Http
