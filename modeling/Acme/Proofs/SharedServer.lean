import Acme.Interaction.Shelf
import Acme.Proofs.Served
import Acme.Proofs.SharedPool

/-! Concurrent issuances that share one HTTP-01 responder. -/

namespace Acme.Testing

open Interaction TlsAlpn01

variable {π : Type} {harness : Harness π} {ι : Type} [DecidableEq ι]

/-- A response is provisioned under a token for which nothing is served yet. -/
def Unshared (bench : Bench harness) : Event calls → Prop
  | ⟨.arm _ _ keyAuthorization, _⟩ =>
    -- A key authorization without a token is refused by the solver anyway.
    ∀ token ∈ (tokenOf keyAuthorization).toOption, bench.servers.http.map token = none
  -- No other call provisions anything.
  | _ => True

/-- The HTTP-01 solver of a harness, when no authority gives out a token that is in use. -/
def responder (harness : Harness π) : World calls (Bench harness) where
  Allows state event := (bench harness [.http01]).Allows state event ∧ Unshared state event
  next := (bench harness [.http01]).next

/-- What the server is like when some callers have a response up. -/
structure Sharing (up : ι → Option Posting) (bench : Bench harness) : Prop where
  /-- What is up for a caller is served under its token, and is live. -/
  served : ∀ caller posting, up caller = some posting →
    ∃ token, tokenOf posting.keyAuthorization = .ok token ∧
      bench.live posting.ready = some (.http01 ⟨token⟩) ∧
      bench.servers.http.map token = some posting.keyAuthorization
  /-- No two callers have a response up under one token. -/
  apart : ∀ caller other posting second token, up caller = some posting → up other = some second →
    tokenOf posting.keyAuthorization = .ok token → tokenOf second.keyAuthorization = .ok token →
    caller = other
  /-- Nothing else is served. -/
  only : ∀ token body, bench.servers.http.map token = some body →
    ∃ caller posting, up caller = some posting ∧ tokenOf posting.keyAuthorization = .ok token

/-- What is served for those who armed the solver. -/
def Http01Server.shelf (server : Http01Server) : ChallengeReady → Option String
  | .http01 ready => server.map ready.token
  | .tlsAlpn01 | .dns01 _ => none

/-- A body is put on the shelf under its token. -/
theorem shelf_insert (server : Http01Server) (token body : String) :
    (server.insert token body).shelf =
      Function.update server.shelf (.http01 ⟨token⟩) (some body) := by
  funext armed
  rw [Function.update_apply]
  rcases armed with ⟨⟨other⟩⟩ | _ | _
  · -- The body is found under its token, and what was there stays where it was.
    simp [Http01Server.shelf, Http01Server.insert]
  · rfl
  · rfl

/-- A token is taken from the shelf. -/
theorem shelf_remove (server : Http01Server) (token : String) :
    (server.remove token).shelf = Function.update server.shelf (.http01 ⟨token⟩) none := by
  funext armed
  rw [Function.update_apply]
  -- Only what an HTTP-01 solver has armed is on the shelf.
  rcases armed with ⟨⟨other⟩⟩ | _ | _
  · simp [Http01Server.shelf, Http01Server.remove]
  · rfl
  · rfl

omit [DecidableEq ι] in
/-- The server is a shelf, on which each response is found under the token in it. -/
theorem sharing_iff {up : ι → Option Posting} {bench : Bench harness} :
    Sharing up bench ↔
      Shelved Posting.ready Posting.keyAuthorization up bench.live bench.servers.http.shelf ∧
        ∀ caller posting, up caller = some posting → ∃ token,
          tokenOf posting.keyAuthorization = .ok token ∧
            bench.live posting.ready = some (.http01 ⟨token⟩) := by
  constructor
  · intro ⟨served, apart, only⟩
    -- Whatever is up has a token, under which its handle is live.
    have tokened : ∀ caller posting, up caller = some posting → ∃ token,
        tokenOf posting.keyAuthorization = .ok token ∧
          bench.live posting.ready = some (.http01 ⟨token⟩) := by
      intro caller posting held
      obtain ⟨token, found, live, _⟩ := served caller posting held
      exact ⟨token, found, live⟩
    -- The shelf is the server's map, read with its tokens as handles.
    refine ⟨⟨fun caller posting held => ?_, ?_, ?_⟩, tokened⟩
    · -- It is on the shelf under its own token.
      obtain ⟨token, _, live, mapped⟩ := served caller posting held
      exact ⟨_, live, mapped⟩
    · intro caller other posting second armed held also lives alive
      -- One handle stands for one token.
      obtain ⟨token, found, live⟩ := tokened caller posting held
      obtain ⟨own, known, shown⟩ := tokened other second also
      obtain rfl := Option.some.inj (live.symm.trans lives)
      obtain rfl : own = token := by simpa [shown] using alive
      exact apart caller other posting second own held also found known
    · -- What is on the shelf was put there under a token, and that one belongs to a caller.
      intro armed body mapped
      rcases armed with ⟨⟨token⟩⟩ | _ | _
      · obtain ⟨caller, posting, held, found⟩ := only token body mapped
        obtain ⟨own, known, live⟩ := tokened caller posting held
        obtain rfl := Except.ok.inj (found.symm.trans known)
        exact ⟨caller, posting, held, live⟩
      · cases mapped
      · cases mapped
  · intro ⟨shelved, tokened⟩
    constructor
    · -- Conversely, what a handle stands for is what is served under its token.
      intro caller posting held
      obtain ⟨token, found, live⟩ := tokened caller posting held
      obtain ⟨armed, lives, mapped⟩ := shelved.kept caller posting held
      obtain rfl := Option.some.inj (live.symm.trans lives)
      exact ⟨token, found, live, mapped⟩
    · -- With one token there is one place on the shelf, which belongs to one caller.
      intro caller other posting second token held also found known
      obtain ⟨own, same, live⟩ := tokened caller posting held
      obtain rfl := Except.ok.inj (found.symm.trans same)
      obtain ⟨own, same, lives⟩ := tokened other second also
      obtain rfl := Except.ok.inj (known.symm.trans same)
      exact shelved.apart caller other posting second _ held also live lives
    · -- What the server has under a token is on the shelf in that place.
      intro token body mapped
      obtain ⟨caller, posting, held, lives⟩ := shelved.only (.http01 ⟨token⟩) body mapped
      obtain ⟨own, found, live⟩ := tokened caller posting held
      obtain rfl : own = token := by simpa [live] using lives
      exact ⟨caller, posting, held, found⟩

/-- When there is one solver, it is the one that is armed. -/
theorem arming_single {bench : Bench harness} {adapter : Adapter} {solver : Nat}
    {identifier : Identifier} {keyAuthorization : String}
    {made : Except Stop ChallengeReady × Servers harness}
    (came : bench.arming [adapter] solver identifier keyAuthorization = some made) :
    adapter.arm bench.servers identifier keyAuthorization = made := by
  obtain ⟨other, chosen, rfl⟩ := Option.map_eq_some_iff.mp came
  -- The number of the solver is a place in a list of one.
  have member := List.mem_of_getElem? chosen
  obtain rfl : other = adapter := by simpa using member
  rfl

/-- Arming the solver serves a token for which nothing was served, unless it fails. -/
theorem responder_arm {bench : Bench harness} {solver : Nat} {identifier : Identifier}
    {keyAuthorization : String} {told : Except AcmeError Handle}
    (admitted : (responder harness).Allows bench (armed solver identifier keyAuthorization told)) :
    (∃ token ready, told = .ok ready ∧ tokenOf keyAuthorization = .ok token ∧
      bench.live ready = none ∧ bench.servers.http.map token = none ∧
      (responder harness).next bench (armed solver identifier keyAuthorization told) =
        { servers :=
            { bench.servers with http := bench.servers.http.insert token keyAuthorization }
          live := fun other => if other = ready then some (.http01 ⟨token⟩) else bench.live other }) ∨
    ∃ failure, told = .error failure ∧
      (responder harness).next bench (armed solver identifier keyAuthorization told) = bench := by
  -- What the caller is told is what the adapter returns when it runs on the servers.
  obtain ⟨⟨⟨outcome, servers⟩, came, reply⟩, unshared⟩ := admitted
  have arming : Bench.arming bench [.http01] solver identifier keyAuthorization
      = some (outcome, servers) := came
  have run := arm_run bench.servers identifier keyAuthorization .http01
  rw [arming_single arming] at run
  cases run with
  -- There is a token: the adapter cannot fail, and its handle is a new one.
  | @http01 token found =>
    cases told with
    | error failure => cases reply
    | ok ready =>
      refine .inl ⟨token, ready, rfl, found, reply, unshared token (by rw [found]; rfl), ?_⟩
      simp only [responder, Acme.Testing.bench, arming]
  -- There is none: the adapter fails and has touched nothing.
  | tokenless failure =>
    cases told with
    | ok ready => cases reply
    | error failure =>
      refine .inr ⟨failure, rfl, ?_⟩
      simp only [responder, Acme.Testing.bench, arming]

variable {up : ι → Option Posting} {bench : Bench harness} {caller : ι}

/-- A response under a token that is not in use leaves the others alone. -/
theorem Sharing.insert (posting : Posting) {token : String} (sharing : Sharing up bench)
    (idle : up caller = none) (found : tokenOf posting.keyAuthorization = .ok token)
    (unused : bench.live posting.ready = none) (free : bench.servers.http.map token = none) :
    Sharing (Function.update up caller (some posting))
      { servers :=
          { bench.servers with http := bench.servers.http.insert token posting.keyAuthorization }
        live := fun other =>
          if other = posting.ready then some (.http01 ⟨token⟩) else bench.live other } := by
  obtain ⟨shelved, tokened⟩ := sharing_iff.mp sharing
  -- The table of handles is updated in one place.
  have live : (fun other => if other = posting.ready then some (.http01 ⟨token⟩)
      else bench.live other) =
        Function.update bench.live posting.ready (some (.http01 ⟨token⟩)) := by
    funext other
    rw [Function.update_apply]
  rw [live]
  refine sharing_iff.mpr ⟨?_, fun other second held => ?_⟩
  · -- The place on the shelf is free, as nothing is served under the token.
    rw [shelf_insert]
    exact shelved.insert idle unused free
  · rcases update_eq_some held with ⟨_, new⟩ | ⟨_, old⟩
    · -- The new response has the token that it was found under.
      obtain rfl := Option.some.inj new
      exact ⟨token, found, Function.update_self ..⟩
    · obtain ⟨own, known, lives⟩ := tokened other second old
      refine ⟨own, known, (Function.update_of_ne ?_ _ _).trans lives⟩
      -- Its handle is in use, and the new one was not.
      intro same
      rw [same, unused] at lives
      cases lives

/-- Taking a response down leaves the others alone. -/
theorem Sharing.remove {posting : Posting} {token : String} (sharing : Sharing up bench)
    (held : up caller = some posting)
    (live : bench.live posting.ready = some (.http01 ⟨token⟩)) :
    Sharing (Function.update up caller none)
      { servers := { bench.servers with http := bench.servers.http.remove token }
        live := fun other => if other = posting.ready then none else bench.live other } := by
  obtain ⟨shelved, tokened⟩ := sharing_iff.mp sharing
  -- Here too the table of handles changes in one place.
  have taken : (fun other => if other = posting.ready then none else bench.live other) =
      Function.update bench.live posting.ready none := by
    funext other
    rw [Function.update_apply]
  rw [taken]
  refine sharing_iff.mpr ⟨?_, fun other second came => ?_⟩
  · -- What is taken from the shelf is what the caller had put there.
    rw [shelf_remove]
    exact shelved.remove held live
  · rcases update_eq_some came with ⟨_, none⟩ | ⟨differs, old⟩
    · -- The caller itself has nothing up any more.
      cases none
    · obtain ⟨own, known, lives⟩ := tokened other second old
      refine ⟨own, known, (Function.update_of_ne ?_ _ _).trans lives⟩
      -- Another caller has another handle.
      intro same
      exact differs (shelved.apart other caller second posting _ old held (same ▸ live) live)

/-- Each call of a caller keeps the server as it should be for all of them. -/
theorem Sharing.step {event : Event calls} (sharing : Sharing up bench)
    (allowed : postings.Allows (up caller) event)
    (admitted : (responder harness).Allows bench event) :
    Sharing (Function.update up caller (postings.next (up caller) event))
      ((responder harness).next bench event) := by
  -- What changes nothing for the caller changes nothing at all.
  have kept : Sharing (Function.update up caller (up caller)) bench := by
    rw [Function.update_eq_self]
    exact sharing
  obtain ⟨call, told⟩ := event
  cases call with
  -- A caller may arm when it has nothing up; the solver either serves the response or fails.
  | arm solver identifier keyAuthorization =>
    rcases responder_arm admitted with ⟨token, ready, rfl, found, unused, free, next⟩ |
      ⟨failure, rfl, next⟩
    · rw [next]
      exact sharing.insert ⟨ready, solver, identifier, keyAuthorization⟩ allowed found unused free
    · rw [next]
      exact kept
  -- A caller drops its own handle, which is how the server knows the token.
  | dropReady ready =>
    cases held : up caller with
    | none =>
      rw [held] at allowed
      cases allowed
    | some posting =>
      rw [held] at allowed
      obtain rfl : posting.ready = ready := Option.some.inj allowed
      obtain ⟨token, _, live, _⟩ := sharing.served caller posting held
      have next : (responder harness).next bench (dropped posting.ready) =
          { servers := { bench.servers with http := bench.servers.http.remove token }
            live := fun other => if other = posting.ready then none else bench.live other } := by
        simp only [responder, Acme.Testing.bench, live, ChallengeReady.drop, Http01Ready.drop]
      rw [next]
      exact sharing.remove held live
  -- Every other call leaves both the caller's response and the server alone.
  | _ => exact kept

/-- At any time, each of a number of issuances has at most one response up. -/
theorem issuances_paired {lib : Libraries} {fuel : ι → Nat} {request : ι → IssueRequest}
    {earlier later : Log ι calls}
    (run : Interleaved (fun caller =>
      (issueCertificateWithTimeouts lib (fuel caller) (request caller)).run) (earlier ++ later))
    (caller : ι) : postings.Admits none (Log.own earlier caller) := by
  -- The calls of one caller so far are the beginning of a run of its issuance.
  obtain ⟨rest, leads⟩ := run.earlier caller
  exact (issuance_posts leads).1

/-- Whichever of them tells the authority to validate a challenge has a response to it up. -/
theorem issuances_announced {lib : Libraries} {fuel : ι → Nat} {request : ι → IssueRequest}
    {earlier later : Log ι calls} {caller : ι} {url : String} {kick : Bytes}
    {reply : Except AcmeError HttpResponse}
    (run : Interleaved (fun caller =>
      (issueCertificateWithTimeouts lib (fuel caller) (request caller)).run)
      (earlier ++ (caller, posted url kick reply) :: later))
    (carries : Carries kick Challenge.kickPayload) :
    ∃ authzUrl authz solver challenge token ready,
      Saw (Authorization.read lib) (Log.own earlier caller) authzUrl authz ∧
      Arms lib (request caller).solvers authz solver challenge token ∧ challenge.url = url ∧
      postings.after none (Log.own earlier caller) = some
        ⟨ready, solver, authz.identifier,
          computeKeyAuthorization lib token (request caller).accountKey⟩ := by
  obtain ⟨rest, leads⟩ := run caller
  -- On its own, the issuance tells the authority only after it has armed.
  have announced := (issuance_posts leads).2
  rw [Log.own_append, Log.own_cons_self, World.chronicle_admits_iff] at announced
  exact announced _ _ _ rfl url kick reply rfl carries

instance (state : Bench harness) : (event : Event calls) → Decidable (Unshared state event)
  | ⟨.arm _ _ keyAuthorization, _⟩ =>
    inferInstanceAs (Decidable (∀ token ∈ (tokenOf keyAuthorization).toOption,
      state.servers.http.map token = none))
  | ⟨.head _, _⟩ | ⟨.get _, _⟩ | ⟨.postJose _ _, _⟩ | ⟨.popFront, _⟩ | ⟨.pushBack _, _⟩
  | ⟨.isEmpty, _⟩ | ⟨.clear, _⟩ | ⟨.selfCheck _, _⟩ | ⟨.dropReady _, _⟩ | ⟨.now, _⟩
  | ⟨.sleep _, _⟩ => .isTrue trivial

instance (state : Bench harness) (event : Event calls) :
    Decidable ((responder harness).Allows state event) :=
  inferInstanceAs (Decidable (_ ∧ _))

/-- The trace and the outcome of an operation whose solvers return some handle. -/
def playArmed {α : Type} (ready : Handle) (script : List (Except AcmeError HttpResponse))
    (operation : Client α) : History × Except Stop α :=
  operation.run.play
    (fun history call => match call with
      | .arm _ _ _ => .ok ready
      | call => scripted script history call) []

/-- It is a run of the operation. -/
theorem playArmed_ends {α : Type} (ready : Handle)
    (script : List (Except AcmeError HttpResponse)) (operation : Client α) :
    operation.Ends (playArmed ready script operation).1 (playArmed ready script operation).2 :=
  Program.play_returns _ _ _

-- Like other runs, it is evaluated by `decide` alone.
attribute [irreducible] playArmed

/-- Two runs that begin one after the other, and go on one after the other. -/
def crossed (count : Nat) (trace : Bool → History) : Log Bool calls :=
  Log.solo true ((trace true).take count) ++ Log.solo false ((trace false).take count) ++
    Log.solo true ((trace true).drop count) ++ Log.solo false ((trace false).drop count)

/-- Each of them makes all its calls. -/
theorem own_crossed (count : Nat) (trace : Bool → History) (caller : Bool) :
    Log.own (crossed count trace) caller = trace caller := by
  simp only [crossed, Log.own_append]
  cases caller with
  -- The calls of a caller are cut in two, with those of the other in between.
  | true =>
    rw [Log.own_solo_self, Log.own_solo_self, Log.own_solo_other (by simp),
      Log.own_solo_other (by simp), List.append_nil, List.append_nil, List.take_append_drop]
  | false =>
    rw [Log.own_solo_self, Log.own_solo_self, Log.own_solo_other (by simp),
      Log.own_solo_other (by simp), List.nil_append, List.append_nil, List.take_append_drop]

end Acme.Testing
