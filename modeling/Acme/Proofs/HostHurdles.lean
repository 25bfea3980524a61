import Acme.Proofs.HostResources

/-! Why an exchange can come to no response: what the host has put in its way. -/

namespace Acme.Http

open Interaction

/-- What has stood in the way of an exchange. -/
structure Hurdles where
  /-- The host has refused a call, or has reported a failure. -/
  refused : Bool
  /-- The response has been waited for. -/
  waited : Bool
  /-- There was none after the wait. -/
  missing : Bool
  /-- How often a permit to write was asked for, or the stream of the response was read. -/
  turns : Nat
deriving DecidableEq

/-- Nothing has stood in the way. -/
def Hurdles.none : Hurdles where
  refused := false
  waited := false
  missing := false
  turns := 0

/-- The host refuses a call, or reports a failure. -/
def refuses : Event hostCalls → Bool
  | ⟨.append _ _, .error _⟩ | ⟨.finish, .error _⟩ | ⟨.handle, .error _⟩
  | ⟨.setMethod _, .error _⟩ | ⟨.setScheme _, .error _⟩ | ⟨.setAuthority _, .error _⟩
  | ⟨.setPathWithQuery _, .error _⟩ | ⟨.requestBody, .error _⟩ | ⟨.consume, .error _⟩
  | ⟨.bodyStream, .error _⟩ | ⟨.body .bodyWrite, .error _⟩ | ⟨.body .checkWrite, .error _⟩
  | ⟨.body (.write _), .error _⟩ | ⟨.body .flush, .error _⟩
  | ⟨.futureGet, some (.error _)⟩ | ⟨.futureGet, some (.ok (.error _))⟩
  -- That the stream is closed is the ordinary end of a response.
  | ⟨.read _, .error (.lastOperationFailed _)⟩ => true
  | _ => false

/-- The host has no response to give. -/
def withholds : Event hostCalls → Bool
  | ⟨.futureGet, .none⟩ => true
  | _ => false

/-- A turn of one of the two loops. -/
def takesTurn : Event hostCalls → Bool
  | ⟨.body .checkWrite, _⟩ | ⟨.read _, _⟩ => true
  | _ => false

/-- The response is waited for. -/
def isWait : Event hostCalls → Bool
  | ⟨.futureBlock, _⟩ => true
  | _ => false

/-- What stands in the way after an answered call. -/
def Hurdles.next (hurdles : Hurdles) (event : Event hostCalls) : Hurdles where
  refused := refuses event || hurdles.refused
  waited := isWait event || hurdles.waited
  missing := (withholds event && hurdles.waited) || hurdles.missing
  turns := hurdles.turns + if takesTurn event then 1 else 0

/-- A host that may answer anything, and what it has put in the way. -/
def hindering : World hostCalls Hurdles where
  Allows _ _ := True
  next := Hurdles.next

/-- What stood in the way of a run of an exchange. -/
def met (trace : HostHistory) : Hurdles :=
  hindering.after .none trace

/-- Why an exchange stopped: the host is to blame, or the loops have used up their turns. -/
def Hindered (fuel : Nat) (stop : Stop) (hurdles : Hurdles) : Prop :=
  match stop with
  | .error failure => (∃ message, failure = .transport message) ∧ hurdles.refused = true
  -- The client relies on a response after the wait.
  | .panic message => message = "future-incoming-response resolved after block" ∧
      hurdles.missing = true
  | .unfinished => fuel ≤ hurdles.turns

/-- A part of an exchange stops only when it was hindered. -/
abbrev Excused {α : Type} (fuel : Nat) (program : Host α) : Prop :=
  Fallible.Blames hindering (Hindered fuel) program

variable {α : Type} {fuel : Nat} {hurdles : Hurdles} {stop : Stop}

/-- With fewer turns there is less to excuse. -/
theorem Hindered.fewer {more : Nat} (hindered : Hindered more stop hurdles)
    (fewer : fuel ≤ more) : Hindered fuel stop hurdles := by
  -- The number of turns only matters to a run that is cut short.
  cases stop with
  | error | panic => exact hindered
  | unfinished => exact fewer.trans hindered

/-- What stands in the way stays there. -/
theorem Hindered.next (hindered : Hindered fuel stop hurdles) (event : Event hostCalls) :
    Hindered fuel stop (hurdles.next event) := by
  -- What the host has done is not undone by what it does next.
  cases stop with
  | error failure => exact ⟨hindered.1, by simp [Hurdles.next, hindered.2]⟩
  | panic message => exact ⟨hindered.1, by simp [Hurdles.next, hindered.2]⟩
  | unfinished => exact hindered.trans (Nat.le_add_right _ _)

/-- What is owned may be dropped on the way out. -/
theorem excused_owned {resources : List Resource} {program : Host α}
    (excused : Excused fuel program) : Excused fuel (owned resources program) := by
  have dropping : ∀ {stop hurdles}, Hindered fuel stop hurdles →
      (dropAll resources).Safe hindering hurdles fun _ last => Hindered fuel stop last := by
    intro stop hurdles hindered
    induction resources generalizing hurdles with
    | nil => exact hindered
    | cons resource rest ih => exact fun _ => ⟨trivial, ih (hindered.next _)⟩
  refine Fallible.Blames.cleaning excused fun failure state hindered => ?_
  -- Only an error has anything dropped.
  cases failure with
  | error failure => exact dropping hindered
  | panic | unfinished => exact hindered

/-- A call that cannot fail needs no excuse. -/
theorem excused_simply (call : HostCall) : Excused fuel (simply call) :=
  Fallible.blames_ask (fun _ _ => trivial) (by rintro _ _ _ ⟨⟩)

/-- A call that is read as a failure of the transport was refused. -/
theorem excused_ask {call : HostCall} {read : hostCalls.Reply call → Except Stop α}
    (refused : ∀ reply stop, read reply = .error stop →
      (∃ message, stop = .error (.transport message)) ∧ refuses ⟨call, reply⟩ = true) :
    Excused fuel (Fallible.ask (S := hostCalls) call read) := by
  -- A failure comes from a refusal, which has just been noted.
  refine Fallible.blames_ask (fun _ _ => trivial) fun state reply stop same => ?_
  obtain ⟨⟨message, rfl⟩, noted⟩ := refused reply stop same
  exact ⟨⟨message, rfl⟩, by simp [hindering, Hurdles.next, noted]⟩

/-- Setting the headers fails when the host refuses one of them. -/
theorem setHeaders_excused (authority : String) (body : Option JoseBody) :
    Excused fuel (setHeaders authority body) := by
  have appending : ∀ what name value, Excused fuel (append what name value) := by
    intro what name value
    refine excused_ask ?_
    rintro (failure | _) _ ⟨⟩
    exact ⟨⟨_, rfl⟩, rfl⟩
  refine excused_owned ((appending _ _ _).bind fun _ => ?_)
  -- Without a body there is no second header.
  cases body with
  | none => exact Fallible.blames_pure
  | some jose => exact appending _ _ _

/-- What stands in the way while a body is written. -/
abbrev hinderingBody : World calls Hurdles :=
  hindering.through fun event => ⟨.body event.call, event.reply⟩

/-- A part of writing a body stops only when it was hindered. -/
abbrev ExcusedWriter (fuel : Nat) (program : Writer α) : Prop :=
  Fallible.Blames hinderingBody (Hindered fuel) program

/-- A call of the writer that is read as a failure of the transport was refused. -/
theorem excusedWriter_ask {call : Call} {read : calls.Reply call → Except Stop α}
    (refused : ∀ reply stop, read reply = .error stop →
      (∃ message, stop = .error (.transport message)) ∧
        refuses ⟨.body call, reply⟩ = true) :
    ExcusedWriter fuel (Fallible.ask (S := calls) call read) := by
  -- So it is for the calls about a body.
  refine Fallible.blames_ask (fun _ _ => trivial) fun state reply stop same => ?_
  obtain ⟨⟨message, rfl⟩, noted⟩ := refused reply stop same
  exact ⟨⟨message, rfl⟩, by simp [World.through, hindering, Hurdles.next, noted]⟩

/-- The turns of the writer end when it is hindered, or used up. -/
theorem writeChunks_hindered (fuel : Nat) (data : Bytes) (hurdles : Hurdles) :
    Fallible.Safe hinderingBody hurdles (writeChunks fuel data) fun outcome reached =>
      ∀ stop, outcome = .error stop → Hindered (hurdles.turns + fuel) stop reached := by
  -- By induction on the turns, each of which asks for a permit.
  induction fuel generalizing data hurdles with
  | zero =>
    by_cases left : data = []
    · subst left
      -- An empty body is written without a turn.
      rintro _ ⟨⟩
    · simp only [writeChunks, if_neg left]
      rintro _ ⟨⟩
      -- All turns are used up.
      exact Nat.le_refl _
  | succ fuel ih =>
    by_cases left : data = []
    · subst left
      rw [writeChunks_nil]
      rintro _ ⟨⟩
    · rw [writeChunks_succ left]
      -- A turn waits, asks for a permit, and writes when there is one.
      refine Fallible.safe_bind.mpr fun _ => ⟨trivial, ?_⟩
      refine Fallible.safe_bind.mpr fun permission => ⟨trivial, ?_⟩
      rcases permission with failure | permit
      · rintro _ ⟨⟩
        exact ⟨⟨_, rfl⟩, rfl⟩
      -- The turn that was taken is one of those that are left.
      have others : ∀ data' reached, reached.turns = hurdles.turns + 1 →
          Fallible.Safe hinderingBody reached (writeChunks fuel data') fun outcome last =>
            ∀ stop, outcome = .error stop →
              Hindered (hurdles.turns + (fuel + 1)) stop last := by
        intro data' reached taken
        refine Program.Safe.mono (ih data' reached) fun outcome last ends stop same => ?_
        exact (ends stop same).fewer (by omega)
      show Fallible.Safe hinderingBody _ (if asUsize permit = 0 then _ else _) _
      split
      · exact others data _ rfl
      · refine Fallible.safe_bind.mpr fun answer => ⟨trivial, ?_⟩
        rcases answer with failure | ⟨⟩
        · rintro _ ⟨⟩
          exact ⟨⟨_, rfl⟩, rfl⟩
        · exact others _ _ rfl

/-- Writing a body stops only when it is hindered, or its turns are used up. -/
theorem writeAll_excused (fuel : Nat) (data : Bytes) :
    ExcusedWriter fuel (writeAll fuel data) := by
  -- The calls without a result do not fail.
  have simple : ∀ call : Call,
      ExcusedWriter fuel (Fallible.ask (S := calls) call fun _ => (.ok () : Except Stop Unit)) :=
    fun call => Fallible.blames_ask (fun _ _ => trivial) (by rintro _ _ _ ⟨⟩)
  -- The turns are counted from the start of the body.
  have chunks : ExcusedWriter fuel (writeChunks fuel data) := fun hurdles =>
    Program.Safe.mono (writeChunks_hindered fuel data hurdles) fun outcome reached ends stop same =>
      (ends stop same).fewer (Nat.le_add_left _ _)
  unfold writeAll
  split
  · exact Fallible.blames_pure
  -- The stream may be refused, and so may the flush.
  have opening : ExcusedWriter fuel bodyWrite := excusedWriter_ask (by
    rintro (failure | _) _ ⟨⟩
    exact ⟨⟨_, rfl⟩, rfl⟩)
  have flushing : ExcusedWriter fuel flush := excusedWriter_ask (by
    rintro (failure | _) _ ⟨⟩
    exact ⟨⟨_, rfl⟩, rfl⟩)
  refine opening.bind fun _ => (simple .subscribe).bind fun _ => ?_
  refine Fallible.Blames.bind (Fallible.Blames.cleaning
    (chunks.bind fun _ => flushing.bind fun _ => simple .block) ?_)
    fun _ => (simple .dropPollable).bind fun _ => simple .dropStream
  -- The stream and its pollable fall with a failure.
  intro stop state hindered
  cases stop with
  | unfinished => exact hindered
  | error | panic => exact fun _ => ⟨trivial, fun _ => ⟨trivial, (hindered.next _).next _⟩⟩

/-- Filling a request stops only when it is hindered, or its turns are used up. -/
theorem fillRequest_excused (fuel : Nat) (method : Method) (scheme : Scheme)
    (authority path : String) (body : Option JoseBody) :
    Excused fuel (fillRequest fuel method scheme authority path body) := by
  have writing : ∀ data, Excused fuel (writing (writeAll fuel data)) := fun data hurdles =>
    Fallible.Safe.handled (writeAll_excused fuel data hurdles) fun _ _ _ _ => ⟨trivial, rfl⟩
  -- Each setter is refused or not, and the others follow.
  refine excused_owned ((excused_ask ?_).bind fun _ => (excused_ask ?_).bind fun _ =>
    (excused_ask ?_).bind fun _ => (excused_ask ?_).bind fun _ => (excused_ask ?_).bind fun _ =>
    (excused_owned ?_).bind fun _ => excused_ask ?_)
  -- The body is written, if there is one.
  case refine_6 =>
    cases body with
    | none => exact Fallible.blames_pure
    | some jose => exact writing jose.bytes
  all_goals
    rintro (failure | _) _ ⟨⟩
    exact ⟨⟨_, rfl⟩, rfl⟩

/-- Reading a body ends when the stream fails, or its turns are used up. -/
theorem readChunks_hindered (fuel : Nat) (body : Bytes) (hurdles : Hurdles) :
    Fallible.Safe hindering hurdles (readChunks fuel body) fun outcome reached =>
      ∀ stop, outcome = .error stop → Hindered (hurdles.turns + fuel) stop reached := by
  -- By induction on the turns, each of which reads once.
  induction fuel generalizing body hurdles with
  | zero =>
    rintro _ ⟨⟩
    exact Nat.le_refl _
  | succ fuel ih =>
    refine safe_then (fun _ => trivial) fun _ => safe_then (fun _ => trivial) fun answer => ?_
    rcases answer with failure | chunk
    · cases failure with
      -- The end of the body is no failure.
      | closed => rintro _ ⟨⟩
      | lastOperationFailed debug =>
        rintro _ ⟨⟩
        exact ⟨⟨_, rfl⟩, rfl⟩
    · refine Program.Safe.mono (ih _ _) fun outcome last ends stop same => ?_
      refine (ends stop same).fewer ?_
      -- The turn that was taken is one of those that are left.
      show hurdles.turns + (fuel + 1) ≤ hurdles.turns + 0 + 1 + fuel
      omega

/-- Reading a response stops only when it is hindered, or its turns are used up. -/
theorem readResponse_excused (fuel : Nat) : Excused fuel (readResponse fuel) := by
  -- The turns are counted from the start of the body.
  have reading : Excused fuel (readChunks fuel []) := fun hurdles =>
    Program.Safe.mono (readChunks_hindered fuel [] hurdles) fun outcome reached ends stop same =>
      (ends stop same).fewer (Nat.le_add_left _ _)
  refine (excused_simply _).bind fun status => (excused_simply _).bind fun _ =>
    (excused_simply _).bind fun headers => (excused_simply _).bind fun _ =>
    (excused_owned (excused_ask ?_)).bind fun _ => (excused_simply _).bind fun _ =>
    (excused_owned (excused_ask ?_)).bind fun _ => (excused_simply _).bind fun _ =>
    (excused_owned reading).bind fun _ => (excused_simply _).bind fun _ =>
    (excused_simply _).bind fun _ => (excused_simply _).bind fun _ => Fallible.blames_pure
  -- The body and its stream can be refused.
  all_goals
    rintro (failure | _) _ ⟨⟩
    exact ⟨⟨_, rfl⟩, rfl⟩

/-- An answer that is no response was noted as a refusal. -/
def Noted (hurdles : Hurdles) (answer : Except Unit (Except String Unit)) : Prop :=
  answer ≠ .ok (.ok ()) → hurdles.refused = true

/-- What the host answers at last is noted; when it answers nothing, the client panics. -/
theorem awaitResponse_hindered (fuel : Nat) (hurdles : Hurdles) :
    Fallible.Safe hindering hurdles awaitResponse fun outcome reached => match outcome with
      | .ok answer => Noted reached answer
      | .error stop => Hindered fuel stop reached := by
  -- An answer that is no response has been noted as such.
  have noting : ∀ {hurdles : Hurdles} {answer : Except Unit (Except String Unit)},
      Noted (hurdles.next ⟨.futureGet, some answer⟩) answer := by
    rintro hurdles (failure | failure | ⟨⟩) other
    · rfl
    · rfl
    · exact absurd rfl other
  refine safe_then (fun _ => trivial) fun answer => ?_
  rcases answer with _ | answer
  · refine safe_then (fun _ => trivial) fun _ => safe_then (fun _ => trivial) fun _ => ?_
    -- From here on the response has been waited for.
    refine safe_then (fun _ => trivial) fun answer => ?_
    rcases answer with _ | answer
    · -- There is none after the wait, which is the one reason to panic.
      exact ⟨rfl, rfl⟩
    · exact safe_then (fun _ => trivial) fun _ => noting
  · exact noting

/-- Dispatching a request stops only when it is hindered, or its turns are used up. -/
theorem dispatchAndRead_excused (fuel : Nat) : Excused fuel (dispatchAndRead fuel) := by
  -- The response is waited for, and may be missing, an error, or taken already.
  have waiting : Excused fuel (do
      let answer ← Fallible.ofExcept
        (refusing "future-incoming-response already taken" (← awaitResponse))
      (Fallible.ofExcept (failing "response error" answer) : Host Unit)) := by
    intro hurdles
    refine Fallible.safe_bind.mpr (Program.Safe.mono (awaitResponse_hindered fuel hurdles) ?_)
    rintro (stop | answer) reached noted
    · rintro _ ⟨⟩
      exact noted
    -- An answer that is no response is a failure of the transport.
    rcases answer with ⟨⟩ | failure | ⟨⟩
    · rintro _ ⟨⟩
      exact ⟨⟨_, rfl⟩, noted (by simp)⟩
    · rintro _ ⟨⟩
      exact ⟨⟨_, rfl⟩, noted (by simp)⟩
    · rintro _ ⟨⟩
  refine (excused_ask ?_).bind fun _ => (excused_owned waiting).bind fun _ =>
    (excused_simply _).bind fun _ => readResponse_excused fuel
  -- The host may refuse the request itself.
  rintro (failure | _) _ ⟨⟩
  exact ⟨⟨_, rfl⟩, rfl⟩

/-- A URL that cannot be read is a failure of the transport. -/
theorem parseUrl_fails {url : String} {failure : AcmeError} (failed : parseUrl url = .error failure) :
    ∃ message, failure = .transport message := by
  unfold parseUrl at failed
  -- There are two failures, and both are of the transport.
  split at failed
  · exact ⟨_, (Except.error.inj failed).symm⟩
  · dsimp only at failed
    split at failed
    · exact ⟨_, (Except.error.inj failed).symm⟩
    · cases failed

/-- An exchange stops when its URL cannot be read, when it is hindered, or when it is cut short. -/
theorem roundTrip_excused (fuel : Nat) (method : Method) (url : String) (body : Option JoseBody)
    (hurdles : Hurdles) :
    Fallible.Safe hindering hurdles (roundTrip fuel method url body) fun outcome reached =>
      ∀ stop, outcome = .error stop →
        (∃ failure, parseUrl url = .error failure ∧ stop = .error failure ∧
          ∃ message, failure = .transport message) ∨ Hindered fuel stop reached := by
  refine Fallible.safe_bind.mpr (Fallible.safe_ofExcept.mpr ?_)
  cases parsed : parseUrl url with
  -- The host has not been asked for anything.
  | error failure =>
    rintro _ ⟨⟩
    exact .inl ⟨failure, rfl, rfl, parseUrl_fails parsed⟩
  | ok parts =>
    -- From there on every failure is the host's.
    have sending : Excused fuel (do
        let _ ← simply .newFields
        setHeaders parts.2.1 body
        let _ ← simply .newRequest
        fillRequest fuel method parts.1 parts.2.1 parts.2.2 body
        dispatchAndRead fuel) :=
      (excused_simply _).bind fun _ => (setHeaders_excused _ _).bind fun _ =>
        (excused_simply _).bind fun _ => (fillRequest_excused _ _ _ _ _ _).bind fun _ =>
          dispatchAndRead_excused fuel
    exact Program.Safe.mono (sending hurdles) fun outcome reached hindered stop same =>
      .inr (hindered stop same)

end Acme.Http
