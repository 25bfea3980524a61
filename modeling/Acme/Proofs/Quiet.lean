import Acme.Proofs.Purposes

/-! The parts of an issuance in which no solver is called and no challenge is to be validated. -/

namespace Acme

open Interaction

/-- A call to a solver or to one of its handles. -/
def isSolver : Event calls → Bool
  | ⟨.arm _ _ _, _⟩ | ⟨.selfCheck _, _⟩ | ⟨.dropReady _, _⟩ => true
  | _ => false

/-- Neither solvers nor their handles are called. -/
def Quiet (trace : History) : Prop :=
  ∀ event ∈ trace, isSolver event = false

/-- No response is provisioned, and the authority is not told to validate one. -/
structure Uninvolved (trace : History) : Prop where
  quiet : Quiet trace
  sends : Sends (fun _ payload => payload ≠ Challenge.kickPayload) trace

variable {lib : Libraries} {account : Account} {trace : History}

/-- Both parts of a trace are quiet, so the whole is. -/
theorem Quiet.append {later : History} (first : Quiet trace) (second : Quiet later) :
    Quiet (trace ++ later) :=
  List.forall_mem_append.mpr ⟨first, second⟩

/-- Calls that are not to a solver are quiet. -/
theorem Quiet.cons {event : Event calls} (silent : isSolver event = false) (rest : Quiet trace) :
    Quiet (event :: trace) :=
  List.forall_mem_cons.mpr ⟨silent, rest⟩

/-- Where nothing happens, it is quiet. -/
theorem quiet_nil : Quiet [] := nofun

/-- A signed request takes no call to a solver or the clock. -/
theorem Reads.plain {α : Type} {store : ReplayNonceStore} {sign : String → Except Stop Bytes}
    {url : String} {read : HttpResponse → Except AcmeError α} {outcome : Except Stop α}
    (reads : Reads store sign url read trace outcome) :
    ∀ event ∈ trace, isAside event = false := by
  intro event member
  obtain ⟨exchanged, run, _⟩ := reads
  -- Neither the calls of the store nor the POST are among those calls.
  rcases run.storeCall event member with store | ⟨body, reply, rfl⟩
  · cases store <;> rfl
  · rfl

/-- Solvers are called aside from requests. -/
theorem isSolver_of_plain {event : Event calls} (plain : isAside event = false) :
    isSolver event = false := by
  obtain ⟨call, answer⟩ := event
  -- The calls that concern a solver are aside.
  cases call <;> first | rfl | cases plain

/-- A signed request is quiet. -/
theorem Reads.quiet {α : Type} {store : ReplayNonceStore} {sign : String → Except Stop Bytes}
    {url : String} {read : HttpResponse → Except AcmeError α} {outcome : Except Stop α}
    (reads : Reads store sign url read trace outcome) : Quiet trace :=
  fun event member => isSolver_of_plain (reads.plain event member)

/-- Two parts in which nothing is provisioned make one. -/
theorem Uninvolved.append {later : History} (first : Uninvolved trace) (second : Uninvolved later) :
    Uninvolved (trace ++ later) where
  quiet := first.quiet.append second.quiet
  sends := first.sends.append second.sends

/-- A call that is neither a POST nor to a solver changes nothing about that. -/
theorem Uninvolved.cons {event : Event calls} (other : isPost event = false)
    (silent : isSolver event = false) (rest : Uninvolved trace) : Uninvolved (event :: trace) where
  quiet := rest.quiet.cons silent
  sends := rest.sends.cons other

/-- Where nothing happens, nothing is provisioned. -/
theorem uninvolved_nil : Uninvolved [] := ⟨quiet_nil, sends_nil⟩

/-- A question is not the word to validate. -/
theorem Asks.uninvolved {α : Type} {url : String} {payload : Bytes}
    {read : HttpResponse → Except AcmeError α} {outcome : Except Stop α}
    (other : payload ≠ Challenge.kickPayload)
    (asks : Asks lib account url payload read trace outcome) : Uninvolved trace where
  quiet := Reads.quiet asks
  sends := asks.sends.mono fun _ content sent => by rw [sent.2]; exact other

/-- The empty payload is not the word to validate. -/
theorem nil_ne_kickPayload : ([] : Bytes) ≠ Challenge.kickPayload := by
  decide

/-- An object with members is not the empty one that is the word to validate. -/
theorem toVec_object_ne_kickPayload (lib : Libraries) {members : List (String × Json)}
    (some : members ≠ []) : toVec (lib.object members) ≠ Challenge.kickPayload := by
  intro same
  -- The bytes of a text determine it.
  have texts := congrArg Utf8.text same
  rw [toVec, Challenge.kickPayload, Utf8.text_bytes, Utf8.text_bytes] at texts
  have rendered : (lib.object members).render = ['{', '}'] :=
    String.ofList_inj.mp (Option.some.inj texts)
  -- Sorting leaves the members there, and a member has a quoted name.
  obtain ⟨listed, shape, kept⟩ : ∃ listed, lib.object members = .obj listed ∧ listed ≠ [] := by
    unfold Libraries.object
    split
    · exact ⟨members, rfl, some⟩
    · refine ⟨_, rfl, fun empty => some ?_⟩
      have count := List.length_insertionSort (fun a b : String × Json => a.1 ≤ b.1) members
      rw [empty] at count
      exact List.eq_nil_of_length_eq_zero count.symm
  -- Its text is longer than that of the empty object.
  rw [shape] at rendered
  cases listed with
  | nil => exact kept rfl
  | cons first rest =>
    cases rest <;> simp [Json.render, Json.renderMembers, Json.quote] at rendered

/-- Closing an order provisions nothing. -/
theorem ClosingRun.uninvolved {request : IssueRequest} {order : Order}
    {outcome : Except Stop Bytes} (run : ClosingRun lib request account order trace outcome) :
    Uninvolved trace := by
  -- A certificate request is no word to validate.
  have submitting : ∀ {csrDer trace outcome},
      Asks lib account order.finalize (Certificate.csrPayload lib csrDer)
        (HttpResponse.accepted lib) trace outcome → Uninvolved trace := fun asked =>
    asked.uninvolved (toVec_object_ne_kickPayload lib (by simp))
  -- Finalizing is that request, and a loop of questions.
  have finalizing : ∀ {trace outcome},
      FinalizeRun lib order request.certKey account request.finalizeTimeout
        (Duration.fromSecs 2) trace outcome → Uninvolved trace := by
    intro trace outcome run
    cases run with
    | unbuilt failure => exact uninvolved_nil
    | unsubmitted _ asked => exact submitting asked
    | endless _ asked => exact (submitting asked).append (uninvolved_nil.cons rfl rfl)
    | polled _ asked _ polling =>
      -- The loop asks with the empty payload, and has no handle to let go.
      have polls : Uninvolved _ :=
        { quiet := polling.forall_mem (fun question => Reads.quiet (asks_run question))
            (fun _ => rfl) rfl fun _ owned => by cases owned
          sends := polling.sends fun question =>
            ((asks_run question).uninvolved nil_ne_kickPayload).sends }
      exact (submitting asked).append (polls.cons rfl rfl)
  cases run with
  | unfinalized finalized => exact finalizing finalized
  -- The download is one more question.
  | finalized finalized _ asked =>
    exact (finalizing finalized).append (asked.uninvolved nil_ne_kickPayload)

/-- Creating the account provisions nothing. -/
theorem registration_uninvolved {directory : Directory} {contact : List String}
    {key : AccountKey} {outcome : Except Stop Account}
    (run : (Account.create lib directory contact true key).Ends trace outcome) :
    Uninvolved trace where
  -- An account is made without a solver, by a payload of its own.
  quiet := (create_run run).quiet
  sends := (Reads.sends (fun _ _ signed => ⟨_, says_jwk signed⟩) (create_run run)).mono
    fun _ _ sent => by
      rw [sent.2]
      exact toVec_object_ne_kickPayload lib (by simp)

end Acme
