import Mathlib.Data.List.Basic

/-! Programs as trees of calls to their surroundings, and the traces those calls leave behind. -/

namespace Interaction

/-- The calls a program can make, with the type of the reply each one receives. -/
structure Signature where
  /-- One request to the surroundings. -/
  Call : Type
  /-- What the surroundings may answer to it. -/
  Reply : Call → Type

/-- A program has a value, or makes one call and continues with whatever is replied. -/
inductive Program (S : Signature) (α : Type) where
  /-- The program has finished. -/
  | done (value : α)
  /-- The program waits for a reply. -/
  | call (request : S.Call) (next : S.Reply request → Program S α)

/-- One call together with the reply it received. -/
structure Event (S : Signature) where
  call : S.Call
  reply : S.Reply call

/-- What was called and answered, in order. -/
abbrev Trace (S : Signature) := List (Event S)

variable {S : Signature} {α β : Type}

/-- Events can be compared when calls and replies can. -/
instance [DecidableEq S.Call] [∀ call, DecidableEq (S.Reply call)] : DecidableEq (Event S)
  | ⟨call, reply⟩, ⟨other, answer⟩ =>
    -- Only replies to the same call are of the same type.
    if same : call = other then
      decidable_of_iff (same ▸ reply = answer) (by subst same; simp)
    else .isFalse (by simp [same])

namespace Program

/-- Continue with a second program once the first has a value. -/
def bind : Program S α → (α → Program S β) → Program S β
  | .done value, rest => rest value
  | .call request next, rest => .call request fun reply => (next reply).bind rest

instance : Monad (Program S) where
  pure := .done
  bind := bind

@[simp] theorem pure_eq (value : α) : (pure value : Program S α) = .done value := rfl

@[simp] theorem bind_eq (program : Program S α) (rest : α → Program S β) :
    (program >>= rest) = program.bind rest := rfl

@[simp] theorem done_bind (value : α) (rest : α → Program S β) :
    (Program.done value).bind rest = rest value := rfl

@[simp] theorem call_bind (request : S.Call) (next : S.Reply request → Program S α)
    (rest : α → Program S β) :
    (Program.call request next).bind rest
      = .call request fun reply => (next reply).bind rest := rfl

/-- Continuing with nothing changes nothing. -/
theorem bind_done (program : Program S α) : program.bind .done = program := by
  -- The continuation is pushed past every call, and nothing is left of it at the end.
  induction program with
  | done value => rfl
  | call request next ih => simp only [call_bind, ih]

/-- Nested continuations can be regrouped. -/
theorem bind_assoc {γ : Type} (program : Program S α) (middle : α → Program S β)
    (last : β → Program S γ) :
    (program.bind middle).bind last = program.bind fun value => (middle value).bind last := by
  -- Both sides make the calls of the first program and then meet in its value.
  induction program with
  | done value => rfl
  | call request next ih => simp only [call_bind, ih]

-- The three laws of sequencing let later proofs regroup `do` blocks.
instance : LawfulMonad (Program S) :=
  LawfulMonad.mk' (Program S) bind_done (fun _ _ => rfl) bind_assoc

/-- The program becomes another one after the calls of a trace have been answered. -/
inductive Leads : Program S α → Trace S → Program S α → Prop where
  /-- No call has been made yet. -/
  | refl (program : Program S α) : Leads program [] program
  /-- The first call is answered, and its reply selects the rest. -/
  | step {request : S.Call} {next : S.Reply request → Program S α} {reply : S.Reply request}
      {trace : Trace S} {rest : Program S α} (later : Leads (next reply) trace rest) :
      Leads (.call request next) (⟨request, reply⟩ :: trace) rest

/-- The program finishes with a value after exactly the calls of a trace. -/
def Returns (program : Program S α) (trace : Trace S) (value : α) : Prop :=
  program.Leads trace (.done value)

/-- A finished program makes no further calls. -/
@[simp] theorem leads_done {value : α} {trace : Trace S} {rest : Program S α} :
    (Program.done value).Leads trace rest ↔ trace = [] ∧ rest = .done value := by
  constructor
  · -- No step starts from a value.
    intro leads
    cases leads
    exact ⟨rfl, rfl⟩
  · intro finished
    obtain ⟨rfl, rfl⟩ := finished
    exact .refl _

/-- A waiting program either still waits, or continues with some reply. -/
theorem leads_call {request : S.Call} {next : S.Reply request → Program S α}
    {trace : Trace S} {rest : Program S α} :
    (Program.call request next).Leads trace rest ↔
      (trace = [] ∧ rest = .call request next) ∨
      ∃ reply later, trace = ⟨request, reply⟩ :: later ∧ (next reply).Leads later rest := by
  constructor
  · -- The two rules are the two alternatives.
    intro leads
    cases leads with
    | refl => exact .inl ⟨rfl, rfl⟩
    | step later => exact .inr ⟨_, _, rfl, later⟩
  · intro either
    rcases either with ⟨rfl, rfl⟩ | ⟨reply, later, rfl, leads⟩
    · exact .refl _
    · exact .step leads

/-- A value is returned at once, without calling anything. -/
@[simp] theorem returns_done {value result : α} {trace : Trace S} :
    (Program.done value).Returns trace result ↔ trace = [] ∧ result = value := by
  simp [Returns]

/-- A call is answered before the value is returned. -/
@[simp] theorem returns_call {request : S.Call} {next : S.Reply request → Program S α}
    {trace : Trace S} {result : α} :
    (Program.call request next).Returns trace result ↔
      ∃ reply later, trace = ⟨request, reply⟩ :: later ∧ (next reply).Returns later result := by
  simp [Returns, leads_call]

/-- A run can be interrupted after any prefix of its trace. -/
theorem Leads.split {first last : Program S α} {earlier later : Trace S}
    (leads : first.Leads (earlier ++ later) last) :
    ∃ middle, first.Leads earlier middle ∧ middle.Leads later last := by
  -- The prefix decides how many answered calls are peeled off before stopping.
  induction earlier generalizing first with
  | nil => exact ⟨first, .refl _, leads⟩
  | cons event earlier ih =>
    cases leads with
    | step rest =>
      obtain ⟨middle, before, after⟩ := ih rest
      exact ⟨middle, .step before, after⟩

/-- A program that waits for a reply goes on with any reply that it may get. -/
theorem Leads.answered {first : Program S α} {request : S.Call}
    {next : S.Reply request → Program S α} {earlier : Trace S}
    (leads : first.Leads earlier (.call request next)) (reply : S.Reply request) :
    first.Leads (earlier ++ [⟨request, reply⟩]) (next reply) := by
  -- The calls that were answered before stay in front of the new one.
  generalize waiting : Program.call request next = middle at leads
  induction leads with
  | refl => exact waiting ▸ .step (.refl _)
  | step _ ih => exact .step (ih waiting)

/-- Before a call is answered, the program waits for its reply. -/
theorem Leads.waiting {first last : Program S α} {earlier later : Trace S} {event : Event S}
    (leads : first.Leads (earlier ++ event :: later) last) :
    ∃ next, first.Leads earlier (.call event.call next) := by
  obtain ⟨middle, before, after⟩ := leads.split
  -- Only a program that makes this very call can go on with this event.
  cases after with
  | step => exact ⟨_, before⟩

/-- A finished sequence splits into a finished first part and a finished second part. -/
@[simp] theorem returns_bind {program : Program S α} {rest : α → Program S β} {trace : Trace S}
    {result : β} :
    (program.bind rest).Returns trace result ↔
      ∃ value earlier later, trace = earlier ++ later ∧ program.Returns earlier value ∧
        (rest value).Returns later result := by
  -- The trace is divided at the call after which the first part has its value.
  induction program generalizing trace with
  | done value => simp
  | call request next ih =>
    simp only [call_bind, returns_call, ih]
    constructor
    · -- The answered call is the first one of the first part.
      intro answered
      obtain ⟨reply, _, rfl, value, earlier, later, rfl, first, second⟩ := answered
      exact ⟨value, _, later, rfl, ⟨reply, earlier, rfl, first⟩, second⟩
    · intro divided
      obtain ⟨value, _, later, rfl, ⟨reply, earlier, rfl, first⟩, second⟩ := divided
      exact ⟨reply, _, rfl, value, earlier, later, rfl, first, second⟩

/-- The run of a program against surroundings that answer from what happened before. -/
def play (answer : Trace S → (request : S.Call) → S.Reply request) :
    Program S α → Trace S → Trace S × α
  | .done value, _ => ([], value)
  | .call request next, history =>
    let event : Event S := ⟨request, answer history request⟩
    let (later, value) := (next event.reply).play answer (history ++ [event])
    (event :: later, value)

/-- Playing a program gives one of its runs. -/
theorem play_returns (answer : Trace S → (request : S.Call) → S.Reply request)
    (program : Program S α) (history : Trace S) :
    program.Returns (program.play answer history).1 (program.play answer history).2 := by
  -- Each call is answered once, and the answer selects the branch that is played next.
  induction program generalizing history with
  | done value => exact .refl _
  | call request next ih => exact .step (ih _ _)

/-- When every call has some reply, every program can be run to its end. -/
theorem exists_returns (answered : ∀ request, Nonempty (S.Reply request))
    (program : Program S α) : ∃ trace value, program.Returns trace value :=
  ⟨_, _, play_returns (fun _ request => (answered request).some) program []⟩

/-- Every event of a played program is a call with the answer it was given at some time. -/
theorem play_mem {answer : Trace S → (request : S.Call) → S.Reply request}
    {program : Program S α} {history : Trace S} {event : Event S}
    (member : event ∈ (program.play answer history).1) :
    ∃ past, event = ⟨event.call, answer past event.call⟩ := by
  -- The event is the first one, or one of those that were played after it.
  induction program generalizing history with
  | done value => cases member
  | call request next ih =>
    rcases List.mem_cons.mp member with rfl | later
    · exact ⟨history, rfl⟩
    · exact ih _ later

end Program

/-- Where one event stands in two joined traces decides which of them contains it. -/
theorem split_append {first second before after : Trace S} {event : Event S}
    (split : first ++ second = before ++ event :: after) :
    (∃ rest, first = before ++ event :: rest ∧ after = rest ++ second) ∨
      ∃ rest, before = first ++ rest ∧ second = rest ++ event :: after := by
  -- Either the first part ends before the event, or it reaches beyond what comes before it.
  rcases List.append_eq_append_iff.mp split with ⟨rest, rfl, tail⟩ | ⟨rest, rfl, tail⟩
  · exact .inr ⟨rest, rfl, tail⟩
  · -- What the first part has beyond that starts with the event, unless it is empty.
    cases rest with
    | nil => exact .inr ⟨[], by simp, by simpa using tail.symm⟩
    | cons head rest =>
      obtain ⟨rfl, rfl⟩ := List.cons.inj tail
      exact .inl ⟨rest, rfl, rfl⟩

/-- An event that is not in the first of two joined traces stands in the second. -/
theorem split_second {first second before after : Trace S} {event : Event S}
    (split : first ++ second = before ++ event :: after) (absent : event ∉ first) :
    ∃ rest, before = first ++ rest ∧ second = rest ++ event :: after := by
  rcases split_append split with ⟨rest, rfl, _⟩ | found
  · exact absurd (by simp) absent
  · exact found

end Interaction
