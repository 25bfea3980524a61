import Acme.Http.WriteAll

/-! What is written of a body, turn by turn, under the permits of the host. -/

namespace Acme.Http

open Interaction

/-- The stream is taken. -/
abbrev opened (reply : Except Unit Unit) : Event calls := ⟨.bodyWrite, reply⟩

/-- The pollable is obtained. -/
abbrev subscribed : Event calls := ⟨.subscribe, ()⟩

/-- The stream is ready. -/
abbrev blocked : Event calls := ⟨.block, ()⟩

/-- The stream says how much may be written. -/
abbrev granted (reply : Except String UInt64) : Event calls := ⟨.checkWrite, reply⟩

/-- A chunk is written. -/
abbrev wrote (chunk : Bytes) (reply : Except String Unit) : Event calls := ⟨.write chunk, reply⟩

/-- A turn of the loop: what is left before it, the permit, and what is written under it. -/
structure Turn where
  remaining : Nat
  permit : UInt64
  chunk : Option Bytes
deriving DecidableEq

/-- The bytes that are written in a turn. -/
def Turn.written (turn : Turn) : Bytes :=
  turn.chunk.getD []

/-- The chunk of a call that writes. -/
def chunkOf : Event calls → Option Bytes
  | ⟨.write chunk, _⟩ => some chunk
  | _ => none

/-- The chunks that are handed to the stream, in order. -/
def chunks (history : WriteHistory) : List Bytes :=
  history.filterMap chunkOf

/-- The turns of a history, from a number of bytes that are left. -/
def turns (remaining : Nat) : WriteHistory → List Turn
  | [] => []
  | ⟨.checkWrite, .ok permit⟩ :: later =>
    -- A chunk belongs to the permit right before it.
    ⟨remaining, permit, later.head?.bind chunkOf⟩ :: turns remaining later
  | ⟨.write chunk, _⟩ :: later => turns (remaining - chunk.length) later
  | _ :: later => turns remaining later

/-- The turns with a permit other than zero. -/
def permitted (history : List Turn) : List Turn :=
  history.filter fun turn => turn.permit ≠ 0

/-- A turn writes as much as its permit and the rest of the body allow. -/
def Turn.Full (turn : Turn) : Prop :=
  turn.written.length = min turn.permit.toNat turn.remaining

/-- What a run of the writer has to keep to, for a body and a bound on its turns. -/
structure Meets (fuel : Nat) (body : Bytes) (trace : WriteHistory) (outcome : Except Stop Unit) :
    Prop where
  /-- What is handed to the stream begins the body. -/
  pieces : (chunks trace).flatten <+: body
  /-- It is the whole body when the run succeeds. -/
  whole : outcome = .ok () → (chunks trace).flatten = body
  /-- Every chunk is written under a permit. -/
  allowed : chunks trace = (turns body.length trace).filterMap Turn.chunk
  /-- No chunk is empty or longer than its permit. -/
  bounded : ∀ turn ∈ turns body.length trace, ∀ chunk, turn.chunk = some chunk →
    chunk ≠ [] ∧ chunk.length ≤ turn.permit.toNat
  /-- Under a permit other than zero, as much is written as can be. -/
  full : ∀ turn ∈ turns body.length trace, turn.permit ≠ 0 → turn.Full
  /-- There are no more such permits than bytes. -/
  few : (permitted (turns body.length trace)).length ≤ body.length
  /-- A run that is cut has taken all its turns, and fewer such permits than there are bytes. -/
  ends : outcome = .error .unfinished → (turns body.length trace).length = fuel ∧
    (permitted (turns body.length trace)).length < body.length

/-- The cast of the permit makes no difference to what is written under it. -/
def Turn.Fits (turn : Turn) : Prop :=
  turn.permit.toNat < UInt32.size ∨ turn.remaining ≤ turn.permit.toNat % UInt32.size

/-- A call that is part of a turn: a permit or a chunk. -/
def isTurn : Event calls → Bool
  | ⟨.checkWrite, _⟩ | ⟨.write _, _⟩ => true
  | _ => false

instance (turn : Turn) : Decidable turn.Fits :=
  inferInstanceAs (Decidable (_ ∨ _))

/-- What the code does in a turn, with the permit cast to 32 bits. -/
def Turn.Coded (turn : Turn) : Prop :=
  0 < turn.remaining ∧
    (asUsize turn.permit = 0 ∧ turn.chunk = none ∨
      asUsize turn.permit ≠ 0 ∧ ∃ chunk, turn.chunk = some chunk ∧
        chunk.length = min (asUsize turn.permit) turn.remaining)

/-- All ways the loop goes, for a bound on its turns and the bytes that are left. -/
inductive Writing : Nat → Bytes → WriteHistory → Except Stop Unit → Prop where
  /-- Everything is written. -/
  | finished {fuel : Nat} : Writing fuel [] [] (.ok ())
  /-- The run is cut short. -/
  | cut {data : Bytes} (left : data ≠ []) : Writing 0 data [] (.error .unfinished)
  /-- No permit could be obtained. -/
  | refused {fuel : Nat} {data : Bytes} {failure : String} {stop : Stop} (left : data ≠ [])
      (error : stop ≠ .unfinished) :
      Writing (fuel + 1) data [blocked, granted (.error failure)] (.error stop)
  /-- The permit counts as zero. -/
  | waited {fuel : Nat} {data : Bytes} {permit : UInt64} {later : WriteHistory}
      {outcome : Except Stop Unit} (left : data ≠ []) (none : asUsize permit = 0)
      (rest : Writing fuel data later outcome) :
      Writing (fuel + 1) data (blocked :: granted (.ok permit) :: later) outcome
  /-- The chunk could not be written. -/
  | failed {fuel : Nat} {data : Bytes} {permit : UInt64} {failure : String} {stop : Stop}
      (left : data ≠ []) (some : asUsize permit ≠ 0) (error : stop ≠ .unfinished) :
      Writing (fuel + 1) data [blocked, granted (.ok permit),
        wrote (data.take (asUsize permit)) (.error failure)] (.error stop)
  /-- A chunk was written. -/
  | wrote {fuel : Nat} {data : Bytes} {permit : UInt64} {later : WriteHistory}
      {outcome : Except Stop Unit} (left : data ≠ []) (some : asUsize permit ≠ 0)
      (rest : Writing fuel (data.drop (asUsize permit)) later outcome) :
      Writing (fuel + 1) data (blocked :: granted (.ok permit) ::
        Http.wrote (data.take (asUsize permit)) (.ok ()) :: later) outcome

variable {fuel : Nat} {data : Bytes} {trace : WriteHistory} {outcome : Except Stop Unit}

/-- The cast keeps the lower 32 bits. -/
theorem asUsize_eq (permit : UInt64) : asUsize permit = permit.toNat % UInt32.size := by
  simp [asUsize, UInt32.size]

/-- Without bytes that are left, the loop ends at once. -/
theorem writeChunks_nil (fuel : Nat) : writeChunks fuel [] = pure () := by
  cases fuel <;> simp [writeChunks]

/-- The chunk and the rest are cut where the permit says, or at the end of the data. -/
theorem splitAt_min (permit : Nat) :
    data.splitAt (min data.length permit) = (data.take permit, data.drop permit) := by
  rw [List.splitAt_eq, Nat.min_comm, ← List.take_eq_take_min, ← List.drop_eq_drop_min]

/-- A turn of the loop, with the chunk and the rest as parts of the data. -/
theorem writeChunks_succ (left : data ≠ []) :
    writeChunks (fuel + 1) data = (do
      block
      let permit ← checkWrite
      if asUsize permit = 0 then writeChunks fuel data
      else do
        write (data.take (asUsize permit))
        writeChunks fuel (data.drop (asUsize permit))) := by
  rw [writeChunks]
  simp only [if_neg left, splitAt_min]

/-- The loop goes in one of these ways. -/
theorem writeChunks_run (run : (writeChunks fuel data).Ends trace outcome) :
    Writing fuel data trace outcome := by
  -- By induction on the turns; a turn reads one permit, and writes at most one chunk.
  induction fuel generalizing data trace with
  | zero =>
    by_cases left : data = []
    · subst left
      rw [writeChunks_nil] at run
      obtain ⟨rfl, rfl⟩ := Fallible.ends_pure.mp run
      exact .finished
    · simp only [writeChunks, if_neg left] at run
      -- There is no turn left for what is left of the data.
      obtain ⟨rfl, rfl⟩ := Fallible.ends_throw.mp run
      exact .cut left
  | succ fuel ih =>
    by_cases left : data = []
    · subst left
      rw [writeChunks_nil] at run
      obtain ⟨rfl, rfl⟩ := Fallible.ends_pure.mp run
      exact .finished
    · simp only [writeChunks_succ left, block, checkWrite, write, Fallible.ends_ask_bind] at run
      -- The turn has waited, and asked for a permit.
      obtain ⟨⟨⟩, _, rfl, permission, later, rfl, run⟩ := run
      cases permission with
      -- The permit is refused.
      | error failure =>
        obtain ⟨rfl, rfl⟩ := run
        exact .refused left (by simp)
      | ok permit =>
        simp only [reported, Except.mapError] at run
        -- A permit that is zero as a size brings no chunk.
        by_cases none : asUsize permit = 0
        · rw [if_pos none] at run
          exact .waited left none (ih run)
        · rw [if_neg none] at run
          obtain ⟨reply, rest, rfl, ends⟩ := Fallible.ends_ask_bind.mp run
          cases reply with
          | error failure =>
            obtain ⟨rfl, rfl⟩ := ends
            exact .failed left none (by simp)
          -- The chunk is written, and the rest is for the next turn.
          | ok written => exact .wrote left none (ih ends)

@[simp] theorem turns_nil {remaining : Nat} : turns remaining [] = [] := rfl

@[simp] theorem turns_blocked {remaining : Nat} {later : WriteHistory} :
    turns remaining (blocked :: later) = turns remaining later := rfl

@[simp] theorem turns_refused {remaining : Nat} {failure : String} {later : WriteHistory} :
    turns remaining (granted (.error failure) :: later) = turns remaining later := rfl

@[simp] theorem turns_granted {remaining : Nat} {permit : UInt64} {later : WriteHistory} :
    turns remaining (granted (.ok permit) :: later)
      = ⟨remaining, permit, later.head?.bind chunkOf⟩ :: turns remaining later := rfl

@[simp] theorem turns_wrote {remaining : Nat} {chunk : Bytes} {reply : Except String Unit}
    {later : WriteHistory} :
    turns remaining (wrote chunk reply :: later) = turns (remaining - chunk.length) later := rfl

@[simp] theorem chunks_nil : chunks [] = [] := rfl

@[simp] theorem chunks_blocked {later : WriteHistory} :
    chunks (blocked :: later) = chunks later := rfl

@[simp] theorem chunks_granted {reply : Except String UInt64} {later : WriteHistory} :
    chunks (granted reply :: later) = chunks later := rfl

@[simp] theorem chunks_wrote {chunk : Bytes} {reply : Except String Unit} {later : WriteHistory} :
    chunks (wrote chunk reply :: later) = chunk :: chunks later := rfl

/-- A turn starts with waiting, so what comes behind a permit that was not used is no chunk. -/
theorem Writing.head (writing : Writing fuel data trace outcome) :
    trace.head?.bind chunkOf = none := by
  cases writing <;> rfl

/-- What is left behind a chunk is what the chunk left of the data. -/
theorem length_sub_take (permit : Nat) :
    data.length - (data.take permit).length = (data.drop permit).length := by
  rw [List.length_take, List.length_drop]
  omega

/-- In every turn the code does what it says. -/
theorem Writing.coded (writing : Writing fuel data trace outcome) :
    ∀ turn ∈ turns data.length trace, turn.Coded := by
  -- A turn is only taken while bytes are left, and its chunk is cut where the cast permit says.
  induction writing with
  | finished | cut left => simp
  | refused left error => simp
  | waited left none rest ih =>
    exact List.forall_mem_cons.mpr ⟨⟨List.length_pos_iff.mpr left, .inl ⟨none, rest.head⟩⟩, ih⟩
  | failed left some error =>
    refine List.forall_mem_cons.mpr ⟨⟨List.length_pos_iff.mpr left, .inr ⟨some, _, rfl, ?_⟩⟩, ?_⟩
    · exact List.length_take
    · simp
  | wrote left some rest ih =>
    refine List.forall_mem_cons.mpr ⟨⟨List.length_pos_iff.mpr left, .inr ⟨some, _, rfl, ?_⟩⟩, ?_⟩
    · exact List.length_take
    · rwa [turns_wrote, length_sub_take]

/-- The chunks of the loop are those of its turns. -/
theorem Writing.allowed (writing : Writing fuel data trace outcome) :
    chunks trace = (turns data.length trace).filterMap Turn.chunk := by
  -- Nothing is written except right behind a permit.
  induction writing with
  | finished | cut left => rfl
  | refused left error => rfl
  | waited left none rest ih => simpa [rest.head] using ih
  | failed left some error => simp [chunkOf]
  | wrote left some rest ih =>
    simp only [turns_blocked, turns_granted, turns_wrote, length_sub_take]
    simpa [chunkOf] using ih

/-- The chunks of the loop begin its data, and are all of it when the loop succeeds. -/
theorem Writing.pieces (writing : Writing fuel data trace outcome) :
    (chunks trace).flatten <+: data ∧ (outcome = .ok () → (chunks trace).flatten = data) := by
  induction writing with
  | finished => simp
  | cut left => simp
  | refused left error => simp
  | waited left none rest ih => simpa using ih
  | @failed fuel data permit failure stop left some error =>
    simpa using List.take_prefix (asUsize permit) data
  | @wrote fuel data permit later outcome left some rest ih =>
    -- The rest of the chunks begins what the first one left.
    have joined : (chunks (blocked :: granted (.ok permit) ::
        Http.wrote (data.take (asUsize permit)) (.ok ()) :: later)).flatten
          = data.take (asUsize permit) ++ (chunks later).flatten := by simp
    rw [joined]
    constructor
    · obtain ⟨behind, split⟩ := ih.1
      exact ⟨behind, by rw [List.append_assoc, split, List.take_append_drop]⟩
    · exact fun success => by rw [ih.2 success, List.take_append_drop]

/-- A loop that is cut has taken all its turns, and left something of its data. -/
theorem Writing.cut_turns (writing : Writing fuel data trace outcome)
    (cut : outcome = .error .unfinished) :
    (turns data.length trace).length = fuel ∧ (chunks trace).flatten.length < data.length := by
  -- Each turn takes one unit of fuel, and a chunk takes as much from the data as it writes.
  induction writing with
  | finished => cases cut
  | cut left => simpa using List.length_pos_iff.mpr left
  | refused left error => exact absurd (Except.error.inj cut) error
  | failed left some error => exact absurd (Except.error.inj cut) error
  | waited left none rest ih => simpa using ih cut
  | @wrote fuel data permit later outcome left some rest ih =>
    obtain ⟨spent, short⟩ := ih cut
    rw [List.length_drop] at short
    constructor
    · simpa only [turns_blocked, turns_granted, turns_wrote, length_sub_take, List.length_cons,
        Nat.add_right_cancel_iff] using spent
    · simp only [chunks_blocked, chunks_granted, chunks_wrote, List.flatten_cons,
        List.length_append, List.length_take]
      omega

/-- Dropping what is held, after a failure that is none of being cut short. -/
theorem holding_run {α : Type} {program : Writer α} {result : Except Stop α}
    (run : (holding program).Ends trace result) :
    ∃ before after, trace = before ++ after ∧ program.Ends before result ∧
      ∀ event ∈ after, isTurn event = false := by
  -- A result leaves nothing to drop, and neither does a run that is cut short.
  rcases Fallible.ends_cleaning.mp run with ⟨value, ended, rfl⟩ |
    ⟨stop, before, after, rfl, ended, cleaned, rfl⟩
  · exact ⟨trace, [], by simp, ended, by simp⟩
  · refine ⟨before, after, rfl, ended, ?_⟩
    cases stop with
    | unfinished =>
      obtain ⟨rfl, _⟩ := Program.returns_done.mp cleaned
      simp
    | error | panic =>
      -- Both are dropped, and nothing is called behind that.
      obtain ⟨⟨⟩, last, rfl, drops⟩ := Program.returns_call.mp cleaned
      obtain ⟨⟨⟩, none, rfl, finished⟩ := Program.returns_call.mp drops
      obtain ⟨rfl, _⟩ := Program.returns_done.mp finished
      simp [isTurn]

/-- A program goes through the loop, and makes no other turns. -/
def Loops (fuel : Nat) (body : Bytes) (trace : WriteHistory) (outcome : Except Stop Unit) : Prop :=
  ∃ before loop after ended, trace = before ++ (loop ++ after) ∧ Writing fuel body loop ended ∧
    (∀ event ∈ before, isTurn event = false) ∧ (∀ event ∈ after, isTurn event = false) ∧
    (outcome = .ok () → ended = .ok ()) ∧
    (outcome = .error .unfinished → ended = .error .unfinished)

/-- What is called around the loop makes no turns, so the loop is still all there is. -/
theorem Loops.around {body : Bytes} {inner : Except Stop Unit} {front back : WriteHistory}
    (loops : Loops fuel body trace inner) (ahead : ∀ event ∈ front, isTurn event = false)
    (behind : ∀ event ∈ back, isTurn event = false) (succeeds : outcome = .ok () → inner = .ok ())
    (cut : outcome = .error .unfinished → inner = .error .unfinished) :
    Loops fuel body (front ++ (trace ++ back)) outcome := by
  obtain ⟨before, loop, after, ended, rfl, writing, early, late, success, short⟩ := loops
  -- What stands around it belongs to the parts around the loop.
  exact ⟨front ++ before, loop, after ++ back, ended, by simp, writing,
    List.forall_mem_append.mpr ⟨ahead, early⟩, List.forall_mem_append.mpr ⟨late, behind⟩,
    fun ok => success (succeeds ok), fun stopped => short (cut stopped)⟩

/-- Seeing the bytes sent on makes no turns, and is not cut short. -/
theorem flushing_run (run : (do flush; block).Ends trace outcome) :
    (∀ event ∈ trace, isTurn event = false) ∧ outcome ≠ .error .unfinished := by
  simp only [flush, block, Fallible.ends_ask_bind, Fallible.ends_ask] at run
  obtain ⟨reply, last, rfl, sent⟩ := run
  -- The flush is refused, or waited for.
  cases reply with
  | error failure =>
    obtain ⟨rfl, rfl⟩ := sent
    simp [isTurn]
  | ok flushed =>
    obtain ⟨⟨⟩, rfl, rfl⟩ := sent
    simp [isTurn]

/-- Sending the body is the loop, and what follows it when it succeeds. -/
theorem sending_run {body : Bytes}
    (run : (do writeChunks fuel body; flush; block).Ends trace outcome) :
    Loops fuel body trace outcome := by
  -- The stream is flushed only when the loop has written everything.
  rcases Fallible.ends_bind.mp run with ⟨⟨⟩, loop, after, rfl, ended, rest⟩ | ⟨stop, ended, rfl⟩
  · obtain ⟨late, uncut⟩ := flushing_run rest
    exact ⟨[], loop, after, .ok (), rfl, writeChunks_run ended, by simp, late, fun _ => rfl,
      fun cut => absurd cut uncut⟩
  · exact ⟨[], trace, [], .error stop, by simp, writeChunks_run ended, by simp, by simp, id, id⟩

/-- Writing a body makes no turns, or goes through the loop. -/
theorem writeAll_run {body : Bytes} (run : (writeAll fuel body).Ends trace outcome) :
    ((∀ event ∈ trace, isTurn event = false) ∧ (outcome = .ok () → body = []) ∧
        outcome ≠ .error .unfinished) ∨ Loops fuel body trace outcome := by
  unfold writeAll at run
  by_cases empty : body = []
  · rw [if_pos empty] at run
    obtain ⟨rfl, rfl⟩ := Fallible.ends_pure.mp run
    exact .inl ⟨by simp, fun _ => empty, by simp⟩
  · -- The stream is taken first, which may fail.
    simp only [if_neg empty, bodyWrite, subscribe, Fallible.ends_ask_bind] at run
    obtain ⟨taken, later, rfl, run⟩ := run
    cases taken with
    | error failure =>
      obtain ⟨rfl, rfl⟩ := run
      exact .inl ⟨by simp [isTurn], by simp, by simp⟩
    | ok stream =>
      obtain ⟨⟨⟩, rest, rfl, run⟩ := run
      right
      have quiet : ∀ event ∈ [opened (.ok ()), subscribed], isTurn event = false := by
        simp [isTurn]
      rcases Fallible.ends_bind.mp run with ⟨⟨⟩, kept, last, rfl, held, drops⟩ | ⟨stop, held, rfl⟩
      · -- The program that holds both succeeded, so the loop did.
        obtain ⟨sent, after, rfl, ended, late⟩ := holding_run held
        simp only [dropPollable, dropStream, Fallible.ends_ask_bind, Fallible.ends_ask] at drops
        obtain ⟨⟨⟩, _, rfl, ⟨⟩, rfl, rfl⟩ := drops
        rw [List.append_assoc]
        refine (sending_run ended).around quiet (List.forall_mem_append.mpr ⟨late, ?_⟩) id id
        simp [isTurn]
      · -- What was held is dropped with the failure.
        obtain ⟨sent, after, rfl, ended, late⟩ := holding_run held
        exact (sending_run ended).around quiet late id id

/-- A call outside the turns hands no chunk to the stream. -/
theorem chunkOf_quiet {event : Event calls} (quiet : isTurn event = false) :
    chunkOf event = none := by
  obtain ⟨call, reply⟩ := event
  cases call <;> first | rfl | cases quiet

/-- Calls outside the turns hand nothing to the stream. -/
theorem chunks_quiet (quiet : ∀ event ∈ trace, isTurn event = false) : chunks trace = [] :=
  List.filterMap_eq_nil_iff.mpr fun event member => chunkOf_quiet (quiet event member)

/-- Calls in front of the turns do not count. -/
theorem turns_behind {remaining : Nat} {later : WriteHistory}
    (quiet : ∀ event ∈ trace, isTurn event = false) :
    turns remaining (trace ++ later) = turns remaining later := by
  induction trace with
  | nil => rfl
  | cons event rest ih =>
    obtain ⟨head, tail⟩ := List.forall_mem_cons.mp quiet
    obtain ⟨call, reply⟩ := event
    -- Only a permit begins a turn, and there is none in front.
    cases call <;> first | exact ih tail | cases head

/-- Without turns there are none. -/
theorem turns_quiet {remaining : Nat} (quiet : ∀ event ∈ trace, isTurn event = false) :
    turns remaining trace = [] := by
  have none : turns remaining (trace ++ []) = turns remaining [] := turns_behind quiet
  rwa [List.append_nil] at none

/-- Calls behind the turns do not count. -/
theorem turns_before {remaining : Nat} {later : WriteHistory}
    (quiet : ∀ event ∈ later, isTurn event = false) :
    turns remaining (trace ++ later) = turns remaining trace := by
  induction trace generalizing remaining with
  | nil => exact turns_quiet quiet
  | cons event rest ih =>
    -- What comes right behind a permit is no chunk, unless it was one before.
    have same : (rest ++ later).head?.bind chunkOf = rest.head?.bind chunkOf := by
      cases rest with
      | cons next others => rfl
      | nil =>
        cases later with
        | nil => rfl
        | cons next others => exact chunkOf_quiet (quiet next (.head _))
    obtain ⟨call, reply⟩ := event
    cases call with
    -- A permit begins a turn, and the chunk of that turn stands right behind it.
    | checkWrite =>
      cases reply with
      | error failure => exact ih
      | ok permit =>
        rw [List.cons_append, turns_granted, turns_granted, same, ih]
    -- Any other call is passed over.
    | _ => exact ih

/-- Turns that each write something write at least as many bytes as they are. -/
theorem permitted_le {list : List Turn}
    (writes : ∀ turn ∈ list, turn.permit ≠ 0 → turn.written ≠ []) :
    (permitted list).length ≤ (list.filterMap Turn.chunk).flatten.length := by
  -- A turn under a permit other than zero adds one to the left, and at least one to the right.
  induction list with
  | nil => simp [permitted]
  | cons turn rest ih =>
    obtain ⟨head, tail⟩ := List.forall_mem_cons.mp writes
    have fewer := ih tail
    obtain ⟨remaining, permit, chunk⟩ := turn
    -- A turn under the permit zero does not count.
    by_cases zero : permit = 0
    · cases chunk <;> simp [permitted, zero] at fewer ⊢ <;> omega
    · have some := List.length_pos_iff.mpr (head zero)
      cases chunk with
      | none => simp [Turn.written] at some
      | some bytes =>
        simp only [Turn.written, Option.getD_some] at some
        simp [permitted, zero] at fewer ⊢
        omega

/-- A turn writes as much as it can exactly when the cast of its permit makes no difference. -/
theorem Turn.Coded.full_iff {turn : Turn} (coded : turn.Coded) : turn.Full ↔ turn.Fits := by
  -- The least of the cast permit and the rest is compared with that of the permit and the rest.
  obtain ⟨left, how⟩ := coded
  have written : turn.written.length = min (asUsize turn.permit) turn.remaining := by
    rcases how with ⟨zero, none⟩ | ⟨_, chunk, same, counted⟩
    · simp [written, zero, none]
    · simp [Turn.written, same, counted]
  rw [Full, Fits, written, asUsize_eq]
  simp only [UInt32.size]
  omega

/-- A chunk is not empty, and not longer than the permit it is written under. -/
theorem Turn.Coded.bounded {turn : Turn} (coded : turn.Coded) {chunk : Bytes}
    (chosen : turn.chunk = some chunk) : chunk ≠ [] ∧ chunk.length ≤ turn.permit.toNat := by
  obtain ⟨left, ⟨_, none⟩ | ⟨some, other, same, counted⟩⟩ := coded
  · rw [none] at chosen
    cases chosen
  · -- The cast never makes a permit larger.
    obtain rfl := Option.some.inj (same.symm.trans chosen)
    have below : asUsize turn.permit ≤ turn.permit.toNat := by
      rw [asUsize_eq]
      exact Nat.mod_le _ _
    exact ⟨List.length_pos_iff.mp (by omega), by omega⟩

/-- A turn under a permit other than zero that writes as much as it can writes something. -/
theorem Turn.Coded.written_ne_nil {turn : Turn} (coded : turn.Coded) (full : turn.Full)
    (nonzero : turn.permit ≠ 0) : turn.written ≠ [] := by
  -- As much as it can is at least one byte.
  have positive : 0 < turn.permit.toNat :=
    Nat.pos_of_ne_zero fun zero => nonzero (UInt64.toNat_inj.mp zero)
  have left := coded.1
  rw [Full] at full
  exact List.length_pos_iff.mp (by omega)

/-- What every run of the writer does, whatever is permitted. -/
structure Written (fuel : Nat) (body : Bytes) (trace : WriteHistory)
    (outcome : Except Stop Unit) : Prop where
  pieces : (chunks trace).flatten <+: body
  whole : outcome = .ok () → (chunks trace).flatten = body
  allowed : chunks trace = (turns body.length trace).filterMap Turn.chunk
  coded : ∀ turn ∈ turns body.length trace, turn.Coded
  cut : outcome = .error .unfinished →
    (turns body.length trace).length = fuel ∧ (chunks trace).flatten.length < body.length

/-- Every run writes pieces of its body, in turns that do what the code says. -/
theorem writeAll_written {body : Bytes} (run : (writeAll fuel body).Ends trace outcome) :
    Written fuel body trace outcome := by
  rcases writeAll_run run with ⟨quiet, success, uncut⟩ |
    ⟨before, loop, after, ended, rfl, writing, early, late, success, cut⟩
  · -- Without a loop nothing is written.
    exact
      { pieces := by simp [chunks_quiet quiet]
        -- It succeeds for an empty body only.
        whole := fun ok => by simp [chunks_quiet quiet, success ok]
        allowed := by simp [chunks_quiet quiet, turns_quiet quiet]
        coded := by simp [turns_quiet quiet]
        -- A run without a loop is not cut short.
        cut := fun stopped => absurd stopped uncut }
  · -- The turns of the run are those of its loop.
    have same : turns body.length (before ++ (loop ++ after)) = turns body.length loop := by
      rw [turns_behind early, turns_before late]
    have kept : chunks (before ++ (loop ++ after)) = chunks loop := by
      have ahead := chunks_quiet early
      have behind := chunks_quiet late
      simp only [chunks, List.filterMap_append] at ahead behind ⊢
      rw [ahead, behind, List.append_nil, List.nil_append]
    obtain ⟨pieces, whole⟩ := writing.pieces
    exact
      { pieces := by rwa [kept]
        whole := fun ok => by rw [kept, whole (success ok)]
        allowed := by rw [kept, same, writing.allowed]
        coded := by
          rw [same]
          exact writing.coded
        cut := fun stopped => by
          rw [kept, same]
          exact writing.cut_turns (cut stopped) }

/-- Writing a body keeps to everything exactly when the cast makes no difference in any turn. -/
theorem write_all_meets_iff {body : Bytes} (run : (writeAll fuel body).Ends trace outcome) :
    Meets fuel body trace outcome ↔ ∀ turn ∈ turns body.length trace, turn.Fits := by
  have written := writeAll_written run
  constructor
  · intro meets turn member
    -- A permit of zero is fit in any case.
    by_cases zero : turn.permit = 0
    · exact .inl (by simp [zero, UInt32.size])
    · exact (written.coded turn member).full_iff.mp (meets.full turn member zero)
  · -- When all permits fit, every turn writes as much as it may.
    intro fits
    have full : ∀ turn ∈ turns body.length trace, turn.permit ≠ 0 → turn.Full :=
      fun turn member _ => (written.coded turn member).full_iff.mpr (fits turn member)
    -- Each permit other than zero is good for a byte at least.
    have few := permitted_le fun turn member nonzero =>
      (written.coded turn member).written_ne_nil (full turn member nonzero) nonzero
    rw [← written.allowed] at few
    exact
      { pieces := written.pieces
        whole := written.whole
        allowed := written.allowed
        bounded := fun turn member chunk chosen => (written.coded turn member).bounded chosen
        full
        few := few.trans written.pieces.length_le
        ends := fun stopped => ⟨(written.cut stopped).1, few.trans_lt (written.cut stopped).2⟩ }

/-- A host that grants the permits of a list, and closes the stream behind them. -/
def hosting (permits : List UInt64) (history : WriteHistory) : (call : Call) → call.Reply
  | .bodyWrite | .write _ | .flush => .ok ()
  | .checkWrite =>
    match permits[(history.filter fun event => event.call = .checkWrite).length]? with
    | some permit => .ok permit
    | none => .error "StreamError::Closed"
  | .subscribe | .block | .dropPollable | .dropStream => ()

/-- Three bytes that are written to such a host, in four turns at most. -/
def sampleWrite (permits : List UInt64) : WriteHistory × Except Stop Unit :=
  (writeAll 4 [1, 2, 3]).run.play (hosting permits) []

/-- A played write is one of its runs. -/
theorem sampleWrite_ends (permits : List UInt64) :
    (writeAll 4 [1, 2, 3]).Ends (sampleWrite permits).1 (sampleWrite permits).2 :=
  Program.play_returns _ _ _

/-- Under small permits, with one that is zero among them, the three bytes are written. -/
theorem sampleWrite_meets :
    Meets 4 [1, 2, 3] (sampleWrite [2, 0, 5]).1 (sampleWrite [2, 0, 5]).2 ∧
      chunks (sampleWrite [2, 0, 5]).1 = [[1, 2], [3]] ∧ (sampleWrite [2, 0, 5]).2 = .ok () :=
  ⟨(write_all_meets_iff (sampleWrite_ends [2, 0, 5])).mpr (by decide +kernel), by decide +kernel,
    by decide +kernel⟩

/-- A permit for 4 GiB counts as zero, and a permit for one byte more as one byte. -/
theorem large_permits_cast :
    ¬ (∀ fuel body trace outcome, (writeAll fuel body).Ends trace outcome →
        Meets fuel body trace outcome) ∧
      turns 3 (sampleWrite [4294967296, 4294967297, 2]).1
        = [⟨3, 4294967296, none⟩, ⟨3, 4294967297, some [1]⟩, ⟨2, 2, some [2, 3]⟩] := by
  have first : (⟨3, 4294967296, none⟩ : Turn)
      ∈ turns 3 (sampleWrite [4294967296, 4294967297, 2]).1 := by decide +kernel
  refine ⟨fun meets => ?_, by decide +kernel⟩
  -- Under the first permit all three bytes should have been written.
  have full := (meets _ _ _ _ (sampleWrite_ends [4294967296, 4294967297, 2])).full _ first
    (by decide)
  revert full
  unfold Turn.Full
  decide +kernel

end Acme.Http
