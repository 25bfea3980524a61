import Acme.Core.Effect

/-! Writing the body of a request to the stream of the host. -/

namespace Acme.Http

open Interaction

/-- One call to the host's outgoing body and its stream. -/
inductive Call where
  /-- Take the stream of the body. -/
  | bodyWrite
  /-- Obtain the pollable of the stream. -/
  | subscribe
  /-- Wait until the stream is ready. -/
  | block
  /-- Ask how many bytes may be written. -/
  | checkWrite
  /-- Write some bytes. -/
  | write (chunk : Bytes)
  | flush
  | dropPollable
  | dropStream
deriving DecidableEq

/-- What each call may be answered; a failure of the stream is known by its debug text. -/
abbrev Call.Reply : Call → Type
  | .bodyWrite => Except Unit Unit
  | .checkWrite => Except String UInt64
  | .write _ | .flush => Except String Unit
  | .subscribe | .block | .dropPollable | .dropStream => Unit

/-- The calls to the host and their replies. -/
abbrev calls : Signature where
  Call := Call
  Reply := Call.Reply

/-- What was called while a body was written, in order. -/
abbrev WriteHistory := Trace calls

/-- A step of writing a body. -/
abbrev Writer := Fallible calls Stop

/-- A failure of the stream is reported with the name of the call. -/
def reported {α : Type} (name : String) (reply : Except String α) : Except Stop α :=
  reply.mapError fun failure => .error (.transport (name ++ ": " ++ failure))

/-- Take the stream of the body. -/
def bodyWrite : Writer Unit :=
  Fallible.ask (S := calls) .bodyWrite fun reply => reply.mapError fun _ =>
    .error (.transport "outgoing body stream already taken")

/-- Obtain the pollable of the stream. -/
def subscribe : Writer Unit :=
  Fallible.ask (S := calls) .subscribe fun _ => .ok ()

/-- Wait until the stream is ready. -/
def block : Writer Unit :=
  Fallible.ask (S := calls) .block fun _ => .ok ()

/-- Ask how many bytes may be written. -/
def checkWrite : Writer UInt64 :=
  Fallible.ask (S := calls) .checkWrite (reported "check_write")

/-- Write some bytes. -/
def write (chunk : Bytes) : Writer Unit :=
  Fallible.ask (S := calls) (.write chunk) (reported "write")

/-- Have the bytes sent on. -/
def flush : Writer Unit :=
  Fallible.ask (S := calls) .flush (reported "flush")

/-- Drop the pollable. -/
def dropPollable : Writer Unit :=
  Fallible.ask (S := calls) .dropPollable fun _ => .ok ()

/-- Drop the stream. -/
def dropStream : Writer Unit :=
  Fallible.ask (S := calls) .dropStream fun _ => .ok ()

/-- Run a program while the pollable and the stream are held, which fall when it fails. -/
def holding {α : Type} (program : Writer α) : Writer α :=
  Fallible.cleaning (fun stop => match stop with
    -- A run that has not come to an end still holds them.
    | .unfinished => .done ()
    | .error _ | .panic _ => .call (S := calls) .dropPollable fun _ =>
      .call (S := calls) .dropStream fun _ => .done ()) program

/-- A permit as `usize`, which has 32 bits on `wasm32`. -/
def asUsize (permit : UInt64) : Nat :=
  permit.toUInt32.toNat

/-- Write all bytes, as many at a time as the stream permits. -/
def writeChunks (fuel : Nat) (data : Bytes) : Writer Unit :=
  if data = [] then pure ()
  else match fuel with
    -- The fuel bounds the turns; a run that uses it up has not come to an end.
    | 0 => throw .unfinished
    | fuel + 1 => do
      block
      let permit := asUsize (← checkWrite)
      if permit = 0 then
        -- The stream is full, so it is polled again.
        writeChunks fuel data
      else
        let len := min data.length permit
        let (chunk, rest) := data.splitAt len
        write chunk
        writeChunks fuel rest

/-- Write a body to its stream, and see it sent on. -/
def writeAll (fuel : Nat) (data : Bytes) : Writer Unit :=
  if data = [] then pure ()
  else do
    bodyWrite
    subscribe
    holding do
      writeChunks fuel data
      flush
      -- Some hosts lose the last bytes when the stream is dropped before they are sent.
      block
    dropPollable
    dropStream

end Acme.Http
