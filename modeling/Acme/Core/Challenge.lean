import Acme.Core.Account

/-! Key authorizations, and driving an armed challenge to completion. -/

namespace Acme

open Interaction

/-- The key authorization of a token and an account key. -/
def computeKeyAuthorization (lib : Libraries) (token : String) (key : AccountKey) : String :=
  token ++ "." ++ key.jwkThumbprint lib

/-- The digest of a key authorization. -/
def sha256KeyAuthorization (lib : Libraries) (token : String) (key : AccountKey) : String :=
  b64url (lib.sha256 (Utf8.bytes (computeKeyAuthorization lib token key)))

/-- Take a handle down when it goes out of scope: after an error, and while a panic unwinds. -/
def owning {α : Type} (ready : Handle) (program : Client α) : Client α :=
  Fallible.cleaning (fun stop => match stop with
    -- A run that has not come to an end still holds the handle.
    | .unfinished => pure ()
    | .error _ | .panic _ => .call (S := calls) (.dropReady ready) fun _ => .done ()) program

/-- The clock reading plus a length of time, which must be representable. -/
def deadlineAfter (lib : Libraries) (start : Instant) (timeout : Duration) :
    Except Stop Instant :=
  if start + timeout.nanos ≤ lib.instantMax then .ok (start + timeout.nanos)
  else .error (.panic "overflow when adding duration to instant")

namespace Challenge

/-- The error text of a challenge or an order, or a default. -/
def errorDetail (error : Option Json) (default : String) : String :=
  match error with
  | some value => String.ofList value.render
  | none => default

/-- Poll the challenge until it is settled or the deadline has passed. -/
def pollUntil (lib : Libraries) (challengeUrl : String) (account : Account) (ready : Handle)
    (timeout pollInterval : Duration) (deadline : Instant) : Nat → Client Unit
  -- The fuel bounds the rounds; a run that uses it up has not come to an end.
  | 0 => throw .unfinished
  | fuel + 1 => do
    -- The loop owns the handle, which falls when a question fails.
    let challenge ← owning ready do
      let response ← account.postKid lib challengeUrl []
      let response ← lift (response.ok lib)
      lift ((lib.parseChallenge response.body).mapError .serialization)
    match challenge.statusEnum with
    -- On a verdict the handle is dropped before anything is returned.
    | .valid => dropReady ready
    | .invalid =>
      dropReady ready
      throw (.error (.malformed (errorDetail challenge.error "challenge invalid")))
    -- All other statuses, also those that are not known, are polled again.
    | _ =>
      let time ← now
      -- The deadline is looked at after the question, so there is at least one.
      if deadline ≤ time then
        dropReady ready
        throw (.error (.timeout ("challenge " ++ challengeUrl ++ " still " ++ challenge.status ++
          " after " ++ timeout.debug)))
      else
        sleep pollInterval
        pollUntil lib challengeUrl account ready timeout pollInterval deadline fuel

/-- The payload that tells the authority to validate. -/
def kickPayload : Bytes := Utf8.bytes "{}"

/-- Check the response, tell the authority to validate it, and poll the challenge. -/
def pollChallengeWithInterval (lib : Libraries) (fuel : Nat) (challengeUrl : String)
    (account : Account) (ready : Handle) (timeout pollInterval : Duration) : Client Unit := do
  let deadline ← owning ready do
    -- The response must be in place before the authority comes to look.
    selfCheck ready
    let response ← account.postKid lib challengeUrl kickPayload
    let _ ← lift (response.ok lib)
    -- The period begins only when the request has been accepted.
    let start ← now
    Fallible.ofExcept (deadlineAfter lib start timeout)
  pollUntil lib challengeUrl account ready timeout pollInterval deadline fuel

/-- Drive a challenge with the default interval of two seconds. -/
def pollChallenge (lib : Libraries) (fuel : Nat) (challengeUrl : String) (account : Account)
    (ready : Handle) (timeout : Duration) : Client Unit :=
  pollChallengeWithInterval lib fuel challengeUrl account ready timeout (Duration.fromSecs 2)

end Challenge

end Acme
