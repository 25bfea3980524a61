import Acme.Core.Challenge
import Acme.Core.Csr
import Acme.Core.Order

/-! Finalizing an order and downloading the certificate. -/

namespace Acme.Certificate

open Interaction

/-- The payload of a finalize request. -/
def csrPayload (lib : Libraries) (csrDer : Bytes) : Bytes :=
  toVec (lib.object [("csr", .str (b64url csrDer))])

/-- Poll the order until it is settled or the deadline has passed. -/
def pollUntil (lib : Libraries) (order : Order) (account : Account)
    (timeout pollInterval : Duration) (deadline : Instant) : Nat → Client Order
  -- The fuel bounds the rounds; a run that uses it up has not come to an end.
  | 0 => throw .unfinished
  | fuel + 1 => do
    let refreshed ← Order.refresh lib account order.url
    match refreshed.statusEnum with
    | .valid =>
      -- A valid order has to say where its certificate is.
      if refreshed.certificate = none then
        throw (.error (.missingField "order.certificate on valid order"))
      else pure refreshed
    | .invalid =>
      throw (.error (.malformed (Challenge.errorDetail refreshed.error "order invalid")))
    -- All other statuses, also those that are not known, are polled again.
    | _ =>
      let time ← now
      -- The deadline is looked at after the question, so there is at least one.
      if deadline ≤ time then
        throw (.error (.timeout ("order " ++ order.url ++ " still " ++ refreshed.status ++
          " after " ++ timeout.debug)))
      else
        sleep pollInterval
        pollUntil lib order account timeout pollInterval deadline fuel

/-- Submit the certificate request and poll the order. -/
def finalizeWithIntervals (lib : Libraries) (fuel : Nat) (order : Order)
    (privateKey : CertificateKey) (account : Account) (timeout pollInterval : Duration) :
    Client Order := do
  -- The order was neither created nor refreshed, so there is nothing to poll.
  if order.url = "" then
    throw (.error (.missingField "order.url populated by order::create / refresh"))
  else
    let csrDer ← lift (Csr.buildCsr lib privateKey order.identifiers)
    let response ← account.postKid lib order.finalize (csrPayload lib csrDer)
    let _ ← lift (response.ok lib)
    -- The period begins only when the request has been accepted.
    let start ← now
    let deadline ← Fallible.ofExcept (deadlineAfter lib start timeout)
    pollUntil lib order account timeout pollInterval deadline fuel

/-- Finalize with the default interval of two seconds. -/
def finalizeWithDeadline (lib : Libraries) (fuel : Nat) (order : Order)
    (privateKey : CertificateKey) (account : Account) (timeout : Duration) : Client Order :=
  finalizeWithIntervals lib fuel order privateKey account timeout (Duration.fromSecs 2)

/-- The budget of the finalize loop unless the caller sets one. -/
def defaultFinalizeTimeout : Duration := Duration.fromSecs 120

/-- Finalize with the default budget. -/
def finalize (lib : Libraries) (fuel : Nat) (order : Order) (privateKey : CertificateKey)
    (account : Account) : Client Order :=
  finalizeWithDeadline lib fuel order privateKey account defaultFinalizeTimeout

/-- Read the certificate chain at a URL. -/
def download (lib : Libraries) (certUrl : String) (account : Account) : Client Bytes := do
  let response ← account.postKid lib certUrl []
  let response ← lift (response.ok lib)
  pure response.body

end Acme.Certificate
