import Acme.Core.Authorization
import Acme.Core.Certificate
import Acme.Core.Directory

/-! The whole issuance: directory, account, order, authorizations, finalize, download. -/

namespace Acme

open Interaction

/-- The budget of one challenge unless the caller sets one. -/
def defaultChallengeTimeout : Duration := Duration.fromSecs 120

/-- The first solver, with its position, whose kind some challenge has, and the first such one. -/
def findSolver (challenges : List Challenge) : List ChallengeKind → Nat →
    Option (Nat × Challenge)
  | [], _ => none
  | want :: rest, position =>
    -- The order of the solvers decides, not that of the challenges.
    match challenges.find? fun c => c.kind = want with
    | some ch => some (position, ch)
    | none => findSolver challenges rest (position + 1)

/-- The debug text of a list of strings. -/
def debugStrs (lib : Libraries) (texts : List String) : String :=
  "[" ++ String.intercalate ", " (texts.map lib.debugStr) ++ "]"

/-- Pick a solver and a challenge for an authorization. -/
def pickSolverAndChallenge (lib : Libraries) (authz : Authorization)
    (solvers : List ChallengeKind) : Except AcmeError (Nat × Challenge) :=
  match findSolver authz.challenges solvers 0 with
  | some picked => .ok picked
  | none => .error (.unsupportedIdentifier ("no solver for identifier " ++ authz.identifier.value ++
      ": challenges offered " ++ debugStrs lib (authz.challenges.map Challenge.type)))

/-- Fetch an authorization and, unless it is valid already, see one of its challenges through. -/
def runOneAuthorization (lib : Libraries) (fuel : Nat) (authzUrl : String) (account : Account)
    (solvers : List ChallengeKind) (timeout : Duration) : Client Unit := do
  let authz ← Authorization.fetch lib account authzUrl
  -- The authority may have validated the identifier for an earlier order.
  if authz.statusEnum = .valid then pure ()
  else
    let (solver, challenge) ← lift (pickSolverAndChallenge lib authz solvers)
    -- Without a token there is no key authorization to arm the challenge with.
    match challenge.token with
    | none => throw (.error (.missingField "challenge.token"))
    | some token =>
      let keyAuthorization := computeKeyAuthorization lib token account.key
      let ready ← arm solver authz.identifier keyAuthorization
      Challenge.pollChallenge lib fuel challenge.url account ready timeout

/-- Run the authorizations of an order one after the other. -/
def runAuthorizations (lib : Libraries) (fuel : Nat) (account : Account)
    (solvers : List ChallengeKind) (timeout : Duration) : List String → Client Unit
  | [] => pure ()
  | authzUrl :: rest => do
    runOneAuthorization lib fuel authzUrl account solvers timeout
    runAuthorizations lib fuel account solvers timeout rest

/-- What a caller asks for: where, for whom, for which identifiers, and with what means. -/
structure IssueRequest where
  directoryUrl : String
  contact : List String
  identifiers : List Identifier
  solvers : List ChallengeKind
  certKey : CertificateKey
  accountKey : AccountKey
  challengeTimeout : Duration
  finalizeTimeout : Duration

/-- Finalize an order and download its certificate. -/
def finalizeAndDownload (lib : Libraries) (fuel : Nat) (request : IssueRequest)
    (account : Account) (order : Order) : Client Bytes := do
  let finalOrder ← Certificate.finalizeWithDeadline lib fuel order request.certKey account
    request.finalizeTimeout
  match finalOrder.certificate with
  -- The polling loop returns no such order.
  | none => throw (.error (.missingField "certificate URL on valid order"))
  | some certUrl => Certificate.download lib certUrl account

/-- Issue a certificate, with budgets for the challenge polls and for the finalize poll. -/
def issueCertificateWithTimeouts (lib : Libraries) (fuel : Nat) (request : IssueRequest) :
    Client Bytes := do
  let directory ← Directory.fetch lib request.directoryUrl
  -- The terms of service are agreed to.
  let account ← Account.create lib directory request.contact true request.accountKey
  let order ← Order.create lib account request.identifiers
  runAuthorizations lib fuel account request.solvers request.challengeTimeout order.authorizations
  finalizeAndDownload lib fuel request account order

/-- Issue a certificate with the default budgets. -/
def issueCertificate (lib : Libraries) (fuel : Nat) (request : IssueRequest) : Client Bytes :=
  issueCertificateWithTimeouts lib fuel { request with
    challengeTimeout := defaultChallengeTimeout
    finalizeTimeout := Certificate.defaultFinalizeTimeout }

end Acme
