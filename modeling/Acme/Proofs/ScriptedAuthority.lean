import Acme.Core.Issue
import Acme.Proofs.Requests

/-! Runs against an authority that answers from a script, with a pool that behaves as a queue. -/

namespace Acme

open Interaction

/-- The line of a script that answers the next request; when it is missing, none comes back. -/
def nextLine (script : List (Except AcmeError HttpResponse)) (history : History) :
    Except AcmeError HttpResponse :=
  (script[(requests history).length]?).getD (.error (.transport "connection closed"))

/-- A response comes from the script. -/
theorem mem_of_nextLine {script : List (Except AcmeError HttpResponse)} {history : History}
    {answer : HttpResponse} (next : nextLine script history = .ok answer) : .ok answer ∈ script := by
  unfold nextLine at next
  cases written : script[(requests history).length]? with
  -- Behind the last line the connection is closed, which is no response.
  | none => simp [written] at next
  | some entry =>
    simp only [written, Option.getD_some] at next
    exact next ▸ List.mem_of_getElem? written

/-- Answer each HTTP request by the next line of a script, and everything else without trouble. -/
def scripted (script : List (Except AcmeError HttpResponse)) (history : History) :
    (call : Call) → call.Reply
  | .head _ | .get _ | .postJose _ _ => nextLine script history
  -- The pool is what the history makes of an empty one.
  | .popFront => (pool.after [] history).head?
  | .isEmpty => (pool.after [] history).isEmpty
  | .arm _ _ _ => .ok 1
  | .selfCheck _ => .ok ()
  | .now => 0
  | .pushBack _ | .clear | .dropReady _ | .sleep _ => ()

/-- The trace and the outcome of an operation that is answered from a script. -/
def play {α : Type} (script : List (Except AcmeError HttpResponse)) (operation : Client α) :
    History × Except Stop α :=
  operation.run.play (scripted script) []

/-- A played operation is one of its runs. -/
theorem play_ends {α : Type} (script : List (Except AcmeError HttpResponse))
    (operation : Client α) :
    operation.Ends (play script operation).1 (play script operation).2 :=
  Program.play_returns _ _ _

/-- The pool of a played operation behaves as a queue. -/
theorem play_shared {α : Type} (script : List (Except AcmeError HttpResponse))
    (operation : Client α) : pool.Admits [] (play script operation).1 := by
  refine World.play_admits (fun history call => ?_) operation.run []
  -- Only the calls to the pool are answered by it, and they are answered as a queue does.
  cases call <;> simp [pool, scripted]

/-- The responses in a played operation are those of the script. -/
theorem play_response {α : Type} {script : List (Except AcmeError HttpResponse)}
    {operation : Client α} {event : Event calls} {answer : HttpResponse}
    (member : event ∈ (play script operation).1) (answered : response event = some answer) :
    .ok answer ∈ script := by
  -- The answer was given to this call after some history.
  obtain ⟨past, given⟩ := Program.play_mem member
  obtain ⟨call, given'⟩ := event
  obtain rfl : given' = scripted script past call := by simpa using given
  -- Only the three HTTP calls are answered by a response.
  cases call with
  | head | get | postJose =>
    simp only [response, reply, scripted] at answered
    split at answered
    · rename_i found
      obtain rfl := Option.some.inj answered
      exact mem_of_nextLine (Option.some.inj found)
    · cases answered
  | _ => cases answered

-- Whole runs are evaluated by `decide` alone, and not while statements about them are unfolded.
attribute [irreducible] play

/-- An account key for concrete runs. -/
def sampleKey : AccountKey :=
  .ed25519 { secret := 1, verifying := ⟨List.replicate 32 7, by decide⟩ }

/-- The text of a small directory. -/
def directoryText : String :=
  "\x7b\"newNonce\":\"ca/nonce\",\"newAccount\":\"ca/account\",\"newOrder\":\"ca/order\"," ++
  "\"revokeCert\":\"ca/revoke\",\"keyChange\":\"ca/key\"\x7d"

/-- The directory in that text. -/
def sampleDirectory : Directory where
  newNonce := "ca/nonce"
  newAccount := "ca/account"
  newOrder := "ca/order"
  newAuthz := none
  revokeCert := "ca/revoke"
  keyChange := "ca/key"
  renewalInfo := none
  metadata :=
    { termsOfService := none
      website := none
      caaIdentities := []
      externalAccountRequired := false
      extra := [] }

/-- The account record in an empty object. -/
def sampleRecord : AccountRecord where
  status := ""
  contact := []
  termsOfServiceAgreed := none
  orders := none
  externalAccountBinding := none

/-- The text of an order, with what stands before and after its addresses. -/
def orderText (status name rest : String) : String :=
  "\x7b\"status\":\"" ++ status ++ "\",\"identifiers\":[\x7b\"type\":\"dns\",\"value\":\"" ++ name ++
  "\"\x7d],\"authorizations\":[\"ca/authz/1\"],\"finalize\":\"ca/order/1/finalize\"" ++ rest ++ "\x7d"

/-- The order in such a text. -/
def sampleOrder (status name : String) (certificate : Option String) : Order where
  status := status
  expires := none
  identifiers := [Identifier.dns name]
  notBefore := none
  notAfter := none
  error := none
  authorizations := ["ca/authz/1"]
  finalize := "ca/order/1/finalize"
  certificate := certificate
  url := ""

/-- The member that names the certificate of a valid order. -/
def certificateText : String := ",\"certificate\":\"ca/cert/1\""

/-- The text of a challenge in some state. -/
def challengeText (status : String) : String :=
  "\x7b\"type\":\"http-01\",\"url\":\"ca/chall/1\",\"status\":\"" ++ status ++
  "\",\"token\":\"tok\"\x7d"

/-- The challenge in such a text. -/
def sampleChallenge (status : String) : Challenge where
  type := "http-01"
  url := "ca/chall/1"
  status := status
  validated := none
  token := some "tok"
  error := none

/-- The text of a pending authorization for a name. -/
def authorizationText (name : String) : String :=
  "\x7b\"identifier\":\x7b\"type\":\"dns\",\"value\":\"" ++ name ++
  "\"\x7d,\"status\":\"pending\",\"challenges\":[" ++ challengeText "pending" ++ "]\x7d"

/-- The authorization in such a text. -/
def sampleAuthorization (name : String) : Authorization where
  identifier := Identifier.dns name
  status := "pending"
  expires := none
  challenges := [sampleChallenge "pending"]
  wildcard := false

/-- The text of a problem document. -/
def problemText : String :=
  "\x7b\"type\":\"urn:ietf:params:acme:error:rateLimited\",\"detail\":\"too many orders\"\x7d"

/-- The problem in that text. -/
def sampleProblem : ProblemDocument where
  type := "urn:ietf:params:acme:error:rateLimited"
  title := none
  status := none
  detail := some "too many orders"
  instanceUri := none
  subproblems := []

/-- A nonce store for concrete runs. -/
def sampleStore : ReplayNonceStore := { newNonceUrl := "ca/nonce" }

/-- An account for concrete runs. -/
def sampleAccount : Account where
  record := sampleRecord
  kid := "ca/acct/1"
  key := sampleKey
  nonce := sampleStore
  directory := sampleDirectory

/-- What a table of documents says about a body. -/
def readTable {α : Type} (table : List (String × α)) (body : Bytes) : Except String α :=
  -- A document is known when it stands in the table, byte for byte.
  match table.find? fun entry => Utf8.bytes entry.1 = body with
  | some entry => .ok entry.2
  | none => .error "expected value at line 1 column 1"

/-- How a name stands in a certificate request of concrete runs. -/
def sampleName : SanType → Bytes
  | .dnsName name => Utf8.bytes name
  | .ipAddress octets => octets

/-- Libraries for concrete runs, which know the small documents used in them. -/
def sampleLibraries : Libraries where
  mapOrder := .sorted
  parseDirectory := readTable [(directoryText, sampleDirectory)]
  parseAccountRecord := readTable [("{}", sampleRecord)]
  parseOrder := readTable
    [(orderText "pending" "a.example" "", sampleOrder "pending" "a.example" none),
      (orderText "pending" "b.example" "", sampleOrder "pending" "b.example" none),
      (orderText "valid" "a.example" certificateText,
        sampleOrder "valid" "a.example" (some "ca/cert/1"))]
  parseAuthorization := readTable
    [(authorizationText "a.example", sampleAuthorization "a.example"),
      (authorizationText "b.example", sampleAuthorization "b.example")]
  parseChallenge := readTable
    [(challengeText "processing", sampleChallenge "processing"),
      (challengeText "valid", sampleChallenge "valid")]
  parseProblem body := (readTable [(problemText, sampleProblem)] body).toOption
  debugStr text := "\"" ++ text ++ "\""
  -- Digests and signatures are of the right length, and all the same.
  sha256 _ := ⟨List.replicate 32 0, by decide⟩
  sign _ _ := some (List.replicate 64 0)
  signError _ _ := "signature::Error \x7b source: None \x7d"
  certificateParamsNew names :=
    .ok { commonName := some "rcgen self signed cert", subjectAltNames := names.map .dnsName }
  serializeRequest params _ := .ok (params.subjectAltNames.flatMap sampleName)
  instantMax := UInt64.size / 2 * 1000000000

/-- The body of a request that is signed with that account in concrete runs. -/
def sampleBody (url : String) (payload : Bytes) (nonce : String) : Bytes :=
  match signJwsWithKid sampleLibraries payload url nonce "ca/acct/1" sampleKey with
  | .ok body => body
  -- This does not happen, as the library of concrete runs signs everything.
  | .error _ => []

/-- In concrete runs, signing always succeeds. -/
theorem sampleBody_signed (url : String) (payload : Bytes) (nonce : String) :
    signJwsWithKid sampleLibraries payload url nonce "ca/acct/1" sampleKey
      = .ok (sampleBody url payload nonce) := rfl

/-- A successful response that carries one nonce. -/
def answering (status : UInt16) (nonce : String) (headers : List (String × String))
    (text : String) : Except AcmeError HttpResponse :=
  .ok { status, headers := ("Replay-Nonce", nonce) :: headers, body := Utf8.bytes text }

/-- What a caller asks for in concrete runs. -/
def sampleRequest : IssueRequest where
  directoryUrl := "ca/directory"
  contact := []
  identifiers := [Identifier.dns "a.example"]
  solvers := [.http01]
  certKey := { keyPair := { der := [] } }
  accountKey := sampleKey
  challengeTimeout := Duration.fromSecs 60
  finalizeTimeout := Duration.fromSecs 60

/-- An authority that validates the challenge at the second look and issues the certificate. -/
def issueScript : List (Except AcmeError HttpResponse) :=
  [answering 200 "" [] directoryText, answering 200 "n0" [] "",
    answering 201 "n1" [("Location", "ca/acct/1")] "{}",
    answering 201 "n2" [("Location", "ca/order/1")] (orderText "pending" "a.example" ""),
    answering 200 "n3" [] (authorizationText "a.example"), answering 200 "n4" [] "",
    answering 200 "n5" [] (challengeText "processing"),
    answering 200 "n6" [] (challengeText "valid"), answering 200 "n7" [] "",
    answering 200 "n8" [] (orderText "valid" "a.example" certificateText),
    answering 200 "n9" [] "chain"]

/-- The issuance that this authority answers. -/
def sampleIssuance : History × Except Stop Bytes :=
  play issueScript (issueCertificateWithTimeouts sampleLibraries 2 sampleRequest)

/-- It is a run of the issuance. -/
theorem sampleIssuance_ends :
    (issueCertificateWithTimeouts sampleLibraries 2 sampleRequest).Ends sampleIssuance.1
      sampleIssuance.2 := by
  unfold sampleIssuance
  apply play_ends

/-- Its pool behaves as a queue. -/
theorem sampleIssuance_shared : pool.Admits [] sampleIssuance.1 := by
  unfold sampleIssuance
  exact play_shared issueScript (issueCertificateWithTimeouts sampleLibraries 2 sampleRequest)

end Acme
