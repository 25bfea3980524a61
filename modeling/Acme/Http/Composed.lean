import Acme.Core.Issue
import Acme.Http.RoundTrip

/-! The client with the transport of the host under it. -/

namespace Acme.Http

open Interaction

/-- The calls of an exchange, and those of the client itself. -/
abbrev composed : Signature := hostCalls.plus Acme.calls

/-- An exchange as a reply of the transport; a panic, and a run that is cut short, is none. -/
def transported (exchange : Host HttpResponse) :
    Fallible composed Stop (Except AcmeError HttpResponse) :=
  Fallible.viewing (fun outcome => match outcome with
    | .ok response => .ok (.ok response)
    | .error (.error failure) => .ok (.error failure)
    | .error stop => .error stop) exchange.left

namespace WasiHttpClient

/-- Carry out the calls of the client: the requests by exchanges, and the others as they are. -/
def carrying (fuel : Nat) : Handler Acme.calls composed Stop
  | .head url => transported (head fuel url)
  | .get url => transported (get fuel url)
  | .postJose url body => transported (postJose fuel url body)
  | call => Fallible.ask (S := composed) (.inr call) .ok

/-- Issue a certificate over the host. -/
def issueCertificate (lib : Libraries) (hostFuel fuel : Nat) (request : IssueRequest) :
    Fallible composed Stop Bytes :=
  (issueCertificateWithTimeouts lib fuel request).handled (carrying hostFuel)

end WasiHttpClient

end Acme.Http
