import Acme.Dns.Cloudflare
import Acme.Encoding.Serde

/-! How the responses of the Cloudflare API are read from JSON values. -/

namespace Acme.Cloudflare

open Serde

/-- The fields of an error. -/
def CfError.fields (describe : Json → String) : List Field :=
  [.of "code" false (readI64 describe), .of "message" false (readString describe)]

/-- Read an error. -/
def CfError.read (describe : Json → String) (value : Json) : Except String CfError := do
  let given ← members describe "CfError" (fields describe) value
  let code ← required "code" (readI64 describe) given
  let message ← required "message" (readString describe) given
  .ok { code, message }

/-- The fields of a zone, of which the name may be missing. -/
def CfZone.fields (describe : Json → String) : List Field :=
  [.of "id" false (readString describe), .of "name" true (readString describe)]

/-- Read a zone; nothing looks at its name. -/
def CfZone.read (describe : Json → String) (value : Json) : Except String CfZone := do
  let given ← members describe "CfZone" (fields describe) value
  let id ← required "id" (readString describe) given
  let _ ← defaulted "name" "" (readString describe) given
  .ok { id }

/-- The fields of a record. -/
def CfDnsRecord.fields (describe : Json → String) : List Field :=
  [.of "id" false (readString describe)]

/-- Read a record. -/
def CfDnsRecord.read (describe : Json → String) (value : Json) : Except String CfDnsRecord := do
  let given ← members describe "CfDnsRecord" (fields describe) value
  let id ← required "id" (readString describe) given
  .ok { id }

/-- Read the errors of a response. -/
def readErrors (describe : Json → String) : Json → Except String (List CfError) :=
  readVec describe (CfError.read describe)

/-- The fields of a response, whose errors may be missing. -/
def responseFields {ρ : Type} (describe : Json → String) (defaults : Bool)
    (readResult : Json → Except String ρ) : List Field :=
  [.of "success" false (readBool describe), .of "errors" true (readErrors describe),
    .of "result" defaults readResult]

/-- Read a response, with a result for when it is missing. -/
def readResponse {ρ α : Type} (describe : Json → String) (name : String) (defaults : Bool)
    (missing : ρ) (readResult : Json → Except String ρ) (build : Bool → List CfError → ρ → α)
    (value : Json) : Except String α := do
  let given ← members describe name (responseFields describe defaults readResult) value
  let success ← required "success" (readBool describe) given
  let errors ← defaulted "errors" [] (readErrors describe) given
  let result ← defaulted "result" missing readResult given
  .ok (build success errors result)

/-- Read a response that lists zones: a missing result is an empty list. -/
def CfListResponse.read (describe : Json → String) : Json → Except String CfListResponse :=
  readResponse describe "CfListResponse" true [] (readVec describe (CfZone.read describe))
    CfListResponse.mk

/-- Read a response about one record: the result is optional, so it may be null as well. -/
def CfSingleResponse.read (describe : Json → String) : Json → Except String CfSingleResponse :=
  readResponse describe "CfSingleResponse" false none (readOption (CfDnsRecord.read describe))
    CfSingleResponse.mk

end Acme.Cloudflare
