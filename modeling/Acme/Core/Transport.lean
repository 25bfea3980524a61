import Acme.Core.Error

/-! Reading HTTP responses. -/

namespace Acme

namespace HttpResponse

/-- Header names are compared without regard to ASCII case. -/
def named (name : String) (entry : String × String) : Bool :=
  entry.1.toList.map Char.toLower = name.toList.map Char.toLower

/-- The first value of a header. -/
def header (response : HttpResponse) (name : String) : Option String :=
  (response.headers.find? (named name)).map Prod.snd

/-- All values of a header, in order. -/
def headersAll (response : HttpResponse) (name : String) : List String :=
  (response.headers.filter (named name)).map Prod.snd

/-- The error an unsuccessful response reports. -/
def intoError (lib : Libraries) (response : HttpResponse) : AcmeError :=
  problemFromResponse lib response.status (response.header "Content-Type") response.body

/-- The status is in the 2xx range. -/
def isSuccess (response : HttpResponse) : Bool :=
  200 ≤ response.status && response.status < 300

/-- A successful response as it is, and any other one as an error. -/
def ok (lib : Libraries) (response : HttpResponse) : Except AcmeError HttpResponse :=
  if response.isSuccess then .ok response else .error (response.intoError lib)

/-- The nonempty `Replay-Nonce` values of a response, in order. -/
def nonces (response : HttpResponse) : List String :=
  (response.headersAll "Replay-Nonce").filter (· ≠ "")

/-- A response passes as itself exactly when it is successful. -/
@[simp] theorem ok_eq_ok {lib : Libraries} {response passed : HttpResponse} :
    response.ok lib = .ok passed ↔ response.isSuccess = true ∧ passed = response := by
  cases success : response.isSuccess <;> simp [ok, success, eq_comm (a := response)]

/-- A response fails with its own error exactly when it is unsuccessful. -/
@[simp] theorem ok_eq_error {lib : Libraries} {response : HttpResponse} {failure : AcmeError} :
    response.ok lib = .error failure ↔
      response.isSuccess = false ∧ failure = response.intoError lib := by
  cases success : response.isSuccess <;>
    simp [ok, success, eq_comm (a := response.intoError lib)]

end HttpResponse

end Acme
