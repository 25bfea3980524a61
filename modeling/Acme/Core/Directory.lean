import Acme.Core.Effect

/-! Fetching the directory. -/

namespace Acme.Directory

/-- Parse a directory body. -/
def parse (lib : Libraries) (body : Bytes) : Except AcmeError Directory :=
  (lib.parseDirectory body).mapError fun e => .serialization ("directory: " ++ e)

/-- GET the directory and parse it. -/
def fetch (lib : Libraries) (baseUrl : String) : Client Directory := do
  let response ← get baseUrl
  let response ← lift (response.ok lib)
  lift (parse lib response.body)

end Acme.Directory
