import Acme.Core.Account

/-! Fetching authorizations. -/

namespace Acme.Authorization

/-- Read the authorization at a URL. -/
def fetch (lib : Libraries) (account : Account) (url : String) : Client Authorization := do
  let response ← account.postKid lib url []
  let response ← lift (response.ok lib)
  lift ((lib.parseAuthorization response.body).mapError .serialization)

end Acme.Authorization
