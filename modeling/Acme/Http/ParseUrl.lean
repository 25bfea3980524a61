import Acme.Core.Records

/-! Cutting a URL into what the host wants to know about a request. -/

namespace Acme.Http

/-- The schemes of the host. -/
inductive Scheme where
  | http
  | https
  | other (name : String)
deriving DecidableEq

/-- The scheme of a URL, and what stands behind the two slashes. -/
def stripScheme (url : List Char) : Option (Scheme × List Char) :=
  match "https://".toList.isPrefixOf? url with
  | some rest => some (.https, rest)
  | none =>
    match "http://".toList.isPrefixOf? url with
    | some rest => some (.http, rest)
    | none => none

/-- Cut at the first slash; without one, the path is a slash. -/
def splitPath (rest : List Char) : List Char × List Char :=
  match rest.findIdx? (· = '/') with
  | some idx => (rest.take idx, rest.drop idx)
  | none => (rest, ['/'])

/-- The scheme, the authority and the path with the query of a URL. -/
def parseUrl (url : String) : Except AcmeError (Scheme × String × String) :=
  match stripScheme url.toList with
  | none => .error (.transport ("unsupported URL scheme: " ++ url))
  | some (scheme, rest) =>
    let (authority, path) := splitPath rest
    if authority = [] then .error (.transport ("URL missing authority: " ++ url))
    else .ok (scheme, String.ofList authority, String.ofList path)

end Acme.Http
