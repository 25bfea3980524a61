import Acme.Core.Effect

/-! Building the certificate request. -/

namespace Acme.Csr

/-- The names of a list of identifiers, all of which must be DNS names. -/
def dnsNames : List Identifier → Except AcmeError (List String)
  | [] => .ok []
  -- The first identifier of another type is the one that is reported.
  | identifier :: rest =>
    if identifier.kind = "dns" then do
      let later ← dnsNames rest
      .ok (identifier.value :: later)
    else .error (.badCsr ("unsupported identifier type: " ++ identifier.kind))

/-- A certificate request for a list of identifiers, signed with the certificate's key. -/
def buildCsr (lib : Libraries) (privateKey : CertificateKey) (identifiers : List Identifier) :
    Except AcmeError Bytes :=
  if identifiers = [] then .error (.badCsr "no identifiers")
  else do
    let names ← dnsNames identifiers
    let params ← (lib.certificateParamsNew names).mapError fun e => .badCsr ("csr params: " ++ e)
    (lib.serializeRequest params privateKey.keyPair).mapError fun e => .badCsr ("csr sign: " ++ e)

end Acme.Csr
