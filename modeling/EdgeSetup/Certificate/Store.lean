import EdgeSetup.Certificate.Bundle
import EdgeSetup.Cluster.Client

/-!
# Storing certificates

A bundle is stored as a new TLS secret whose name the cluster completes. Storing twice makes two
secrets.
-/

namespace EdgeSetup

/-- The status of a creation that was carried out. -/
def createdStatus : Nat := 201

/-- The name of the secret that an answer speaks of: the creation was carried out, and the answer
names the object. -/
def createdSecret? (result : WriteResult) : Option String :=
  if result.status = createdStatus then result.objectName? else none

/-- Stores a bundle and gives the name of its secret. -/
def storeCertificate (client : Client) (token inNamespace namePrefix : String)
    (bundle : CertificateBundle) : Attempting String := do
  let result ← client.post token (.collection .secret (some inNamespace))
    (bundle.tlsSecret inNamespace namePrefix)
  match createdSecret? result with
  | some name => return name
  | none => throw (.secretCreate namePrefix inNamespace result.status result.message)

end EdgeSetup
