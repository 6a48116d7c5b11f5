import EdgeSetup.Certificate.Bundle

/-!
# Requests to change the domain

The new domain suffix, and the key pairs that the operator supplies for some of the host names.
-/

namespace EdgeSetup

open Json

/-- A request to change the domain of the cluster. -/
structure DomainChangeRequest where
  domain : Option String
  /-- Supplied key pairs by the host name that they serve. -/
  customCerts : Map TlsCertificate
  deriving DecidableEq

instance : Decode DomainChangeRequest where
  decode? source := do
    let record ← Record.ofSource? [["domain", "clusterDomain"], ["customCerts"]] source
    some ⟨← record.orElse? 0 none, ← record.orElse? 1 .empty⟩

instance : Encode DomainChangeRequest where
  encode request := .object
    [("domain", encode request.domain), ("customCerts", encode request.customCerts)]

end EdgeSetup
