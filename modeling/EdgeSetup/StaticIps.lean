import EdgeSetup.Cluster.Client
import EdgeSetup.Host.Validation
import EdgeSetup.NodePolicy.OfHost

/-!
# Setting static addresses

Hosts are taken one by one, in order: a host is checked and then its policy is patched, or created
when it has none. The first host that fails ends the batch, and the hosts before it keep what was
written for them.
-/

namespace EdgeSetup

open Json

/-- How many policies were written. -/
structure StaticIpOutcome where
  patched : Nat
  created : Nat
  deriving DecidableEq, Repr

namespace StaticIps

/-- The name of a host's policy, unless it is empty. -/
def existingPolicy? (host : Host) : Option String :=
  host.policyName.filter (fun name => !name.isEmpty)

/-- The collection of policies. -/
def policies : ResourceRef := .collection .nodePolicy none

/-- Patches the policy of a host. -/
def patchPolicy (client : Client) (token : String) (host : Host) (name : String) :
    Attempting Unit := do
  let failed (status : Nat) (message : String) : SetupError :=
    .patchFailed ("NodeNetworkConfigurationPolicy \"" ++ name ++ "\"") status message
  let write := client.patch token (.cluster .nodePolicy name) (.operations host.policyPatch)
  match ← ExceptT.lift write.run with
  | .ok result =>
    if result.isSuccess then return () else throw (failed result.status result.message)
  | .error error => throw (failed error.httpStatus error.message)

/-- Creates a policy for a host. -/
def createPolicy (client : Client) (token : String) (host : Host) : Attempting Unit := do
  let result ← client.post token policies (encode host.policy)
  if !result.isSuccess then
    throw (.createFailed ("NodeNetworkConfigurationPolicy for " ++ host.nodeName) result.status
      result.message)

/-- Checks a host. -/
def check (host : Host) : Except SetupError Unit :=
  host.validate.mapError fun error =>
    .invalidInput ("Incorrect host " ++ host.nodeName ++ ": " ++ error.message)

/-- Writes the policies of hosts, counting on from what was written before. -/
def applyAll (client : Client) (token : String) :
    StaticIpOutcome → List Host → Attempting StaticIpOutcome
  | outcome, [] => return outcome
  | outcome, host :: rest => do
    check host
    match existingPolicy? host with
    | some name =>
      patchPolicy client token host name
      Session.tally (.staticIpHosts .patched) 1
      applyAll client token { outcome with patched := outcome.patched + 1 } rest
    | none =>
      createPolicy client token host
      Session.tally (.staticIpHosts .created) 1
      applyAll client token { outcome with created := outcome.created + 1 } rest

/-- Sets the static addresses of hosts, of which there must be some. -/
def run (client : Client) (token : String) (hosts : List Host) : Attempting StaticIpOutcome :=
  if hosts.isEmpty then throw (.invalidInput "No hosts provided")
  else applyAll client token ⟨0, 0⟩ hosts

end StaticIps

end EdgeSetup
