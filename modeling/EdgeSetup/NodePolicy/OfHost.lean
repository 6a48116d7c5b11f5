import EdgeSetup.Host.Basic
import EdgeSetup.Json.Patch
import EdgeSetup.NodePolicy.Basic

/-!
# The policy of a host

What a host's settings mean as a network policy: one interface and one default route per
configured interface, and the name servers of the host.
-/

namespace EdgeSetup

open Json

/-- The label that carries the name of a node. -/
def hostnameLabel : String := "kubernetes.io/hostname"

/-- The destination of a default route. -/
def defaultDestination : String := "0.0.0.0/0"

/-- The metric of the default routes. -/
def defaultRouteMetric : UInt32 := 1000

/-- The label value in the selector of a patched policy. No node carries it, so a patched policy
rests until its selector is restored. -/
def noNode : String := "no-node-matches-this-placeholder"

/-- The version and kind of policies. -/
def policyApiVersion : String := "nmstate.io/v1"

/-- The kind of policies. -/
def policyKind : String := "NodeNetworkConfigurationPolicy"

/-- The desired entry of an interface; one without an address has none. -/
def Interface.desired? (interface : Interface) : Option PolicyInterface :=
  interface.address.map fun address =>
    { name := interface.name
      state := "up"
      ipv4 := { address := [⟨address.ip, address.prefixLength⟩], enabled := true } }

/-- The default route through an interface. -/
def Interface.defaultRoute (interface : Interface) : PolicyRoute :=
  { destination := defaultDestination
    metric := defaultRouteMetric
    nextHopAddress := (interface.address.map InterfaceAddress.gateway).getD ""
    nextHopInterface := interface.name }

namespace Host

/-- The network state that a host asks for. -/
def desiredState (host : Host) : DesiredState :=
  { interfaces := host.interfaces.filterMap Interface.desired?
    dns := if host.dns.isEmpty then none else some ⟨host.dns⟩
    routes := some ⟨host.interfaces.map Interface.defaultRoute⟩ }

/-- A new policy for the node of a host. The cluster completes its name. -/
def policy (host : Host) : NodePolicy :=
  { apiVersion := policyApiVersion
    kind := policyKind
    metadata := { ObjectMeta.empty with generateName := some (host.nodeName ++ "-") }
    spec :=
      { nodeSelector := some (Map.ofList [(hostnameLabel, host.nodeName)])
        desiredState := host.desiredState } }

/-- The changes that bring an existing policy to a host's state. -/
def policyPatch (host : Host) : List PatchOp :=
  [ { op := .replace
      path := "/spec/nodeSelector"
      value := .object [(hostnameLabel, .string noNode)] },
    { op := .replace
      path := "/spec/desiredState"
      value := encode host.desiredState } ]

end Host

end EdgeSetup
