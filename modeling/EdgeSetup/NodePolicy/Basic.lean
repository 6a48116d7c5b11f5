import EdgeSetup.Cluster.Metadata
import EdgeSetup.Json.Map

/-!
# Node network policies

The cluster resource that configures the network of nodes: a node selector and the desired state
of interfaces, name servers and routes.
-/

namespace EdgeSetup

open Json

/-- An address in a desired state. -/
structure PolicyAddress where
  ip : String
  prefixLength : UInt32
  deriving DecidableEq, Repr

/-- The IPv4 part of an interface in a desired state. -/
structure PolicyIpv4 where
  address : List PolicyAddress
  enabled : Bool
  deriving DecidableEq, Repr

/-- An interface in a desired state. -/
structure PolicyInterface where
  name : String
  state : String
  ipv4 : PolicyIpv4
  deriving DecidableEq, Repr

/-- A route in a desired state. -/
structure PolicyRoute where
  destination : String
  metric : UInt32
  nextHopAddress : String
  nextHopInterface : String
  deriving DecidableEq, Repr

/-- The name servers of a desired state. -/
structure PolicyDns where
  servers : List String
  deriving DecidableEq, Repr

/-- The routes of a desired state. -/
structure PolicyRoutes where
  routes : List PolicyRoute
  deriving DecidableEq, Repr

/-- The network state that a policy asks for. -/
structure DesiredState where
  interfaces : List PolicyInterface
  dns : Option PolicyDns
  routes : Option PolicyRoutes
  deriving DecidableEq, Repr

/-- What a policy asks for, and of which nodes. -/
structure NodePolicySpec where
  /-- The labels that a node must carry. -/
  nodeSelector : Option (Map String)
  desiredState : DesiredState
  deriving DecidableEq

/-- A network policy. -/
structure NodePolicy where
  apiVersion : String
  kind : String
  metadata : ObjectMeta
  spec : NodePolicySpec
  deriving DecidableEq

/-! ## Reading and writing -/

instance : Decode PolicyAddress where
  decode? source := do
    let record ← Record.ofSource? [["ip"], ["prefix-length"]] source
    some ⟨← record.required? 0, ← record.required? 1⟩

instance : Encode PolicyAddress where
  encode address := .object
    [("ip", encode address.ip), ("prefix-length", encode address.prefixLength)]

instance : Decode PolicyIpv4 where
  decode? source := do
    let record ← Record.ofSource? [["address"], ["enabled"]] source
    some ⟨← record.required? 0, ← record.required? 1⟩

instance : Encode PolicyIpv4 where
  encode ipv4 := .object [("address", encode ipv4.address), ("enabled", encode ipv4.enabled)]

instance : Decode PolicyInterface where
  decode? source := do
    let record ← Record.ofSource? [["name"], ["state"], ["ipv4"]] source
    some ⟨← record.required? 0, ← record.required? 1, ← record.required? 2⟩

instance : Encode PolicyInterface where
  encode interface := .object
    [("name", encode interface.name), ("state", encode interface.state),
      ("ipv4", encode interface.ipv4)]

instance : Decode PolicyRoute where
  decode? source := do
    let record ← Record.ofSource?
      [["destination"], ["metric"], ["next-hop-address"], ["next-hop-interface"]] source
    some ⟨← record.required? 0, ← record.required? 1, ← record.required? 2, ← record.required? 3⟩

instance : Encode PolicyRoute where
  encode route := .object
    [("destination", encode route.destination), ("metric", encode route.metric),
      ("next-hop-address", encode route.nextHopAddress),
      ("next-hop-interface", encode route.nextHopInterface)]

instance : Decode PolicyDns :=
  ⟨fun source => (unwrap? ["config", "server"] source).map PolicyDns.mk⟩

instance : Encode PolicyDns := ⟨fun dns => wrap ["config", "server"] (encode dns.servers)⟩

instance : Decode PolicyRoutes :=
  ⟨fun source => (unwrap? ["config"] source).map PolicyRoutes.mk⟩

instance : Encode PolicyRoutes := ⟨fun table => wrap ["config"] (encode table.routes)⟩

instance : Decode DesiredState where
  decode? source := do
    let record ← Record.ofSource? [["interfaces"], ["dns-resolver"], ["routes"]] source
    some ⟨← record.required? 0, ← record.orElse? 1 none, ← record.orElse? 2 none⟩

instance : Encode DesiredState where
  encode state := .object <|
    [("interfaces", encode state.interfaces)] ++ memberIfSome "dns-resolver" state.dns ++
      memberIfSome "routes" state.routes

instance : Decode NodePolicySpec where
  decode? source := do
    let record ← Record.ofSource? [["nodeSelector"], ["desiredState"]] source
    some ⟨← record.orElse? 0 none, ← record.required? 1⟩

instance : Encode NodePolicySpec where
  encode spec := .object <|
    memberIfSome "nodeSelector" spec.nodeSelector ++ [("desiredState", encode spec.desiredState)]

instance : Decode NodePolicy where
  decode? source := do
    let record ← Record.ofSource? [["apiVersion"], ["kind"], ["metadata"], ["spec"]] source
    some ⟨← record.required? 0, ← record.required? 1, ← record.required? 2, ← record.required? 3⟩

instance : Encode NodePolicy where
  encode policy := .object
    [("apiVersion", encode policy.apiVersion), ("kind", encode policy.kind),
      ("metadata", encode policy.metadata), ("spec", encode policy.spec)]

end EdgeSetup
