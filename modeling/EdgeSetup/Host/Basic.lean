import EdgeSetup.Json.Codec

/-!
# Hosts

A cluster node as the settings page submits it. Reading is lenient: a missing or malformed part
becomes an empty value, so that its trouble is reported by validation, host by host, and not as
an unreadable request.
-/

namespace EdgeSetup

open Json

/-- The role of a node. -/
inductive HostRole where
  | control
  | worker
  deriving DecidableEq, Repr, Inhabited

/-- A static address of an interface. -/
structure InterfaceAddress where
  ip : String
  /-- Wider than a real prefix, so that numbers out of range reach validation. -/
  prefixLength : UInt32
  gateway : String
  deriving DecidableEq, Repr, Inhabited

/-- The IPv4 settings of an interface. -/
structure InterfaceIpv4 where
  dhcp : Option Bool
  address : Option InterfaceAddress
  deriving DecidableEq, Repr, Inhabited

/-- A network interface of a node. -/
structure Interface where
  name : String
  ipv4 : InterfaceIpv4
  deriving DecidableEq, Repr, Inhabited

/-- A node whose static addresses are to be set. -/
structure Host where
  nodeName : String
  hostname : String
  /-- The network policy that already exists for the node. -/
  policyName : Option String
  role : HostRole
  dns : List String
  interfaces : List Interface
  deriving DecidableEq, Repr, Inhabited

/-! ## Empty values -/

/-- An address without any part. -/
def InterfaceAddress.empty : InterfaceAddress := ⟨"", 0, ""⟩

/-- Settings without an address. -/
def InterfaceIpv4.empty : InterfaceIpv4 := ⟨none, none⟩

/-- An interface without name or address. -/
def Interface.empty : Interface := ⟨"", .empty⟩

/-- A host without any part; the role is that of a worker. -/
def Host.empty : Host := ⟨"", "", none, .worker, [], []⟩

/-- The static address of an interface, if it has one. -/
def Interface.address (interface : Interface) : Option InterfaceAddress := interface.ipv4.address

/-! ## Reading and writing -/

/-- The written name of a role. -/
def HostRole.name : HostRole → String
  | control => "control"
  | worker => "worker"

instance : Decode HostRole where
  decode? source := (variant? source).bind fun
    | "control" => some .control
    | "worker" => some .worker
    | _ => none

instance : Encode HostRole := ⟨fun role => .string role.name⟩

instance : Decode InterfaceAddress where
  decode? source := do
    let record ← Record.ofSource? [["ip"], ["prefixLength"], ["gateway"]] source
    some ⟨← record.lenient? 0 "", ← record.lenient? 1 0, ← record.lenient? 2 ""⟩

instance : Encode InterfaceAddress where
  encode address := .object
    [("ip", encode address.ip), ("prefixLength", encode address.prefixLength),
      ("gateway", encode address.gateway)]

instance : Decode InterfaceIpv4 where
  decode? source := do
    let record ← Record.ofSource? [["dhcp"], ["address"]] source
    some ⟨← record.lenient? 0 none, ← record.lenient? 1 none⟩

instance : Encode InterfaceIpv4 where
  encode ipv4 := .object (memberIfSome "dhcp" ipv4.dhcp ++ memberIfSome "address" ipv4.address)

instance : Decode Interface where
  decode? source := do
    let record ← Record.ofSource? [["name"], ["ipv4"]] source
    some ⟨← record.lenient? 0 "", ← record.lenient? 1 .empty⟩

instance : Encode Interface where
  encode interface := .object [("name", encode interface.name), ("ipv4", encode interface.ipv4)]

instance : Decode Host where
  decode? source := do
    let record ← Record.ofSource?
      [["nodeName"], ["hostname"], ["nncpName"], ["role"], ["dns"], ["interfaces"]] source
    let nodeName ← record.lenient? 0 ""
    let hostname ← record.lenient? 1 ""
    let policyName ← record.lenient? 2 none
    let role ← record.lenient? 3 .worker
    let dns ← record.lenientList? 4 ""
    let interfaces ← record.lenientList? 5 .empty
    some { nodeName, hostname, policyName, role, dns, interfaces }

instance : Encode Host where
  encode host := .object <|
    [("nodeName", encode host.nodeName), ("hostname", encode host.hostname)] ++
      memberIfSome "nncpName" host.policyName ++
      [("role", encode host.role), ("dns", encode host.dns),
        ("interfaces", encode host.interfaces)]

/-! ## The request -/

/-- The request to set the static addresses of hosts. -/
structure StaticIpsRequest where
  hosts : List Host
  deriving DecidableEq, Repr

instance : Decode StaticIpsRequest where
  decode? source := do
    let record ← Record.ofSource? [["hosts"]] source
    some ⟨← record.lenientList? 0 .empty⟩

instance : Encode StaticIpsRequest where
  encode request := .object [("hosts", encode request.hosts)]

end EdgeSetup
