import EdgeSetup.Host.Basic
import EdgeSetup.Network.Ipv4
import EdgeSetup.Text.Quoted

/-!
# Validation of hosts

The structural check that a host passes before anything is written for it. The first violation is
reported, in the order node name, name servers, interfaces, and then interface by interface:
completeness, address, gateway, prefix length.
-/

namespace EdgeSetup

/-- What is wrong with a host. -/
inductive HostError where
  | missingNodeName
  | missingDns (host : String)
  | missingInterfaces (host : String)
  | incompleteInterface (host interface : String)
  | invalidAddress (host interface value : String)
  | invalidPrefix (host interface : String) (length : UInt32)
  deriving DecidableEq, Repr

namespace HostError

/-- The text of an error. -/
def message : HostError → String
  | missingNodeName => "host has no node name"
  | missingDns host => "host " ++ host ++ " has no DNS servers"
  | missingInterfaces host => "host " ++ host ++ " has no interfaces"
  | incompleteInterface host interface =>
    "host " ++ host ++ ": interface " ++ Text.quoted interface ++
      " is missing name, ip, gateway or prefix length"
  | invalidAddress host interface value =>
    "host " ++ host ++ ": interface " ++ interface ++ " has invalid address " ++ value
  | invalidPrefix host interface length =>
    "host " ++ host ++ ": interface " ++ interface ++ " has invalid prefix length " ++
      toString length.toNat

end HostError

/-- The longest prefix of an IPv4 network. -/
def maxPrefixLength : Nat := 32

namespace Interface

/-- The address of an interface that has all of its parts. -/
def completeAddress? (interface : Interface) : Option InterfaceAddress :=
  interface.address.filter fun address =>
    !(interface.name.isEmpty || address.ip.isEmpty || address.gateway.isEmpty ||
      address.prefixLength == 0)

/-- Checks one interface of a host. -/
def validate (host : String) (interface : Interface) : Except HostError Unit := do
  let some address := interface.completeAddress?
    | throw (.incompleteInterface host interface.name)
  if (Ipv4.parse? address.ip).isNone then
    throw (.invalidAddress host interface.name address.ip)
  if (Ipv4.parse? address.gateway).isNone then
    throw (.invalidAddress host interface.name address.gateway)
  if maxPrefixLength < address.prefixLength.toNat then
    throw (.invalidPrefix host interface.name address.prefixLength)

end Interface

/-- Checks a host. -/
def Host.validate (host : Host) : Except HostError Unit := do
  if host.nodeName.isEmpty then throw .missingNodeName
  if host.dns.isEmpty then throw (.missingDns host.nodeName)
  if host.interfaces.isEmpty then throw (.missingInterfaces host.nodeName)
  host.interfaces.forM (Interface.validate host.nodeName)

end EdgeSetup
