import EdgeSetup.Settings.Validation

/-!
# Listening

The addresses that the service listens on: one for its own interface, and one for metrics if they
are enabled. An address must be written properly and belong to the machine; the loopback and the
unspecified addresses belong to every machine.
-/

namespace EdgeSetup

/-- Whether every machine has an address. -/
def IpAddress.isLocal : IpAddress → Bool
  | v4 ip => ip.isLoopback || ip.isUnspecified
  | v6 ip => ip.isLoopback || ip.isUnspecified

/-- The name that every machine knows itself by. -/
def localhostName : String := "localhost"

/-- Whether a text names a port of the machine by name. -/
def namesLocalhost (text : String) : Bool :=
  match Text.stripStart? (localhostName ++ ":").toList text.toList with
  | some digits => (SocketAddress.port? digits).isSome
  | none => false

/-- Whether the service can listen on what a text names. -/
def canListen (text : String) : Bool :=
  match SocketAddress.parse? text with
  | some address => address.ip.isLocal
  | none => namesLocalhost text

/-- Why the service could not listen. -/
def listenFault (text : String) : String := "Failed to bind to " ++ text

/-- Listens on the configured address. -/
def ServerSettings.listen (server : ServerSettings) : Except String Unit :=
  if canListen server.listenAddress then .ok () else .error (listenFault server.listenAddress)

/-- The address that metrics are shown on: none when they are not enabled. -/
def MetricsSettings.address (metrics : MetricsSettings) : Except String (Option SocketAddress) :=
  if metrics.enabled then
    match SocketAddress.parse? metrics.listenAddress with
    | some address => .ok (some address)
    | none =>
      .error ("Invalid metrics address " ++ metrics.listenAddress ++ ": " ++ socketAddressText)
  else .ok none

end EdgeSetup
