import EdgeSetup.Error
import EdgeSetup.Network.SocketAddress
import EdgeSetup.Settings.Basic
import EdgeSetup.Text.Split

/-!
# Checking settings

The first fault of some settings, in the order in which the checks are made.
-/

namespace EdgeSetup

/-- A fault of some settings. -/
inductive SettingsError where
  | listenAddress
  | apiUrl (url : String)
  | noRequestTimeout
  | shrinkingBackoff
  | noValidity
  | noSecretNamespace
  | metricsAddress
  deriving DecidableEq, Repr

/-- Why a text is no socket address. -/
def socketAddressText : String := "invalid socket address syntax"

/-- The text of a fault. -/
def SettingsError.text : SettingsError → String
  | listenAddress => "Invalid listen address: " ++ socketAddressText
  | apiUrl url => "Cluster API URL must be http(s): " ++ url
  | noRequestTimeout => "Request timeout cannot be 0"
  | shrinkingBackoff => "Retry backoff multiplier must be at least 1.0"
  | noValidity => "Certificate validity cannot be 0 days"
  | noSecretNamespace => "TLS secret namespace cannot be empty"
  | metricsAddress => "Invalid metrics address: " ++ socketAddressText

namespace Settings

/-- The address that the service listens on. -/
def listenAddress? (settings : Settings) : Option SocketAddress :=
  SocketAddress.parse? settings.server.listenAddress

/-- Whether a URL is of a scheme that the cluster can be reached by. -/
def isHttpUrl (url : String) : Bool :=
  Text.startsWith "http://" url || Text.startsWith "https://" url

/-- The first fault of the settings. -/
def fault? (settings : Settings) : Option SettingsError :=
  if settings.listenAddress?.isNone then some .listenAddress
  else if !isHttpUrl settings.cluster.apiUrl then some (.apiUrl settings.cluster.apiUrl)
  else if settings.cluster.requestTimeoutSeconds = 0 then some .noRequestTimeout
  else if Binary64.lt settings.retry.backoffMultiplier 1 then some .shrinkingBackoff
  else if settings.certificates.tool.validityDays = 0 then some .noValidity
  else if settings.certificates.secretNamespace.isEmpty then some .noSecretNamespace
  else if settings.metrics.enabled
      && (SocketAddress.parse? settings.metrics.listenAddress).isNone then
    some .metricsAddress
  else none

/-- Fails with the first fault of the settings. -/
def validate (settings : Settings) : Except SetupError Unit :=
  match settings.fault? with
  | some fault => .error (.config fault.text)
  | none => .ok ()

end Settings

end EdgeSetup
