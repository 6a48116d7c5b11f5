import EdgeSetup.Gateway.Serve
import EdgeSetup.Health.Loop
import EdgeSetup.Settings.Basic

/-!
# Starting the service

Settings and the token of the service make a gateway and a ping loop. Two settings make it
impossible: the wildcard as another origin, and a ping loop without a pause.
-/

namespace EdgeSetup

/-- A service that was started. -/
structure Service where
  gateway : Gateway
  /-- The period of the ping loop, in milliseconds. -/
  pingPeriod : Nat
  pingPeriod_pos : 0 < pingPeriod

namespace Service

/-- Why a service can not be started. -/
inductive StartFault where
  | wildcardOrigin
  | noPingInterval
  deriving DecidableEq, Repr

/-- The number of milliseconds in a second. -/
def millisPerSecond : Nat := 1000

/-- What domain changes work with under some settings. -/
def domainChange (settings : Settings) : DomainChange :=
  ⟨.ofUrl settings.cluster.apiUrl, settings.setupUi, settings.certificates.secretNamespace⟩

/-- What the probes work with under some settings. -/
def monitor (settings : Settings) (token : Secret) : HealthMonitor :=
  ⟨.ofUrl settings.cluster.apiUrl, token, settings.cluster.frontendUrl⟩

/-- Starts the service: first its ping loop, then its interface. -/
def start (settings : Settings) (token : Secret) : Except StartFault Service :=
  let period := millisPerSecond * settings.cluster.pingIntervalSeconds.toNat
  if positive : 0 < period then
    match Gateway.new? settings.server.corsOrigin (domainChange settings)
      (monitor settings token) with
    | some gateway => .ok ⟨gateway, period, positive⟩
    | none => .error .wildcardOrigin
  else .error .noPingInterval

end Service

end EdgeSetup
