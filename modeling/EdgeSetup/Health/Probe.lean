import EdgeSetup.Cluster.Client
import EdgeSetup.Dns.ClusterDomains

/-!
# Health

The service is live as long as the API server answers its pings, and ready once it also knows where
the OAuth server is. The endpoints of the OAuth server are looked up at most once.
-/

namespace EdgeSetup

open Http

/-- What the probes remember. -/
structure Health where
  live : Bool
  /-- The OAuth endpoints, once they were looked up. -/
  endpoints : Option OAuthEndpoints
  deriving DecidableEq, Repr

/-- The health of a service that just started. -/
def Health.initial : Health := ⟨true, none⟩

/-- A session that keeps an eye on the health of the service. -/
abbrev Watching := StateT Health Session

/-- What the probes work with. -/
structure HealthMonitor where
  client : Client
  serviceToken : Secret
  frontendUrl : String

/-! ## OAuth endpoints -/

namespace OAuthEndpoints

/-- Endpoints that are not known. -/
def empty : OAuthEndpoints := ⟨"", ""⟩

/-- The endpoints of the OAuth server beside the setup UI: the URL of the UI with the name of its
route replaced. -/
def ofFrontendUrl (url : String) : OAuthEndpoints :=
  let base := Text.trimEndWhile (· == '/') url.toList
  let server :=
    String.ofList (Text.replaceAll Dns.setupUiRoute.toList Dns.oauthRoute.toList base)
  ⟨server ++ "/oauth/authorize", server ++ "/oauth/token"⟩

end OAuthEndpoints

/-- How the URL of a local front end begins. -/
def localFrontend : String := "https://localhost"

/-- The document in which the cluster publishes its OAuth endpoints. -/
def discoveryPath : String := "/.well-known/oauth-authorization-server"

namespace HealthMonitor

/-- Marks the service as live or not. -/
def setLive (live : Bool) : Watching Unit := modify fun health => { health with live }

/-- Looks up the OAuth endpoints. Beside a local front end the cluster is asked; a failure to find
out leaves them empty and takes the service down. -/
def discover (monitor : HealthMonitor) (frontendUrl : String) : Watching OAuthEndpoints := do
  if Text.startsWith localFrontend frontendUrl then
    match ← (monitor.client.getPath OAuthEndpoints "" discoveryPath).run with
    | .ok endpoints => return endpoints
    | .error _ =>
      setLive false
      return .empty
  else return .ofFrontendUrl frontendUrl

/-- The OAuth endpoints, looked up the first time. -/
def endpoints (monitor : HealthMonitor) (frontendUrl : String) : Watching OAuthEndpoints := do
  match (← get).endpoints with
  | some known => return known
  | none =>
    let found ← monitor.discover frontendUrl
    modify fun health => { health with endpoints := some found }
    return found

/-- What the result of a ping says about the service: `none` leaves it as it was. -/
def verdict? : Except SetupError Nat → Option Bool
  | .ok status => some (status == 200)
  | .error (.transport failure) =>
    if failure.kind = .networkError || failure.kind = .notFound then some false else none
  | .error _ => none

/-- Pings the API server and draws the consequences. -/
def ping (monitor : HealthMonitor) : Watching Bool := do
  let verdict := verdict? (← (monitor.client.ping monitor.serviceToken.expose).run)
  if let some live := verdict then setLive live
  return verdict == some true

/-- Whether the service is live, after a ping. -/
def isLive (monitor : HealthMonitor) : Watching Bool := do
  if ← monitor.ping then return (← get).live else return false

/-- Whether the service is ready. -/
def isReady (monitor : HealthMonitor) : Watching Bool := do
  if ← monitor.isLive then
    let endpoints ← monitor.endpoints monitor.frontendUrl
    return !endpoints.authorization.isEmpty
  else return false

end HealthMonitor

end EdgeSetup
