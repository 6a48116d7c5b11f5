import EdgeSetup.Text.Split

/-!
# Host names of a cluster

Every public host name of a cluster follows from its domain suffix: the API under `api.`, and the
applications under `apps.`, each with a prefix of its own. `rehost` moves a host from one
application domain to another.
-/

namespace EdgeSetup.Dns

/-- The route of the setup UI. -/
def setupUiRoute : String := "edge-cluster-setup"

/-- The route of the OAuth server. -/
def oauthRoute : String := "oauth-openshift"

/-- The route of the web console. -/
def consoleRoute : String := "console-openshift-console"

/-- The host names that follow from one domain suffix. -/
structure ClusterDomains where
  suffix : String
  api : String
  ingress : String
  console : String
  oauth : String
  setupUi : String
  deriving DecidableEq, Repr

/-- The API host of a suffix. -/
def apiDomain (suffix : String) : String := "api." ++ suffix

/-- The application domain of a suffix. -/
def ingressDomain (suffix : String) : String := "apps." ++ suffix

/-- A host under an application domain. -/
def routeHost (route ingress : String) : String := route ++ "." ++ ingress

/-- The host names of a suffix. -/
def ClusterDomains.ofSuffix (suffix : String) : ClusterDomains :=
  let ingress := ingressDomain suffix
  { suffix
    api := apiDomain suffix
    ingress
    console := routeHost consoleRoute ingress
    oauth := routeHost oauthRoute ingress
    setupUi := routeHost setupUiRoute ingress }

/-- The application domain that a console host lives under: what follows the console route and a
dot, if anything does. -/
def ingressOfConsoleHost? (host : String) : Option String :=
  match Text.stripStart? (consoleRoute.toList ++ ['.']) host.toList with
  | some (c :: rest) => some (String.ofList (c :: rest))
  | _ => none

/-- The host moved from the old application domain to the new one. A host that is not under the
old domain on a label boundary has no new place, and neither has any host when nothing changes. -/
def rehost? (host old new : String) : Option String :=
  if old = "" || old = new then none
  else if host = old then some new
  else
    match Text.stripEnd? ('.' :: old.toList) host.toList with
    | none => none
    | some [] => some new
    | some (c :: rest) => some (String.ofList (c :: rest) ++ "." ++ new)

end EdgeSetup.Dns
