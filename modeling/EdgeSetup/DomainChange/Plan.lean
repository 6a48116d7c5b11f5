import EdgeSetup.Cluster.Objects
import EdgeSetup.Cluster.Resource
import EdgeSetup.Json.Patch

/-!
# What a domain change writes

The documents that a domain change works out before it sends them: the component routes with their
new host names, the patches of the ingress configuration and of the API server, the move of each
route, and the environment of the setup UI.
-/

namespace EdgeSetup

open Json

/-! ## Component routes -/

/-- A component of the cluster that gets a new host name. -/
structure Component where
  name : String
  inNamespace : String
  hostname : String
  /-- The start of the name of its TLS secret. -/
  secretPrefix : String
  deriving DecidableEq, Repr

/-- The start of the name of the API server's TLS secret. -/
def apiSecretPrefix : String := "api-secret-"

/-- The components that get new host names, in order. -/
def components (domains : Dns.ClusterDomains) (setupUiNamespace : String) : List Component :=
  [ ⟨"console", "openshift-console", domains.console, "console-secret-"⟩,
    ⟨"oauth-openshift", "openshift-authentication", domains.oauth, "oauth-secret-"⟩,
    ⟨Dns.setupUiRoute, setupUiNamespace, domains.setupUi, "setup-ui-secret-"⟩ ]

/-- The route of a component with its TLS secret. -/
def Component.route (component : Component) (secret : String) : ComponentRoute :=
  ⟨component.name, component.inNamespace, component.hostname, ⟨secret⟩⟩

/-- Gives the first route of the same name a new host name and secret, or adds the route at the
end. -/
def upsertRoute (route : ComponentRoute) : List ComponentRoute → List ComponentRoute
  | [] => [route]
  | existing :: rest =>
    if existing.name = route.name then
      { existing with hostname := route.hostname, tlsSecret := route.tlsSecret } :: rest
    else existing :: upsertRoute route rest

/-! ## Configuration patches -/

/-- Sets the domain and the component routes of the ingress configuration. -/
def ingressPatch (ingress : IngressConfig) (domain : String) (routes : List ComponentRoute) :
    List PatchOp :=
  match ingress.spec with
  | none =>
    [ { op := .add
        path := "/spec"
        value := .object [("componentRoutes", encode routes), ("domain", .string domain)] } ]
  | some spec =>
    [ .upsert spec.domain.isSome "/spec/domain" (.string domain),
      .upsert spec.componentRoutes.isSome "/spec/componentRoutes" (encode routes) ]

/-- Points the API server at one named certificate, in place of any it had. -/
def apiServerPatch (apiDomain secret : String) : Value :=
  wrap ["spec", "servingCerts", "namedCertificates"] <|
    .array
      [ .object
          [ ("names", .array [.string apiDomain]),
            ("servingCertificate", wrap ["name"] (.string secret)) ] ]

/-! ## Routes -/

/-- The patch that moves a route to a host. -/
def routePatch (host : String) : List PatchOp :=
  [{ op := .replace, path := "/spec/host", value := .string host }]

/-- Where a route moves from the old domain to the new one, if it moves: its address and its new
host. -/
def routeMove? (old new : String) (route : Route) : Option (ResourceRef × String) := do
  let host ← route.host?
  let target ← Dns.rehost? host old new
  let inNamespace := route.metadata.inNamespace.getD ""
  some (.namespaced .route inNamespace (route.metadata.name.getD ""), target)

/-! ## The setup UI -/

/-- The URL that the login of the setup UI returns to. -/
def redirectUri (setupUiHost : String) : String := "https://" ++ setupUiHost ++ "/login/callback"

/-- The URL of the setup UI. -/
def frontendUrl (setupUiHost : String) : String := "https://" ++ setupUiHost

/-- The patch that adds a redirect URI to an OAuth client, unless it is there. -/
def redirectPatch? (client : OAuthClient) (uri : String) : Option (List PatchOp) :=
  let uris := client.redirectUris.getD []
  if uris.contains uri then none
  else some [.upsert client.redirectUris.isSome "/redirectURIs" (encode (uris ++ [uri]))]

/-- The place of the containers in a deployment. -/
def containersPlace : List String := ["spec", "template", "spec", "containers"]

/-- The pointer to the containers in a deployment. -/
def containersPath : String := "/spec/template/spec/containers"

/-- Whether an entry of an environment has a name. -/
def isNamed (name : String) (entry : Value) : Bool :=
  (entry.get? "name").bind Value.string? == some name

/-- An entry of an environment with a new value. -/
def withValue (value : String) : Value → Value
  | .object members => .object (Members.insert "value" (.string value) members)
  | entry => entry

/-- Sets the value of the first entry of a name; an entry that is missing is not added. -/
def setVariable (name value : String) : List Value → List Value
  | [] => []
  | entry :: rest =>
    if isNamed name entry then withValue value entry :: rest
    else entry :: setVariable name value rest

/-- The environment of the setup UI under a new host. -/
def setupUiEnvironment (setupUiHost : String) (environment : List Value) : List Value :=
  setVariable "OAUTH2_REDIRECT_URL" (redirectUri setupUiHost)
    (setVariable "FRONTEND_URL" (frontendUrl setupUiHost) environment)

/-- The containers of a deployment, if it lists any. -/
def containers? (deployment : Value) : Option Value :=
  (deployment.at? containersPlace).filter Value.isArray

/-- The containers with the environment of the first one set for a new host, if it has one. -/
def refreshContainers? (setupUiHost : String) (containers : Value) : Option Value :=
  containers.updateAt? (fun environment =>
    environment.items?.map (fun entries => .array (setupUiEnvironment setupUiHost entries)))
    ["0", "env"]

end EdgeSetup
