import EdgeSetup.Cluster.Metadata
import EdgeSetup.Dns.ClusterDomains

/-!
# Cluster objects

The parts of cluster objects that are read or written: the ingress configuration with its component
routes, routes, and OAuth clients.
-/

namespace EdgeSetup

open Json

/-! ## The ingress configuration -/

/-- A secret, by name. -/
structure SecretReference where
  name : String
  deriving DecidableEq, Repr, Inhabited

/-- A component of the cluster with the host name that it is served under. -/
structure ComponentRoute where
  name : String
  inNamespace : String
  hostname : String
  tlsSecret : SecretReference
  deriving DecidableEq, Repr, Inhabited

/-- What an ingress configuration asks for. -/
structure IngressSpec where
  domain : Option String
  componentRoutes : Option (List ComponentRoute)
  deriving DecidableEq, Repr, Inhabited

/-- The ingress configuration of a cluster. -/
structure IngressConfig where
  metadata : ObjectMeta
  spec : Option IngressSpec
  deriving DecidableEq, Repr, Inhabited

instance : Decode SecretReference :=
  ⟨fun source => (unwrap? ["name"] source).map SecretReference.mk⟩

instance : Encode SecretReference := ⟨fun ref => wrap ["name"] (encode ref.name)⟩

instance : Decode ComponentRoute where
  decode? source := do
    let record ← Record.ofSource?
      [["name"], ["namespace"], ["hostname"], ["servingCertKeyPairSecret"]] source
    some ⟨← record.required? 0, ← record.required? 1, ← record.required? 2, ← record.required? 3⟩

instance : Encode ComponentRoute where
  encode route := .object
    [("name", encode route.name), ("namespace", encode route.inNamespace),
      ("hostname", encode route.hostname), ("servingCertKeyPairSecret", encode route.tlsSecret)]

instance : Decode IngressSpec where
  decode? source := do
    let record ← Record.ofSource? [["domain"], ["componentRoutes"]] source
    some ⟨← record.orElse? 0 none, ← record.orElse? 1 none⟩

instance : Encode IngressSpec where
  encode spec := .object <|
    memberIfSome "domain" spec.domain ++ memberIfSome "componentRoutes" spec.componentRoutes

instance : Decode IngressConfig where
  decode? source := do
    let record ← Record.ofSource? [["metadata"], ["spec"]] source
    some ⟨← record.orElse? 0 .empty, ← record.orElse? 1 none⟩

instance : Encode IngressConfig where
  encode ingress := .object <|
    [("metadata", encode ingress.metadata)] ++ memberIfSome "spec" ingress.spec

/-- An ingress configuration with nothing in it. -/
def IngressConfig.empty : IngressConfig := ⟨.empty, none⟩

/-! ## The current domain -/

/-- The application domain and the component routes that a cluster has now. -/
structure ClusterDomainState where
  ingressDomain : Option String
  componentRoutes : List ComponentRoute
  deriving DecidableEq, Repr

/-- The application domain that the console's route lives under. -/
def consoleDomain? (routes : List ComponentRoute) : Option String :=
  routes.findSome? (fun route => Dns.ingressOfConsoleHost? route.hostname)

/-- Reads the current state off the ingress configuration: the domain that it names, unless that
is empty, else the one of the console's route. -/
def ClusterDomainState.ofIngress (ingress : IngressConfig) : ClusterDomainState :=
  let routes := (ingress.spec.bind IngressSpec.componentRoutes).getD []
  let named := (ingress.spec.bind IngressSpec.domain).filter (fun domain => !domain.isEmpty)
  { ingressDomain := named.or (consoleDomain? routes)
    componentRoutes := routes }

/-! ## Routes -/

/-- What a route asks for. -/
structure RouteSpec where
  host : Option String
  deriving DecidableEq, Repr, Inhabited

/-- A route. -/
structure Route where
  metadata : ObjectMeta
  spec : Option RouteSpec
  deriving DecidableEq, Repr, Inhabited

/-- The host of a route, if it has one. -/
def Route.host? (route : Route) : Option String := route.spec.bind RouteSpec.host

instance : Decode RouteSpec where
  decode? source := do
    let record ← Record.ofSource? [["host"]] source
    some ⟨← record.orElse? 0 none⟩

instance : Encode RouteSpec := ⟨fun spec => .object (memberIfSome "host" spec.host)⟩

instance : Decode Route where
  decode? source := do
    let record ← Record.ofSource? [["metadata"], ["spec"]] source
    some ⟨← record.orElse? 0 .empty, ← record.orElse? 1 none⟩

instance : Encode Route where
  encode route := .object <|
    [("metadata", encode route.metadata)] ++ memberIfSome "spec" route.spec

/-! ## OAuth -/

/-- An OAuth client. -/
structure OAuthClient where
  metadata : ObjectMeta
  redirectUris : Option (List String)
  deriving DecidableEq, Repr, Inhabited

instance : Decode OAuthClient where
  decode? source := do
    let record ← Record.ofSource? [["metadata"], ["redirectURIs"]] source
    some ⟨← record.orElse? 0 .empty, ← record.orElse? 1 none⟩

/-- The endpoints of the OAuth server that the setup UI logs in with. -/
structure OAuthEndpoints where
  authorization : String
  token : String
  deriving DecidableEq, Repr, Inhabited

instance : Decode OAuthEndpoints where
  decode? source := do
    let record ← Record.ofSource? [["authorization_endpoint"], ["token_endpoint"]] source
    some ⟨← record.required? 0, ← record.required? 1⟩

instance : Encode OAuthEndpoints where
  encode endpoints := .object
    [("authorization_endpoint", encode endpoints.authorization),
      ("token_endpoint", encode endpoints.token)]

/-! ## Lists and statuses -/

/-- The items of a list answer. -/
structure ItemList (α : Type) where
  items : List α

instance {α : Type} [Decode α] : Decode (ItemList α) where
  decode? source := do
    let record ← Record.ofSource? [["items"]] source
    some ⟨← record.orElse? 0 []⟩

/-- The message of a status answer, empty if there is none. -/
def statusMessage (body : Option Value) : String :=
  ((body.bind (·.get? "message")).bind Value.string?).getD ""

end EdgeSetup
