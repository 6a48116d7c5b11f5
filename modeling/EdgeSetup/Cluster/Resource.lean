/-!
# Addresses of cluster resources

A resource is addressed by its kind, its namespace and its name; without a name the address is
that of a collection.
-/

namespace EdgeSetup

/-- The kinds of resource that are read or written. -/
inductive ResourceKind where
  | ingress
  | apiServer
  | oauthClient
  | route
  | secret
  | deployment
  | nodePolicy
  deriving DecidableEq, Repr

namespace ResourceKind

/-- All kinds. -/
def all : List ResourceKind :=
  [ingress, apiServer, oauthClient, route, secret, deployment, nodePolicy]

/-- The path of the API group that serves a kind. -/
def groupPath : ResourceKind → String
  | ingress | apiServer => "/apis/config.openshift.io/v1"
  | oauthClient => "/apis/oauth.openshift.io/v1"
  | route => "/apis/route.openshift.io/v1"
  | secret => "/api/v1"
  | deployment => "/apis/apps/v1"
  | nodePolicy => "/apis/nmstate.io/v1"

/-- The path segment of the collection of a kind. -/
def plural : ResourceKind → String
  | ingress => "ingresses"
  | apiServer => "apiservers"
  | oauthClient => "oauthclients"
  | route => "routes"
  | secret => "secrets"
  | deployment => "deployments"
  | nodePolicy => "nodenetworkconfigurationpolicies"

/-- The name of a kind. -/
def name : ResourceKind → String
  | ingress => "Ingress"
  | apiServer => "ApiServer"
  | oauthClient => "OAuthClient"
  | route => "Route"
  | secret => "Secret"
  | deployment => "Deployment"
  | nodePolicy => "NodeNetworkConfigurationPolicy"

/-- The kind of a name. -/
def ofName? (name : String) : Option ResourceKind := all.find? (fun kind => kind.name == name)

end ResourceKind

/-- The address of a resource, or of a collection when it has no name. -/
structure ResourceRef where
  kind : ResourceKind
  inNamespace : Option String
  name : Option String
  deriving DecidableEq, Repr

namespace ResourceRef

/-- A resource of the whole cluster. -/
def cluster (kind : ResourceKind) (name : String) : ResourceRef := ⟨kind, none, some name⟩

/-- A resource in a namespace. -/
def namespaced (kind : ResourceKind) (inNamespace name : String) : ResourceRef :=
  ⟨kind, some inNamespace, some name⟩

/-- All resources of a kind, in one namespace or everywhere. -/
def collection (kind : ResourceKind) (inNamespace : Option String) : ResourceRef :=
  ⟨kind, inNamespace, none⟩

/-- The path of the namespace of an address. -/
def namespacePath (ref : ResourceRef) : String :=
  match ref.inNamespace with
  | some inNamespace => "/namespaces/" ++ inNamespace
  | none => ""

/-- The path of the name of an address. -/
def namePath (ref : ResourceRef) : String :=
  match ref.name with
  | some name => "/" ++ name
  | none => ""

/-- The path of an address. -/
def path (ref : ResourceRef) : String :=
  ref.kind.groupPath ++ ref.namespacePath ++ "/" ++ ref.kind.plural ++ ref.namePath

/-- The text of an address in a message. -/
def text (ref : ResourceRef) : String :=
  match ref.inNamespace, ref.name with
  | some inNamespace, some name => ref.kind.name ++ " " ++ inNamespace ++ "/" ++ name
  | none, some name => ref.kind.name ++ " " ++ name
  | some inNamespace, none => ref.kind.name ++ " in " ++ inNamespace
  | none, none => ref.kind.name

end ResourceRef

end EdgeSetup
