import EdgeSetup.DomainChange.Run
import EdgeSetup.Proofs.Cluster.Addresses

/-!
# The requests of a domain change

Everything that a domain change sends, by name. The requests that decide its result go to three
URLs (`decisiveUrls`); the requests of the best-effort steps (`BestEffort`) go to none of these,
however routes are named (`BestEffort.url_not_decisive`).
-/

namespace EdgeSetup

open Json Http

namespace DomainChange

variable (change : DomainChange) (token : String)

/-! ## Addresses -/

/-- The address of the ingress configuration. -/
def ingressRef : ResourceRef := .cluster .ingress configName

/-- The address of the API server's configuration. -/
def apiServerRef : ResourceRef := .cluster .apiServer configName

/-- The address of the collection that TLS secrets are created in. -/
def secretsRef : ResourceRef := .collection .secret (some change.secretNamespace)

/-- The address of the OAuth client of the setup UI. -/
def oauthClientRef : ResourceRef := .cluster .oauthClient change.setupUi.oauthClient

/-- The address of the deployment of the setup UI. -/
def deploymentRef : ResourceRef :=
  .namespaced .deployment change.setupUi.inNamespace change.setupUi.deployment

/-! ## Requests -/

/-- Reads the ingress configuration. -/
def ingressRead : Request := change.client.readRequest token ingressRef.path

/-- Patches the ingress configuration. -/
def ingressWrite (operations : List PatchOp) : Request :=
  change.client.patchRequest token ingressRef (.operations operations)

/-- Patches the API server's configuration. -/
def apiServerWrite (document : Value) : Request :=
  change.client.patchRequest token apiServerRef (.merge document)

/-- Creates the TLS secret of a bundle. -/
def secretPost (namePrefix : String) (bundle : CertificateBundle) : Request :=
  change.client.postRequest token change.secretsRef
    (bundle.tlsSecret change.secretNamespace namePrefix)

/-- Lists the routes. -/
def routeList : Request := change.client.readRequest token (Client.listPath .route)

/-- Moves a route to a host. -/
def routeWrite (move : ResourceRef × String) : Request :=
  change.client.patchRequest token move.1 (.operations (routePatch move.2))

/-- Reads the OAuth client of the setup UI. -/
def oauthClientRead : Request := change.client.readRequest token change.oauthClientRef.path

/-- Patches the OAuth client of the setup UI. -/
def oauthClientWrite (operations : List PatchOp) : Request :=
  change.client.patchRequest token change.oauthClientRef (.operations operations)

/-- Reads the deployment of the setup UI. -/
def deploymentRead : Request := change.client.readRequest token change.deploymentRef.path

/-- Patches the deployment of the setup UI. -/
def deploymentWrite (operations : List PatchOp) : Request :=
  change.client.patchRequest token change.deploymentRef (.operations operations)

/-! ### Methods and URLs -/

@[simp] theorem ingressRead_method : (change.ingressRead token).method = .get :=
  Client.readRequest_method ..

@[simp] theorem ingressRead_url :
    (change.ingressRead token).url = change.client.url ingressRef.path :=
  Client.readRequest_url ..

@[simp] theorem ingressWrite_method (operations : List PatchOp) :
    (change.ingressWrite token operations).method = .patch :=
  Client.patchRequest_method ..

@[simp] theorem ingressWrite_url (operations : List PatchOp) :
    (change.ingressWrite token operations).url = change.client.url ingressRef.path :=
  Client.patchRequest_url ..

@[simp] theorem apiServerWrite_method (document : Value) :
    (change.apiServerWrite token document).method = .patch :=
  Client.patchRequest_method ..

@[simp] theorem apiServerWrite_url (document : Value) :
    (change.apiServerWrite token document).url = change.client.url apiServerRef.path :=
  Client.patchRequest_url ..

@[simp] theorem secretPost_method (namePrefix : String) (bundle : CertificateBundle) :
    (change.secretPost token namePrefix bundle).method = .post :=
  Client.postRequest_method ..

@[simp] theorem secretPost_url (namePrefix : String) (bundle : CertificateBundle) :
    (change.secretPost token namePrefix bundle).url = change.client.url change.secretsRef.path :=
  Client.postRequest_url ..

@[simp] theorem routeList_method : (change.routeList token).method = .get :=
  Client.readRequest_method ..

@[simp] theorem routeList_url :
    (change.routeList token).url = change.client.url (Client.listPath .route) :=
  Client.readRequest_url ..

@[simp] theorem routeWrite_url (move : ResourceRef × String) :
    (change.routeWrite token move).url = change.client.url move.1.path :=
  Client.patchRequest_url ..

@[simp] theorem oauthClientRead_url :
    (change.oauthClientRead token).url = change.client.url change.oauthClientRef.path :=
  Client.readRequest_url ..

@[simp] theorem oauthClientWrite_url (operations : List PatchOp) :
    (change.oauthClientWrite token operations).url =
      change.client.url change.oauthClientRef.path :=
  Client.patchRequest_url ..

@[simp] theorem deploymentRead_url :
    (change.deploymentRead token).url = change.client.url change.deploymentRef.path :=
  Client.readRequest_url ..

@[simp] theorem deploymentWrite_url (operations : List PatchOp) :
    (change.deploymentWrite token operations).url =
      change.client.url change.deploymentRef.path :=
  Client.patchRequest_url ..

/-! ### Bodies -/

@[simp] theorem secretPost_body (namePrefix : String) (bundle : CertificateBundle) :
    (change.secretPost token namePrefix bundle).body =
      some (bundle.tlsSecret change.secretNamespace namePrefix) :=
  Client.postRequest_body ..

variable {change token} in
/-- A creation tells what the name of the secret starts with. -/
theorem secretPost_prefix_inj {a b : String} {bundle bundle' : CertificateBundle}
    (h : change.secretPost token a bundle = change.secretPost token b bundle') : a = b := by
  have hbody := congrArg Request.body h
  rw [secretPost_body, secretPost_body] at hbody
  simp [CertificateBundle.tlsSecret, encode, memberIfSome] at hbody
  exact hbody.1

/-! ### Configurations -/

/-- The path of the ingress configuration. -/
def ingressPath : String := "/apis/config.openshift.io/v1/ingresses/cluster"

/-- The request sets the domain and the component routes of the ingress configuration. -/
inductive PatchesIngress (client : Client) (domain : String) (routes : List ComponentRoute)
    (sent : Request) : Prop where
  /-- The configuration has a `spec`, in which the two are added or replaced. -/
  | members (domainKind routesKind : PatchKind)
      (patches : client.Patches ingressPath
        [ ⟨domainKind, "/spec/domain", .string domain⟩,
          ⟨routesKind, "/spec/componentRoutes", encode routes⟩ ] sent)
  /-- The configuration gets a `spec` of the two. -/
  | spec
      (patches : client.Patches ingressPath
        [⟨.add, "/spec", .object [("componentRoutes", encode routes), ("domain", .string domain)]⟩]
        sent)

/-- The request points the API server at one certificate, for a host name. -/
structure PatchesApiServer (client : Client) (hostname secret : String) (sent : Request) :
    Prop where
  method : sent.method = .patch
  url : sent.url = client.url "/apis/config.openshift.io/v1/apiservers/cluster"
  body : ∃ body, sent.body = some body ∧
    body.at? ["spec", "servingCerts", "namedCertificates"] =
      some (.array
        [ .object
            [ ("names", .array [.string hostname]),
              ("servingCertificate", .object [("name", .string secret)]) ] ])

theorem ingressWrite_patchesIngress (ingress : IngressConfig) (domain : String)
    (routes : List ComponentRoute) :
    PatchesIngress change.client domain routes
      (change.ingressWrite token (ingressPatch ingress domain routes)) := by
  have hpatches : change.client.Patches ingressPath (ingressPatch ingress domain routes)
      (change.ingressWrite token (ingressPatch ingress domain routes)) :=
    change.client.patchRequest_patches token ingressRef _
  obtain ⟨metadata, _ | spec⟩ := ingress
  · exact .spec hpatches
  · exact .members _ _ hpatches

theorem apiServerWrite_patchesApiServer (hostname secret : String) :
    PatchesApiServer change.client hostname secret
      (change.apiServerWrite token (apiServerPatch hostname secret)) :=
  ⟨apiServerWrite_method .., apiServerWrite_url .., _, Client.patchRequest_body .., rfl⟩

/-! ## Best-effort requests -/

/-- The requests that refresh the setup UI. -/
inductive Refreshes : Request → Prop where
  | readOAuthClient : Refreshes (change.oauthClientRead token)
  | patchOAuthClient (operations : List PatchOp) :
      Refreshes (change.oauthClientWrite token operations)
  | readDeployment : Refreshes (change.deploymentRead token)
  | patchDeployment (operations : List PatchOp) :
      Refreshes (change.deploymentWrite token operations)

/-- The requests of the best-effort steps. -/
inductive BestEffort : Request → Prop where
  | listRoutes : BestEffort (change.routeList token)
  | moveRoute (inNamespace name host : String) :
      BestEffort (change.routeWrite token (.namespaced .route inNamespace name, host))
  | refresh {request : Request} (h : Refreshes change token request) : BestEffort request

/-- The URLs whose answers decide the result of a domain change. -/
def decisiveUrls : List String :=
  [change.client.url ingressRef.path, change.client.url apiServerRef.path,
    change.client.url change.secretsRef.path]

variable {change token}

theorem mem_decisiveUrls {url : String} :
    url ∈ change.decisiveUrls ↔
      ∃ ref ∈ [ingressRef, apiServerRef, change.secretsRef], url = change.client.url ref.path := by
  simp [decisiveUrls]

theorem url_not_decisive (change : DomainChange) (ref : ResourceRef) (rest : String)
    (hconfig : ref.kind.mark ≠ 'c') (hcore : ref.kind.mark ≠ '1') :
    change.client.url (ref.path ++ rest) ∉ change.decisiveUrls := by
  intro h
  obtain ⟨other, hother, heq⟩ := mem_decisiveUrls.1 h
  refine Client.url_ne_of_mark_ne ?_ rest heq
  simp only [List.mem_cons, List.not_mem_nil, or_false] at hother
  rcases hother with rfl | rfl | rfl
  · exact hconfig
  · exact hconfig
  · exact hcore

theorem Refreshes.url_not_decisive {request : Request} (h : Refreshes change token request) :
    request.url ∉ change.decisiveUrls := by
  have hoauth := change.url_not_decisive change.oauthClientRef ""
    (show 'o' ≠ 'c' by decide) (show 'o' ≠ '1' by decide)
  have hdeployment := change.url_not_decisive change.deploymentRef ""
    (show 'a' ≠ 'c' by decide) (show 'a' ≠ '1' by decide)
  rw [String.append_empty] at hoauth hdeployment
  cases h with
  | readOAuthClient => simpa using hoauth
  | patchOAuthClient operations => simpa using hoauth
  | readDeployment => simpa using hdeployment
  | patchDeployment operations => simpa using hdeployment

/-- The best-effort requests go to none of the decisive URLs. -/
theorem BestEffort.url_not_decisive {request : Request} (h : BestEffort change token request) :
    request.url ∉ change.decisiveUrls := by
  cases h with
  | listRoutes =>
    rw [routeList_url, Client.listPath, String.append_assoc]
    exact change.url_not_decisive _ _ (show 'r' ≠ 'c' by decide) (show 'r' ≠ '1' by decide)
  | moveRoute inNamespace name host =>
    have hroute := change.url_not_decisive (.namespaced .route inNamespace name) ""
      (show 'r' ≠ 'c' by decide) (show 'r' ≠ '1' by decide)
    rw [String.append_empty] at hroute
    simpa using hroute
  | refresh h => exact h.url_not_decisive

theorem ingressRef_url_ne_apiServerRef_url :
    change.client.url ingressRef.path ≠ change.client.url apiServerRef.path := by
  rw [Ne, Client.url_inj]
  decide

end DomainChange

end EdgeSetup
