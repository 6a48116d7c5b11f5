import EdgeSetup.Certificate.Store
import EdgeSetup.DomainChange.Plan
import EdgeSetup.DomainChange.Request
import EdgeSetup.Dns.Name

/-!
# Changing the domain

The steps of a domain change, in order. There is no transaction: a step that fails ends the run and
leaves in place what was written before it, except that a best-effort step is given up quietly.
-/

namespace EdgeSetup

open Json Http

/-! ## Steps -/

/-- What the failure of a step means for the run. -/
inductive StepPolicy where
  | failFast
  | bestEffort
  deriving DecidableEq, Repr

/-- A step of a domain change. -/
inductive DomainStep where
  | validateInput
  | readIngress
  | issueApiCertificate
  | issueComponentCertificates
  | rehostRoutes
  | patchIngress
  | patchApiServer
  | refreshSetupUi
  deriving DecidableEq, Repr

namespace DomainStep

/-- The steps in order. -/
def order : List DomainStep :=
  [validateInput, readIngress, issueApiCertificate, issueComponentCertificates, rehostRoutes,
    patchIngress, patchApiServer, refreshSetupUi]

/-- What the failure of a step means. -/
def policy : DomainStep → StepPolicy
  | rehostRoutes | refreshSetupUi => .bestEffort
  | _ => .failFast

/-- The name of a step. -/
def name : DomainStep → String
  | validateInput => "validate-input"
  | readIngress => "read-ingress"
  | issueApiCertificate => "issue-api-certificate"
  | issueComponentCertificates => "issue-component-certificates"
  | rehostRoutes => "rehost-routes"
  | patchIngress => "patch-ingress"
  | patchApiServer => "patch-apiserver"
  | refreshSetupUi => "refresh-setup-ui"

end DomainStep

/-- Gives up an action quietly when it fails. -/
def orElseValue {α : Type} (fallback : α) (action : Attempting α) : Attempting α :=
  tryCatch action (fun _ => pure fallback)

/-- Takes a step under its policy; `fallback` stands for the value of a step that is given up. -/
def DomainStep.take {α : Type} (step : DomainStep) (fallback : α) (action : Attempting α) :
    Attempting α :=
  match step.policy with
  | .failFast => action
  | .bestEffort => orElseValue fallback action

/-! ## The service -/

/-- Where the setup UI lives, and whether it follows a change of the domain. -/
structure SetupUi where
  inNamespace : String
  deployment : String
  oauthClient : String
  refresh : Bool
  deriving DecidableEq, Repr

/-- What domain changes work with. -/
structure DomainChange where
  client : Client
  setupUi : SetupUi
  /-- The namespace that TLS secrets are stored in. -/
  secretNamespace : String

/-- How many routes were moved. -/
structure RehostCounts where
  moved : Nat
  failed : Nat
  deriving DecidableEq, Repr

/-- What a domain change came to. -/
inductive DomainChangeOutcome where
  /-- The cluster has the domain already. -/
  | unchanged
  | migrated (routes : RehostCounts)
  deriving DecidableEq, Repr

/-- The name of the only instance of a cluster-wide configuration. -/
def configName : String := "cluster"

namespace DomainChange

/-- Fails unless a write was carried out. -/
def requirePatched (resource : String) (result : WriteResult) : Except SetupError Unit :=
  if result.isSuccess then .ok () else .error (.patchFailed resource result.status result.message)

/-- The host names of the requested domain. -/
def requestedDomains (request : DomainChangeRequest) : Except SetupError Dns.ClusterDomains :=
  match request.domain with
  | none => .error (.invalidInput "Missing domain")
  | some suffix =>
    if Dns.isValidName suffix then .ok (.ofSuffix suffix)
    else .error (.invalidInput ("Invalid domain: " ++ suffix))

/-- The key pair for a host name: the one that the operator supplied, else a new one. -/
def certificateFor (request : DomainChangeRequest) (hostname : String) :
    Attempting CertificateBundle := do
  match request.customCerts.get? hostname with
  | some pair => return .ofCustom pair
  | none => ExceptT.mk (Session.certificate hostname)

/-- Obtains and stores the key pair for a host name, and gives the name of its secret. -/
def secretFor (change : DomainChange) (token : String) (request : DomainChangeRequest)
    (hostname namePrefix : String) : Attempting String := do
  let bundle ← certificateFor request hostname
  storeCertificate change.client token change.secretNamespace namePrefix bundle

/-- Obtains and stores the key pairs of components, and puts each into the component routes. -/
def secureComponents (change : DomainChange) (token : String) (request : DomainChangeRequest) :
    List Component → List ComponentRoute → Attempting (List ComponentRoute)
  | [], routes => return routes
  | component :: rest, routes => do
    let secret ← change.secretFor token request component.hostname component.secretPrefix
    change.secureComponents token request rest (upsertRoute (component.route secret) routes)

/-- Moves the routes of the old domain to the new one, side by side. -/
def rehostRoutes (change : DomainChange) (token : String) (old : Option String) (new : String) :
    Attempting RehostCounts := do
  match old with
  | none => return ⟨0, 0⟩
  | some old =>
    let routes ← change.client.list Route token .route
    let moves := routes.filterMap (routeMove? old new)
    let outcomes ← Session.callAll (moves.map fun move =>
      change.client.patchRequest token move.1 (.operations (routePatch move.2)))
    let moved := outcomes.countP (fun outcome =>
      match outcome with
      | .ok response => response.isSuccess
      | .error _ => false)
    let failed := outcomes.length - moved
    if 0 < failed then Session.tally .rehostFailures failed
    return ⟨moved, failed⟩

/-- Writes the new domain and component routes into the ingress configuration. -/
def patchIngress (change : DomainChange) (token : String) (ingress : IngressConfig)
    (domain : String) (routes : List ComponentRoute) : Attempting Unit := do
  let result ← change.client.patch token (.cluster .ingress configName)
    (.operations (ingressPatch ingress domain routes))
  requirePatched "Ingress cluster resource" result

/-- Points the API server at its new certificate. -/
def patchApiServer (change : DomainChange) (token : String) (document : Value) :
    Attempting Unit := do
  let result ← change.client.patch token (.cluster .apiServer configName) (.merge document)
  requirePatched "ApiServer cluster resource" result

/-- Lets the login of the setup UI return to its new host. -/
def updateRedirect (change : DomainChange) (token uri : String) : Attempting Unit := do
  let target := ResourceRef.cluster .oauthClient change.setupUi.oauthClient
  let client ← change.client.get OAuthClient token target
  match redirectPatch? client uri with
  | none => return ()
  | some operations =>
    let result ← change.client.patch token target (.operations operations)
    requirePatched target.text result

/-- Gives the setup UI its new host. -/
def updateDeployment (change : DomainChange) (token setupUiHost : String) : Attempting Unit := do
  let target :=
    ResourceRef.namespaced .deployment change.setupUi.inNamespace change.setupUi.deployment
  let deployment ← change.client.get Value token target
  let some containers := containers? deployment
    | throw (.other (target.text ++ " has no containers"))
  let some refreshed := refreshContainers? setupUiHost containers
    | throw (.other (target.text ++ " has no env variables"))
  let result ← change.client.patch token target
    (.operations [{ op := .replace, path := containersPath, value := refreshed }])
  requirePatched target.text result

/-- Points the setup UI at its new host. A login that can not be updated does not hold up the
deployment. -/
def refreshSetupUi (change : DomainChange) (token setupUiHost : String) : Attempting Unit := do
  if change.setupUi.refresh then
    orElseValue () (change.updateRedirect token (redirectUri setupUiHost))
    change.updateDeployment token setupUiHost

/-- The steps after the ingress configuration was read and found to differ. -/
def migrate (change : DomainChange) (token : String) (request : DomainChangeRequest)
    (domains : Dns.ClusterDomains) (ingress : IngressConfig) :
    Attempting DomainChangeOutcome := do
  let current := ClusterDomainState.ofIngress ingress
  let apiSecret ← DomainStep.issueApiCertificate.take "" <|
    change.secretFor token request domains.api apiSecretPrefix
  let routes ← DomainStep.issueComponentCertificates.take [] <|
    change.secureComponents token request (components domains change.setupUi.inNamespace)
      current.componentRoutes
  let rehosted ← DomainStep.rehostRoutes.take ⟨0, 0⟩ <|
    change.rehostRoutes token current.ingressDomain domains.ingress
  DomainStep.patchIngress.take () <| change.patchIngress token ingress domains.ingress routes
  DomainStep.patchApiServer.take () <|
    change.patchApiServer token (apiServerPatch domains.api apiSecret)
  DomainStep.refreshSetupUi.take () <| change.refreshSetupUi token domains.setupUi
  return .migrated rehosted

/-- All steps of a domain change. -/
def steps (change : DomainChange) (token : String) (request : DomainChangeRequest) :
    Attempting DomainChangeOutcome := do
  let domains ← requestedDomains request
  let ingress ← change.client.get IngressConfig token (.cluster .ingress configName)
  if (ClusterDomainState.ofIngress ingress).ingressDomain = some domains.ingress then
    return .unchanged
  else change.migrate token request domains ingress

/-- The label that a result is counted under. -/
def label : Except SetupError DomainChangeOutcome → ChangeLabel
  | .ok .unchanged => .unchanged
  | .ok (.migrated _) => .migrated
  | .error _ => .failed

/-- Changes the domain and counts the result. -/
def run (change : DomainChange) (token : String) (request : DomainChangeRequest) :
    Session (Except SetupError DomainChangeOutcome) := do
  let result ← (change.steps token request).run
  Session.tally (.domainChanges (label result)) 1
  return result

end DomainChange

end EdgeSetup
