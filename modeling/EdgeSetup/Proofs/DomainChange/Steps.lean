import EdgeSetup.Proofs.Cluster.Calls
import EdgeSetup.Proofs.DomainChange.Requests

/-!
# The steps of a domain change

What each step of a domain change can do and what it comes to, as relations between the events of
the step and its result: key pairs are obtained and stored (`Stores`, `StoresAll`), routes are
moved (`Rehosts`), configurations are patched, and the setup UI is refreshed (`RefreshesUi`).
-/

namespace EdgeSetup

open Json Http

/-- An action that is given up quietly has a value either way. -/
theorem orElseValue_runs {α : Type} {fallback : α} {action : Attempting α} {events : List Event}
    {result : Except SetupError α}
    (h : Attempting.Runs (orElseValue fallback action) events result) :
    ∃ value outcome, result = .ok value ∧ Attempting.Runs action events outcome ∧
      (outcome = .ok value ∨ value = fallback ∧ ∃ error, outcome = .error error) := by
  obtain ⟨first, rest, outcome, rfl, hfirst, hrest⟩ := Session.runs_bind.1 h
  cases outcome with
  | ok value =>
    obtain ⟨rfl, rfl⟩ := Session.runs_done.1 hrest
    rw [List.append_nil]
    exact ⟨value, .ok value, rfl, hfirst, .inl rfl⟩
  | error error =>
    obtain ⟨rfl, rfl⟩ := Session.runs_done.1 hrest
    rw [List.append_nil]
    exact ⟨fallback, .error error, rfl, hfirst, .inr ⟨rfl, error, rfl⟩⟩

namespace DomainChange

variable {change : DomainChange} {token : String} {request : DomainChangeRequest}
  {events : List Event}

/-! ## Key pairs -/

/-- A host name that needs a stored key pair, and the start of the name of its secret. -/
structure Target where
  hostname : String
  namePrefix : String
  deriving DecidableEq, Repr

/-- The host name and secret of a component. -/
def target (component : Component) : Target := ⟨component.hostname, component.secretPrefix⟩

/-- The host names that need stored key pairs, in order: the API server and the components. -/
def targets (domains : Dns.ClusterDomains) (setupUiNamespace : String) : List Target :=
  ⟨domains.api, apiSecretPrefix⟩ :: (components domains setupUiNamespace).map target

/-- How the key pair for a host name is obtained. -/
inductive Obtains (request : DomainChangeRequest) (hostname : String) :
    CertificateBundle → List Event → Prop where
  | supplied {pair : TlsCertificate} (given : request.customCerts.get? hostname = some pair) :
      Obtains request hostname (.ofCustom pair) []
  | issued {bundle : CertificateBundle} (missing : request.customCerts.get? hostname = none) :
      Obtains request hostname bundle [.issued hostname (.ok bundle)]

/-- A key pair that was stored. -/
structure StoredPair where
  target : Target
  bundle : CertificateBundle
  /-- What storing it came to. -/
  outcome : Outcome
  /-- The name that the cluster gave to the secret. -/
  secret : String

/-- How the key pair of a target is obtained and stored. -/
inductive Stores (change : DomainChange) (token : String) (request : DomainChangeRequest)
    (target : Target) : List Event → Except SetupError StoredPair → Prop where
  | unissued {error : SetupError} (missing : request.customCerts.get? target.hostname = none) :
      Stores change token request target [.issued target.hostname (.error error)] (.error error)
  | refused {bundle : CertificateBundle} {obtaining : List Event} {outcome : Outcome}
      {error : SetupError} (obtained : Obtains request target.hostname bundle obtaining)
      (uncreated : ∀ name, ¬ Created outcome name) :
      Stores change token request target
        (obtaining ++ [.called (change.secretPost token target.namePrefix bundle) outcome])
        (.error error)
  | stored {bundle : CertificateBundle} {obtaining : List Event} {outcome : Outcome}
      {secret : String} (obtained : Obtains request target.hostname bundle obtaining)
      (created : Created outcome secret) :
      Stores change token request target
        (obtaining ++ [.called (change.secretPost token target.namePrefix bundle) outcome])
        (.ok ⟨target, bundle, outcome, secret⟩)

/-- How the key pairs of targets are stored one after the other, up to the first failure. -/
inductive StoresAll (change : DomainChange) (token : String) (request : DomainChangeRequest) :
    List Target → List Event → Except SetupError (List StoredPair) → Prop where
  | nil : StoresAll change token request [] [] (.ok [])
  | failed {target : Target} {targets : List Target} {events : List Event} {error : SetupError}
      (first : Stores change token request target events (.error error)) :
      StoresAll change token request (target :: targets) events (.error error)
  | stored {target : Target} {targets : List Target} {earlier later : List Event}
      {pair : StoredPair} {result : Except SetupError (List StoredPair)}
      (first : Stores change token request target earlier (.ok pair))
      (rest : StoresAll change token request targets later result) :
      StoresAll change token request (target :: targets) (earlier ++ later)
        (result.map (pair :: ·))

/-- The component routes after the secrets of components were put into them. -/
def securedRoutes : List Component → List StoredPair → List ComponentRoute → List ComponentRoute
  | component :: components, pair :: pairs, routes =>
    securedRoutes components pairs (upsertRoute (component.route pair.secret) routes)
  | _, _, routes => routes

theorem certificateFor_runs {hostname : String} {result : Except SetupError CertificateBundle}
    (h : Attempting.Runs (certificateFor request hostname) events result) :
    (∃ error, result = .error error ∧ request.customCerts.get? hostname = none ∧
        events = [.issued hostname (.error error)]) ∨
      ∃ bundle, result = .ok bundle ∧ Obtains request hostname bundle events := by
  unfold certificateFor at h
  cases hcustom : request.customCerts.get? hostname with
  | some pair =>
    simp only [hcustom] at h
    obtain ⟨rfl, rfl⟩ := Attempting.runs_pure.1 h
    exact .inr ⟨_, rfl, .supplied hcustom⟩
  | none =>
    simp only [hcustom] at h
    rw [Attempting.runs_mk, Session.runs_certificate] at h
    subst h
    cases result with
    | error error => exact .inl ⟨error, rfl, rfl, rfl⟩
    | ok bundle => exact .inr ⟨bundle, rfl, .issued hcustom⟩

theorem secretFor_runs {hostname namePrefix : String} {result : Except SetupError String}
    (h : Attempting.Runs (change.secretFor token request hostname namePrefix) events result) :
    ∃ stored, Stores change token request ⟨hostname, namePrefix⟩ events stored ∧
      result = stored.map StoredPair.secret := by
  rcases Attempting.runs_bind.1 h with
    ⟨error, rfl, hobtain⟩ | ⟨obtaining, rest, bundle, rfl, hobtain, hstore⟩
  · rcases certificateFor_runs hobtain with ⟨_, ⟨⟩, hmissing, rfl⟩ | ⟨bundle, ⟨⟩, -⟩
    exact ⟨.error error, .unissued hmissing, rfl⟩
  · rcases certificateFor_runs hobtain with ⟨_, ⟨⟩, -⟩ | ⟨_, ⟨⟩, hobtains⟩
    obtain ⟨outcome, rfl, hresult⟩ := storeCertificate_runs hstore
    cases result with
    | error error =>
      refine ⟨.error error, .refused hobtains fun name hcreated => ?_, rfl⟩
      cases (hresult name).2 hcreated
    | ok secret => exact ⟨.ok _, .stored hobtains ((hresult secret).1 rfl), rfl⟩

theorem secureComponents_runs {components : List Component} {routes : List ComponentRoute}
    {result : Except SetupError (List ComponentRoute)}
    (h : Attempting.Runs (change.secureComponents token request components routes) events result) :
    ∃ stored, StoresAll change token request (components.map target) events stored ∧
      result = stored.map (fun pairs => securedRoutes components pairs routes) := by
  induction components generalizing routes events with
  | nil =>
    obtain ⟨rfl, rfl⟩ := Attempting.runs_pure.1 h
    exact ⟨.ok [], .nil, rfl⟩
  | cons component components ih =>
    rcases Attempting.runs_bind.1 h with
      ⟨error, rfl, hfirst⟩ | ⟨first, rest, secret, rfl, hfirst, hrest⟩
    · obtain ⟨stored, hstored, heq⟩ := secretFor_runs hfirst
      cases stored with
      | error error' =>
        cases heq
        exact ⟨.error error, .failed hstored, rfl⟩
      | ok pair => cases heq
    · obtain ⟨stored, hstored, heq⟩ := secretFor_runs hfirst
      cases stored with
      | error error' => cases heq
      | ok pair =>
        cases heq
        obtain ⟨result', hresult', rfl⟩ := ih hrest
        refine ⟨_, .stored hstored hresult', ?_⟩
        cases result' <;> rfl

/-! ## Routes -/

/-- The event of counting routes that were not moved; nothing is counted when there are none. -/
def failureTally (failed : Nat) : List Event :=
  if 0 < failed then [.counted .rehostFailures failed] else []

/-- Whether a call was answered and its request carried out. -/
def isAccepted : Outcome → Bool
  | .ok response => response.isSuccess
  | .error _ => false

/-- How the routes of an old domain are moved, and how many were. -/
inductive Rehosts (change : DomainChange) (token new : String) :
    Option String → List Event → RehostCounts → Prop where
  | skipped : Rehosts change token new none [] ⟨0, 0⟩
  | unlisted {old : String} {outcome : Outcome}
      (unreadable : ∀ routes, ¬ Reads outcome (⟨routes⟩ : ItemList Route)) :
      Rehosts change token new (some old) [.called (change.routeList token) outcome] ⟨0, 0⟩
  | settled {old : String} {outcome : Outcome} {routes : List Route} {outcomes : List Outcome}
      {moved failed : Nat} (listed : Reads outcome (⟨routes⟩ : ItemList Route))
      (same : outcomes.length = (routes.filterMap (routeMove? old new)).length)
      (hmoved : moved = outcomes.countP isAccepted) (hfailed : failed = outcomes.length - moved) :
      Rehosts change token new (some old)
        (.called (change.routeList token) outcome ::
          .calledAll (((routes.filterMap (routeMove? old new)).map (change.routeWrite token)).zip
            outcomes) :: failureTally failed)
        ⟨moved, failed⟩

theorem failureTally_runs {α : Type} {failed : Nat} {value : α} {result : Except SetupError α}
    (h : Attempting.Runs (if 0 < failed then do
        liftM (Session.tally .rehostFailures failed)
        pure value
      else pure value) events result) :
    events = failureTally failed ∧ result = .ok value := by
  unfold failureTally
  split at h
  · next hfailed =>
    rw [if_pos hfailed]
    rcases Attempting.runs_bind.1 h with ⟨error, -, htally⟩ | ⟨first, rest, _, rfl, htally, hrest⟩
    · obtain ⟨_, ⟨⟩, -⟩ := Attempting.runs_lift.1 htally
    · obtain ⟨_, ⟨⟩, htally⟩ := Attempting.runs_lift.1 htally
      obtain ⟨rfl, rfl⟩ := Attempting.runs_pure.1 hrest
      exact ⟨by rw [Session.runs_tally.1 htally]; rfl, rfl⟩
  · next hnone =>
    rw [if_neg hnone]
    exact Attempting.runs_pure.1 h

theorem rehostRoutes_runs {old : Option String} {new : String}
    {result : Except SetupError RehostCounts}
    (h : Attempting.Runs (change.rehostRoutes token old new) events result) :
    ∃ counts, Rehosts change token new old events counts ∧
      (result = .ok counts ∨ counts = ⟨0, 0⟩ ∧ ∃ error, result = .error error) := by
  cases old with
  | none =>
    obtain ⟨rfl, rfl⟩ := Attempting.runs_pure.1 h
    exact ⟨_, .skipped, .inl rfl⟩
  | some old =>
    rcases Attempting.runs_bind.1 h with
      ⟨error, rfl, hlist⟩ | ⟨listing, rest, routes, rfl, hlist, hrest⟩
    · obtain ⟨outcome, rfl, hresult⟩ := Client.list_runs hlist
      refine ⟨_, .unlisted fun routes hreads => ?_, .inr ⟨rfl, error, rfl⟩⟩
      cases (hresult routes).2 hreads
    · obtain ⟨outcome, rfl, hresult⟩ := Client.list_runs hlist
      have hlisted := (hresult routes).1 rfl
      rcases Attempting.runs_bind.1 hrest with
        ⟨error, rfl, hcalls⟩ | ⟨calls, tail, outcomes, rfl, hcalls, htail⟩
      · obtain ⟨_, ⟨⟩, -⟩ := Attempting.runs_lift.1 hcalls
      obtain ⟨_, ⟨⟩, hcalls⟩ := Attempting.runs_lift.1 hcalls
      obtain ⟨hsame, rfl⟩ := Session.runs_callAll.1 hcalls
      rw [List.length_map] at hsame
      obtain ⟨rfl, rfl⟩ := failureTally_runs htail
      exact ⟨_, .settled hlisted hsame rfl rfl, .inl rfl⟩

/-- The step that moves the routes has a result whatever happens. -/
theorem rehostStep_runs {old : Option String} {new : String}
    {result : Except SetupError RehostCounts}
    (h : Attempting.Runs (DomainStep.rehostRoutes.take ⟨0, 0⟩ (change.rehostRoutes token old new))
      events result) :
    ∃ counts, result = .ok counts ∧ Rehosts change token new old events counts := by
  obtain ⟨counts, outcome, rfl, hroutes, houtcome⟩ := orElseValue_runs h
  obtain ⟨counts', hrehosts, houtcome'⟩ := rehostRoutes_runs hroutes
  refine ⟨counts, rfl, ?_⟩
  rcases houtcome with rfl | ⟨rfl, error, rfl⟩
  · rcases houtcome' with heq | ⟨-, error, heq⟩
    · cases heq
      exact hrehosts
    · cases heq
  · rcases houtcome' with heq | ⟨rfl, -⟩
    · cases heq
    · exact hrehosts

/-! ## Configuration patches -/

/-- A patch that has to be carried out is one call, and it succeeds when that was accepted. -/
theorem patch_required_runs {ref : ResourceRef} {body : PatchBody} {resource : String}
    {result : Except SetupError Unit}
    (h : Attempting.Runs (change.client.patch token ref body >>= fun written =>
      liftM (requirePatched resource written)) events result) :
    ∃ outcome, events = [.called (change.client.patchRequest token ref body) outcome] ∧
      (result = .ok () ↔ Accepted outcome) := by
  have hrequired : ∀ response, requirePatched resource (.ofResponse response) = .ok () ↔
      response.isSuccess = true := by
    intro response
    unfold requirePatched
    split
    · next hsuccess => exact ⟨fun _ => hsuccess, fun _ => rfl⟩
    · next hfailed => exact ⟨nofun, fun hsuccess => absurd hsuccess hfailed⟩
  rcases Attempting.runs_bind.1 h with
    ⟨error, rfl, hpatch⟩ | ⟨first, rest, written, rfl, hpatch, hrest⟩
  · obtain ⟨outcome, rfl, hwritten⟩ := Client.patch_runs hpatch
    refine ⟨outcome, rfl, nofun, ?_⟩
    rintro ⟨response, rfl, -⟩
    cases (hwritten _).2 ⟨response, rfl, rfl⟩
  · obtain ⟨outcome, rfl, hwritten⟩ := Client.patch_runs hpatch
    obtain ⟨response, rfl, rfl⟩ := (hwritten written).1 rfl
    obtain ⟨rfl, rfl⟩ := Attempting.runs_ofExcept.1 hrest
    refine ⟨_, rfl, (hrequired response).trans ?_⟩
    simp [Accepted]

theorem patchIngress_runs {ingress : IngressConfig} {domain : String}
    {routes : List ComponentRoute} {result : Except SetupError Unit}
    (h : Attempting.Runs (change.patchIngress token ingress domain routes) events result) :
    ∃ outcome,
      events = [.called (change.ingressWrite token (ingressPatch ingress domain routes)) outcome] ∧
        (result = .ok () ↔ Accepted outcome) :=
  patch_required_runs h

theorem patchApiServer_runs {document : Value} {result : Except SetupError Unit}
    (h : Attempting.Runs (change.patchApiServer token document) events result) :
    ∃ outcome, events = [.called (change.apiServerWrite token document) outcome] ∧
      (result = .ok () ↔ Accepted outcome) :=
  patch_required_runs h

/-! ## The setup UI -/

/-- How the OAuth client of the setup UI is updated. -/
inductive UpdatesRedirect (change : DomainChange) (token uri : String) :
    List Event → Except SetupError Unit → Prop where
  | unread {outcome : Outcome} {error : SetupError}
      (unreadable : ∀ client : OAuthClient, ¬ Reads outcome client) :
      UpdatesRedirect change token uri [.called (change.oauthClientRead token) outcome]
        (.error error)
  | listed {outcome : Outcome} {client : OAuthClient} (reads : Reads outcome client)
      (there : redirectPatch? client uri = none) :
      UpdatesRedirect change token uri [.called (change.oauthClientRead token) outcome] (.ok ())
  | patched {outcome written : Outcome} {client : OAuthClient} {operations : List PatchOp}
      {result : Except SetupError Unit} (reads : Reads outcome client)
      (missing : redirectPatch? client uri = some operations)
      (settled : result = .ok () ↔ Accepted written) :
      UpdatesRedirect change token uri
        [.called (change.oauthClientRead token) outcome,
          .called (change.oauthClientWrite token operations) written] result

/-- How the deployment of the setup UI is updated. -/
inductive UpdatesDeployment (change : DomainChange) (token setupUiHost : String) :
    List Event → Except SetupError Unit → Prop where
  | unread {outcome : Outcome} {error : SetupError}
      (unreadable : ∀ deployment : Value, ¬ Reads outcome deployment) :
      UpdatesDeployment change token setupUiHost [.called (change.deploymentRead token) outcome]
        (.error error)
  | unfit {outcome : Outcome} {deployment : Value} {error : SetupError}
      (reads : Reads outcome deployment)
      (nothing : (containers? deployment).bind (refreshContainers? setupUiHost) = none) :
      UpdatesDeployment change token setupUiHost [.called (change.deploymentRead token) outcome]
        (.error error)
  | patched {outcome written : Outcome} {deployment refreshed : Value}
      {result : Except SetupError Unit} (reads : Reads outcome deployment)
      (fits : (containers? deployment).bind (refreshContainers? setupUiHost) = some refreshed)
      (settled : result = .ok () ↔ Accepted written) :
      UpdatesDeployment change token setupUiHost
        [.called (change.deploymentRead token) outcome,
          .called (change.deploymentWrite token
            [{ op := .replace, path := containersPath, value := refreshed }]) written] result

/-- How the setup UI is refreshed: the deployment is updated whatever became of the OAuth
client. -/
inductive RefreshesUi (change : DomainChange) (token setupUiHost : String) :
    List Event → Except SetupError Unit → Prop where
  | off (disabled : change.setupUi.refresh = false) :
      RefreshesUi change token setupUiHost [] (.ok ())
  | on {redirect deployment : List Event} {updated result : Except SetupError Unit}
      (enabled : change.setupUi.refresh = true)
      (first : UpdatesRedirect change token (redirectUri setupUiHost) redirect updated)
      (rest : UpdatesDeployment change token setupUiHost deployment result) :
      RefreshesUi change token setupUiHost (redirect ++ deployment) result

theorem updateRedirect_runs {uri : String} {result : Except SetupError Unit}
    (h : Attempting.Runs (change.updateRedirect token uri) events result) :
    UpdatesRedirect change token uri events result := by
  rcases Attempting.runs_bind.1 h with
    ⟨error, rfl, hread⟩ | ⟨first, rest, client, rfl, hread, hrest⟩
  · obtain ⟨outcome, rfl, hresult⟩ := Client.getPath_runs hread
    refine .unread fun client hreads => ?_
    cases (hresult client).2 hreads
  · obtain ⟨outcome, rfl, hresult⟩ := Client.getPath_runs hread
    have hreads := (hresult client).1 rfl
    cases hpatch : redirectPatch? client uri with
    | none =>
      simp only [hpatch] at hrest
      obtain ⟨rfl, rfl⟩ := Attempting.runs_pure.1 hrest
      exact .listed hreads hpatch
    | some operations =>
      simp only [hpatch] at hrest
      obtain ⟨written, rfl, hwritten⟩ := patch_required_runs hrest
      exact .patched hreads hpatch hwritten

theorem updateDeployment_runs {setupUiHost : String} {result : Except SetupError Unit}
    (h : Attempting.Runs (change.updateDeployment token setupUiHost) events result) :
    UpdatesDeployment change token setupUiHost events result := by
  rcases Attempting.runs_bind.1 h with
    ⟨error, rfl, hread⟩ | ⟨first, rest, deployment, rfl, hread, hrest⟩
  · obtain ⟨outcome, rfl, hresult⟩ := Client.getPath_runs hread
    refine .unread fun deployment hreads => ?_
    cases (hresult deployment).2 hreads
  · obtain ⟨outcome, rfl, hresult⟩ := Client.getPath_runs hread
    have hreads := (hresult deployment).1 rfl
    cases hcontainers : containers? deployment with
    | none =>
      simp only [hcontainers] at hrest
      obtain ⟨rfl, rfl⟩ := Attempting.runs_throw.1 hrest
      exact .unfit hreads (by rw [hcontainers]; rfl)
    | some containers =>
      simp only [hcontainers] at hrest
      cases hrefresh : refreshContainers? setupUiHost containers with
      | none =>
        simp only [hrefresh] at hrest
        obtain ⟨rfl, rfl⟩ := Attempting.runs_throw.1 hrest
        exact .unfit hreads (by rw [hcontainers]; exact hrefresh)
      | some refreshed =>
        simp only [hrefresh] at hrest
        obtain ⟨written, rfl, hwritten⟩ := patch_required_runs hrest
        exact .patched hreads (by rw [hcontainers]; exact hrefresh) hwritten

theorem refreshSetupUi_runs {setupUiHost : String} {result : Except SetupError Unit}
    (h : Attempting.Runs (change.refreshSetupUi token setupUiHost) events result) :
    RefreshesUi change token setupUiHost events result := by
  unfold refreshSetupUi at h
  cases hrefresh : change.setupUi.refresh with
  | false =>
    simp only [hrefresh, Bool.false_eq_true, if_false] at h
    obtain ⟨rfl, rfl⟩ := Attempting.runs_pure.1 h
    exact .off hrefresh
  | true =>
    simp only [hrefresh, if_true] at h
    rcases Attempting.runs_bind.1 h with
      ⟨error, -, hredirect⟩ | ⟨first, rest, _, rfl, hredirect, hrest⟩
    · obtain ⟨_, _, ⟨⟩, -⟩ := orElseValue_runs hredirect
    · obtain ⟨_, updated, -, hupdate, -⟩ := orElseValue_runs hredirect
      exact .on hrefresh (updateRedirect_runs hupdate) (updateDeployment_runs hrest)

end DomainChange

end EdgeSetup
