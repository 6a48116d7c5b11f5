import EdgeSetup.Proofs.Dns.Rehosting
import EdgeSetup.Proofs.DomainChange.IngressPatch
import EdgeSetup.Proofs.DomainChange.Saga
import EdgeSetup.Proofs.DomainChange.Upserts
import EdgeSetup.Proofs.DomainChange.Wiring

/-!
# The two sources of the current domain

The current domain is named by the ingress configuration, or else read off the first component
route with a host name of the console. The domain is set by a change, and the component routes are
found by their names, so it takes an argument that the two agree: the console's entry has the new
host name, and no entry before it has one of the console (`consoleDomain?_upsertRoute_console`),
nor has any of the entries that are put in after it (`consoleDomain?_upsertRoutes`).

**Main theorem (`DomainChange.secureComponents_sources`)**: a configuration with the component
routes that a change secured is one of the new domain, whether it names the domain or not, so a
later run finds the same.
-/

namespace EdgeSetup

open Json Http

/-! ## Host names of the console -/

/-- A host name that begins like that of the console. -/
def LikeConsole (host : String) : Prop := Text.startsWith Dns.consoleRoute host = true

theorem ingressOfConsoleHost?_eq_none {host : String} (h : ¬ LikeConsole host) :
    Dns.ingressOfConsoleHost? host = none := by
  unfold Dns.ingressOfConsoleHost?
  split
  · next c rest hcut =>
    rw [Text.stripStart?_eq_some_iff, List.append_assoc] at hcut
    rw [LikeConsole, Text.startsWith, Text.stripStart?_eq_some_iff.2 hcut] at h
    exact absurd rfl h
  · rfl

theorem ingressOfConsoleHost?_routeHost {domain : String} (h : domain ≠ "") :
    Dns.ingressOfConsoleHost? (Dns.routeHost Dns.consoleRoute domain) = some domain := by
  have hcut : Text.stripStart? (Dns.consoleRoute.toList ++ ['.'])
      (Dns.routeHost Dns.consoleRoute domain).toList = some domain.toList := by
    rw [Text.stripStart?_eq_some_iff, Dns.toList_routeHost, List.append_assoc]
    rfl
  cases hdomain : domain.toList with
  | nil => exact absurd (String.toList_eq_nil_iff.1 hdomain) h
  | cons c rest =>
    have hwhole : String.ofList (c :: rest) = domain := by rw [← hdomain, String.ofList_toList]
    rw [Dns.ingressOfConsoleHost?, hcut, hdomain]
    exact congrArg some hwhole

theorem not_likeConsole_oauth (domain : String) :
    ¬ LikeConsole (Dns.routeHost Dns.oauthRoute domain) := by
  rw [LikeConsole, Text.startsWith, Dns.toList_routeHost]
  exact nofun

theorem not_likeConsole_setupUi (domain : String) :
    ¬ LikeConsole (Dns.routeHost Dns.setupUiRoute domain) := by
  rw [LikeConsole, Text.startsWith, Dns.toList_routeHost]
  exact nofun

/-! ## The console's entry -/

/-- Only entries of the console have host names that begin like that of the console. -/
def OnlyConsole (routes : List ComponentRoute) : Prop :=
  ∀ route ∈ routes, LikeConsole route.hostname → route.name = "console"

variable {route existing : ComponentRoute} {routes rest updates : List ComponentRoute}

theorem OnlyConsole.ingressOfConsoleHost?_eq_none (h : OnlyConsole routes)
    (hmem : existing ∈ routes) (hname : existing.name ≠ "console") :
    Dns.ingressOfConsoleHost? existing.hostname = none :=
  EdgeSetup.ingressOfConsoleHost?_eq_none fun hlike => hname (h existing hmem hlike)

theorem OnlyConsole.tail (h : OnlyConsole (existing :: rest)) : OnlyConsole rest :=
  fun route hmem => h route (List.mem_cons_of_mem _ hmem)

theorem consoleDomain?_cons_of_none (h : Dns.ingressOfConsoleHost? existing.hostname = none) :
    consoleDomain? (existing :: rest) = consoleDomain? rest := by
  rw [consoleDomain?, List.findSome?_cons, h]
  rfl

theorem consoleDomain?_cons_of_some {domain : String}
    (h : Dns.ingressOfConsoleHost? existing.hostname = some domain) :
    consoleDomain? (existing :: rest) = some domain := by
  rw [consoleDomain?, List.findSome?_cons, h]

/-- The entry of the console decides once it has its new host name. -/
theorem consoleDomain?_upsertRoute_console {domain : String} (h : OnlyConsole routes)
    (hname : route.name = "console")
    (hhost : Dns.ingressOfConsoleHost? route.hostname = some domain) :
    consoleDomain? (upsertRoute route routes) = some domain := by
  induction routes with
  | nil => exact consoleDomain?_cons_of_some hhost
  | cons existing rest ih =>
    by_cases hfound : existing.name = route.name
    · rw [upsertRoute, if_pos hfound]
      exact consoleDomain?_cons_of_some hhost
    · have hnone := h.ingressOfConsoleHost?_eq_none List.mem_cons_self (hname ▸ hfound)
      rw [upsertRoute, if_neg hfound, consoleDomain?_cons_of_none hnone]
      exact ih h.tail

theorem OnlyConsole.upsertRoute (h : OnlyConsole routes)
    (hroute : LikeConsole route.hostname → route.name = "console") :
    OnlyConsole (upsertRoute route routes) := by
  induction routes with
  | nil =>
    intro entry hmem
    rw [List.mem_singleton.1 hmem]
    exact hroute
  | cons existing rest ih =>
    intro entry hmem
    by_cases hfound : existing.name = route.name
    · rw [upsertRoute_cons_of_eq hfound] at hmem
      rcases List.mem_cons.1 hmem with rfl | hmem
      · exact hroute
      · exact h entry (List.mem_cons_of_mem _ hmem)
    · rw [EdgeSetup.upsertRoute, if_neg hfound] at hmem
      rcases List.mem_cons.1 hmem with rfl | hmem
      · exact h entry List.mem_cons_self
      · exact ih h.tail entry hmem

/-- An entry of another name and host name does not count. -/
theorem consoleDomain?_upsertRoute (h : OnlyConsole routes) (hname : route.name ≠ "console")
    (hhost : ¬ LikeConsole route.hostname) :
    consoleDomain? (upsertRoute route routes) = consoleDomain? routes := by
  have hnone := ingressOfConsoleHost?_eq_none hhost
  induction routes with
  | nil => exact consoleDomain?_cons_of_none hnone
  | cons existing rest ih =>
    by_cases hfound : existing.name = route.name
    · have hold := h.ingressOfConsoleHost?_eq_none List.mem_cons_self (hfound ▸ hname)
      rw [upsertRoute, if_pos hfound, consoleDomain?_cons_of_none hold]
      exact consoleDomain?_cons_of_none hnone
    · rw [upsertRoute, if_neg hfound, consoleDomain?, consoleDomain?, List.findSome?_cons,
        List.findSome?_cons, ← consoleDomain?, ← consoleDomain?, ih h.tail]

theorem consoleDomain?_upsertRoutes (h : OnlyConsole routes)
    (hupdates : ∀ update ∈ updates, update.name ≠ "console" ∧ ¬ LikeConsole update.hostname) :
    consoleDomain? (upsertRoutes updates routes) = consoleDomain? routes := by
  induction updates generalizing routes with
  | nil => rfl
  | cons update updates ih =>
    obtain ⟨hname, hhost⟩ := hupdates update List.mem_cons_self
    rw [upsertRoutes_cons, ih (h.upsertRoute fun hlike => absurd hlike hhost)
      fun other hother => hupdates other (List.mem_cons_of_mem _ hother)]
    exact consoleDomain?_upsertRoute h hname hhost

/-! ## The routes that a change secured -/

namespace DomainChange

variable {change : DomainChange} {token suffix : String} {request : DomainChangeRequest}
  {events : List Event} {ingress : IngressConfig}

/-- The console's entry gives the new domain once the components have their secrets. -/
theorem consoleDomain?_securedRoutes {pairs : List StoredPair} (h : OnlyConsole routes)
    (hpairs : pairs.map StoredPair.target =
      (components (.ofSuffix suffix) change.setupUi.inNamespace).map target) :
    consoleDomain? (securedRoutes (components (.ofSuffix suffix) change.setupUi.inNamespace) pairs
      routes) = some (Dns.ingressDomain suffix) := by
  cases pairs with
  | nil => cases hpairs
  | cons pair pairs =>
    have hdomain : Dns.ingressDomain suffix ≠ "" := by simp [Dns.ingressDomain]
    rw [components, securedRoutes, securedRoutes_eq_upsertRoutes, consoleDomain?_upsertRoutes]
    · exact consoleDomain?_upsertRoute_console h rfl (ingressOfConsoleHost?_routeHost hdomain)
    · exact h.upsertRoute fun _ => rfl
    · intro update hupdate
      obtain ⟨⟨component, _⟩, hmem, rfl⟩ := List.mem_map.1 hupdate
      have hcomponent := (List.of_mem_zip hmem).1
      simp only [List.mem_cons, List.not_mem_nil, or_false] at hcomponent
      rcases hcomponent with rfl | rfl
      · exact ⟨by simp [Component.route], not_likeConsole_oauth _⟩
      · exact ⟨by simp [Component.route, Dns.setupUiRoute], not_likeConsole_setupUi _⟩

/-! ## What is read of them -/

/-- The ways to name a domain or to leave it open. -/
def Names (suffix : String) (domain : Option String) : Prop :=
  domain = none ∨ domain = some "" ∨ domain = some (Dns.ingressDomain suffix)

/-- An ingress configuration of the routes is one of the domain of the suffix, whether it names the
domain or leaves it open, and a later run finds just this. -/
structure SourcesAgree (suffix : String) (routes : List ComponentRoute) : Prop where
  state : ∀ (metadata : ObjectMeta) (domain : Option String), Names suffix domain →
    ClusterDomainState.ofIngress ⟨metadata, some ⟨domain, some routes⟩⟩ =
      ⟨some (Dns.ingressDomain suffix), routes⟩
  /-- A run that reads such a configuration has nothing to change just for this suffix. -/
  check : ∀ {change : DomainChange} {token : String} {request : DomainChangeRequest}
    {events : List Event} {result : Except SetupError DomainChangeOutcome} {asked : String}
    {metadata : ObjectMeta} {domain : Option String}, Names suffix domain → Asks request asked →
      (change.run token request).Runs events result →
        change.IngressRead token events ⟨metadata, some ⟨domain, some routes⟩⟩ →
          (result = .ok .unchanged ↔ asked = suffix)

theorem ofIngress_of_consoleDomain? {metadata : ObjectMeta} {domain : Option String}
    (h : consoleDomain? routes = some (Dns.ingressDomain suffix)) (hdomain : Names suffix domain) :
    ClusterDomainState.ofIngress ⟨metadata, some ⟨domain, some routes⟩⟩ =
      ⟨some (Dns.ingressDomain suffix), routes⟩ := by
  rcases hdomain with rfl | rfl | rfl
  · simp [ClusterDomainState.ofIngress, h]
  · simp [ClusterDomainState.ofIngress, h, Option.filter]
  · exact ClusterDomainState.ofIngress_patched metadata (by simp [Dns.ingressDomain])

theorem ingressRead_append_counted {first : List Event} {counter : Counter} {amount : Nat} :
    change.IngressRead token (first ++ [.counted counter amount]) ingress ↔
      change.IngressRead token first ingress := by
  cases first <;> simp [IngressRead]

/-- A run that reads a configuration has nothing to change just when that is one of the domain that
was asked for. -/
theorem unchanged_iff_of_read {result : Except SetupError DomainChangeOutcome} {asked : String}
    (hasks : Asks request asked) (h : (change.run token request).Runs events result)
    (hread : change.IngressRead token events ingress) :
    result = .ok .unchanged ↔
      (ClusterDomainState.ofIngress ingress).ingressDomain = some (Dns.ingressDomain asked) := by
  obtain ⟨first, rfl, hcourse⟩ := run_course h
  have hfirst := ingressRead_append_counted.1 hread
  rw [hcourse.unchanged_iff]
  constructor
  · rintro ⟨other, ingress', hasks', hread', hsame⟩
    rwa [hasks.unique hasks', hfirst.unique hread']
  · exact fun hsame => ⟨asked, ingress, hasks, hfirst, hsame⟩

/-- **The two sources of the current domain agree** on the routes that a change secured, when only
entries of the console had host names like the console's. -/
theorem secureComponents_sources {secured : List ComponentRoute}
    (only : OnlyConsole (ClusterDomainState.ofIngress ingress).componentRoutes)
    (h : Attempting.Runs
      (change.secureComponents token request
        (components (.ofSuffix suffix) change.setupUi.inNamespace)
        (ClusterDomainState.ofIngress ingress).componentRoutes) events (.ok secured)) :
    SourcesAgree suffix secured := by
  obtain ⟨stored, hstores, hresult⟩ := secureComponents_runs h
  cases stored with
  | error error => cases hresult
  | ok pairs =>
    cases hresult
    have hconsole : consoleDomain? (securedRoutes
        (components (.ofSuffix suffix) change.setupUi.inNamespace) pairs _) =
          some (Dns.ingressDomain suffix) :=
      consoleDomain?_securedRoutes only (hstores.wiring rfl).1
    constructor
    case state =>
      exact fun metadata domain hdomain => ofIngress_of_consoleDomain? hconsole hdomain
    case check =>
      intro change token request events result asked metadata domain hdomain hasks hruns hread
      rw [unchanged_iff_of_read hasks hruns hread, ofIngress_of_consoleDomain? hconsole hdomain,
        Option.some.injEq, Dns.ingressDomain, Dns.ingressDomain, String.append_right_inj]
      exact eq_comm

/-- An ingress configuration with an entry of the console and one of another name. -/
def twoRoutes : IngressConfig :=
  ⟨.empty, some ⟨some "apps.old.io",
    some [⟨"downloads", "web", "downloads.apps.old.io", ⟨"old-1"⟩⟩,
      ⟨"console", "openshift-console", "console-openshift-console.apps.old.io", ⟨"old-2"⟩⟩]⟩⟩

theorem secureComponents_sources_twoRoutes :
    ∃ events secured,
      OnlyConsole (ClusterDomainState.ofIngress twoRoutes).componentRoutes ∧
        Attempting.Runs (sample.secureComponents "token" ⟨some "new.io", .empty⟩
          (components (.ofSuffix "new.io") sample.setupUi.inNamespace)
          (ClusterDomainState.ofIngress twoRoutes).componentRoutes) events (.ok secured) ∧
        SourcesAgree "new.io" secured := by
  have only : OnlyConsole (ClusterDomainState.ofIngress twoRoutes).componentRoutes := by
    unfold OnlyConsole LikeConsole
    decide +kernel
  have hplay : ((sample.secureComponents "token" ⟨some "new.io", .empty⟩
      (components (.ofSuffix "new.io") sample.setupUi.inNamespace)
      (ClusterDomainState.ofIngress twoRoutes).componentRoutes).run.run
        ((Script.compliant "apps.old.io").outside Script.plainIssuer .standard)
        (.start Attempts.none)).map Prod.fst =
      some (.ok [⟨"downloads", "web", "downloads.apps.old.io", ⟨"old-1"⟩⟩,
        ⟨"console", "openshift-console", "console-openshift-console.apps.new.io", ⟨"secret-0"⟩⟩,
        ⟨"oauth-openshift", "openshift-authentication", "oauth-openshift.apps.new.io",
          ⟨"secret-1"⟩⟩,
        ⟨"edge-cluster-setup", "setup", "edge-cluster-setup.apps.new.io", ⟨"secret-2"⟩⟩]) := by
    decide +kernel
  obtain ⟨events, hruns⟩ := Session.runs_of_run hplay
  exact ⟨events, _, only, hruns, secureComponents_sources only hruns⟩

end DomainChange

end EdgeSetup
