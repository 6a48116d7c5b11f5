import EdgeSetup.Proofs.DomainChange.Steps

/-!
# The course of a domain change

`Course` puts the steps together: a run stops at the first fail-fast step that fails, and the
best-effort steps never stop it.

Main statement: `DomainChange.run_course`, every history of a run is such a course. All that is
proved of the order and the content of the requests is read off `Course`.
-/

namespace EdgeSetup

open Json Http

namespace DomainChange

variable {change : DomainChange} {token : String} {request : DomainChangeRequest}
  {events : List Event}

/-- The read of the ingress configuration gave one of another domain than the requested one. -/
structure Opens (request : DomainChangeRequest) (domains : Dns.ClusterDomains)
    (ingress : IngressConfig) (outcome : Outcome) : Prop where
  named : requestedDomains request = .ok domains
  reads : Reads outcome ingress
  differs : (ClusterDomainState.ofIngress ingress).ingressDomain ≠ some domains.ingress

/-- The component routes that a domain change writes, given the stored key pairs of the
components. -/
def finalRoutes (change : DomainChange) (domains : Dns.ClusterDomains) (ingress : IngressConfig)
    (pairs : List StoredPair) : List ComponentRoute :=
  securedRoutes (components domains change.setupUi.inNamespace) pairs
    (ClusterDomainState.ofIngress ingress).componentRoutes

/-- The write of the ingress configuration that a domain change works out. -/
def finalIngressWrite (change : DomainChange) (token : String) (domains : Dns.ClusterDomains)
    (ingress : IngressConfig) (pairs : List StoredPair) : Request :=
  change.ingressWrite token
    (ingressPatch ingress domains.ingress (change.finalRoutes domains ingress pairs))

/-- The write of the API server's configuration that a domain change works out. -/
def finalApiServerWrite (change : DomainChange) (token : String) (domains : Dns.ClusterDomains)
    (apiPair : StoredPair) : Request :=
  change.apiServerWrite token (apiServerPatch domains.api apiPair.secret)

/-- The part of a run before the configurations are written: the ingress configuration was read,
all key pairs were stored, and the routes were moved as far as that went. -/
inductive Prepares (change : DomainChange) (token : String) (request : DomainChangeRequest)
    (domains : Dns.ClusterDomains) (ingress : IngressConfig) (apiPair : StoredPair)
    (pairs : List StoredPair) (counts : RehostCounts) : List Event → Prop where
  | intro {outcome : Outcome} {securing moving : List Event}
      (opens : Opens request domains ingress outcome)
      (secured : StoresAll change token request (targets domains change.setupUi.inNamespace)
        securing (.ok (apiPair :: pairs)))
      (rehosts : Rehosts change token domains.ingress
        (ClusterDomainState.ofIngress ingress).ingressDomain moving counts) :
      Prepares change token request domains ingress apiPair pairs counts
        (.called (change.ingressRead token) outcome :: (securing ++ moving))

/-- What a domain change can do, and what it comes to. -/
inductive Course (change : DomainChange) (token : String) (request : DomainChangeRequest) :
    List Event → Except SetupError DomainChangeOutcome → Prop where
  | refused {error : SetupError} (bad : requestedDomains request = .error error) :
      Course change token request [] (.error error)
  | unread {domains : Dns.ClusterDomains} {outcome : Outcome} {error : SetupError}
      (named : requestedDomains request = .ok domains)
      (unreadable : ∀ ingress : IngressConfig, ¬ Reads outcome ingress) :
      Course change token request [.called (change.ingressRead token) outcome] (.error error)
  | unchanged {domains : Dns.ClusterDomains} {ingress : IngressConfig} {outcome : Outcome}
      (named : requestedDomains request = .ok domains) (reads : Reads outcome ingress)
      (same : (ClusterDomainState.ofIngress ingress).ingressDomain = some domains.ingress) :
      Course change token request [.called (change.ingressRead token) outcome] (.ok .unchanged)
  | unsecured {domains : Dns.ClusterDomains} {ingress : IngressConfig} {outcome : Outcome}
      {securing : List Event} {error : SetupError} (opens : Opens request domains ingress outcome)
      (failed : StoresAll change token request (targets domains change.setupUi.inNamespace)
        securing (.error error)) :
      Course change token request (.called (change.ingressRead token) outcome :: securing)
        (.error error)
  | ingressRefused {domains : Dns.ClusterDomains} {ingress : IngressConfig} {apiPair : StoredPair}
      {pairs : List StoredPair} {counts : RehostCounts} {preparing : List Event}
      {written : Outcome} {error : SetupError}
      (prepares : Prepares change token request domains ingress apiPair pairs counts preparing)
      (refused : ¬ Accepted written) :
      Course change token request
        (preparing ++ [.called (change.finalIngressWrite token domains ingress pairs) written])
        (.error error)
  | apiServerRefused {domains : Dns.ClusterDomains} {ingress : IngressConfig}
      {apiPair : StoredPair} {pairs : List StoredPair} {counts : RehostCounts}
      {preparing : List Event} {written pointed : Outcome} {error : SetupError}
      (prepares : Prepares change token request domains ingress apiPair pairs counts preparing)
      (accepted : Accepted written) (refused : ¬ Accepted pointed) :
      Course change token request
        (preparing ++ [.called (change.finalIngressWrite token domains ingress pairs) written,
          .called (change.finalApiServerWrite token domains apiPair) pointed])
        (.error error)
  | migrated {domains : Dns.ClusterDomains} {ingress : IngressConfig} {apiPair : StoredPair}
      {pairs : List StoredPair} {counts : RehostCounts} {preparing refreshing : List Event}
      {written pointed : Outcome} {refreshed : Except SetupError Unit}
      (prepares : Prepares change token request domains ingress apiPair pairs counts preparing)
      (ingressAccepted : Accepted written) (apiServerAccepted : Accepted pointed)
      (refreshes : RefreshesUi change token domains.setupUi refreshing refreshed) :
      Course change token request
        (preparing ++ .called (change.finalIngressWrite token domains ingress pairs) written ::
          .called (change.finalApiServerWrite token domains apiPair) pointed :: refreshing)
        (.ok (.migrated counts))

/-- The configuration patches and the refresh of the setup UI, after all else was prepared. The
first patch that is refused ends the run, and the refresh never does. -/
theorem configure_course {domains : Dns.ClusterDomains} {ingress : IngressConfig}
    {apiPair : StoredPair} {pairs : List StoredPair} {counts : RehostCounts}
    {preparing : List Event} {result : Except SetupError DomainChangeOutcome}
    (prepares : Prepares change token request domains ingress apiPair pairs counts preparing)
    (h : Attempting.Runs (do
        DomainStep.patchIngress.take () <| change.patchIngress token ingress domains.ingress
          (change.finalRoutes domains ingress pairs)
        DomainStep.patchApiServer.take () <|
          change.patchApiServer token (apiServerPatch domains.api apiPair.secret)
        DomainStep.refreshSetupUi.take () <| change.refreshSetupUi token domains.setupUi
        return .migrated counts) events result) :
    Course change token request (preparing ++ events) result := by
  rcases Attempting.runs_bind.1 h with
    ⟨error, rfl, hingress⟩ | ⟨patching, rest, _, rfl, hingress, hafter⟩
  · obtain ⟨written, rfl, hwritten⟩ := patchIngress_runs hingress
    refine .ingressRefused prepares fun haccepted => ?_
    cases hwritten.2 haccepted
  obtain ⟨written, rfl, hwritten⟩ := patchIngress_runs hingress
  rcases Attempting.runs_bind.1 hafter with
    ⟨error, rfl, hpoint⟩ | ⟨pointing, last, _, rfl, hpoint, hlast⟩
  · obtain ⟨pointed, rfl, hpointed⟩ := patchApiServer_runs hpoint
    refine .apiServerRefused prepares (hwritten.1 rfl) fun haccepted => ?_
    cases hpointed.2 haccepted
  obtain ⟨pointed, rfl, hpointed⟩ := patchApiServer_runs hpoint
  rcases Attempting.runs_bind.1 hlast with
    ⟨error, -, hrefresh⟩ | ⟨refreshing, ending, _, rfl, hrefresh, hending⟩
  · obtain ⟨_, _, ⟨⟩, -⟩ := orElseValue_runs hrefresh
  obtain ⟨_, refreshed, -, hrefresh, -⟩ := orElseValue_runs hrefresh
  obtain ⟨rfl, rfl⟩ := Attempting.runs_pure.1 hending
  rw [List.append_nil]
  exact .migrated prepares (hwritten.1 rfl) (hpointed.1 rfl) (refreshSetupUi_runs hrefresh)

theorem migrate_course {domains : Dns.ClusterDomains} {ingress : IngressConfig}
    {outcome : Outcome} {result : Except SetupError DomainChangeOutcome}
    (opens : Opens request domains ingress outcome)
    (h : Attempting.Runs (change.migrate token request domains ingress) events result) :
    Course change token request (.called (change.ingressRead token) outcome :: events) result := by
  -- The API server's key pair, then those of the components: a failure of either ends the run.
  rcases Attempting.runs_bind.1 h with
    ⟨error, rfl, hapi⟩ | ⟨apiEvents, rest, apiSecret, rfl, hapi, hrest⟩
  · obtain ⟨_ | pair, hstored, heq⟩ := secretFor_runs hapi
    · cases heq
      exact .unsecured opens (.failed hstored)
    · cases heq
  obtain ⟨_ | apiPair, hapiStored, heq⟩ := secretFor_runs hapi
  · cases heq
  cases heq
  rcases Attempting.runs_bind.1 hrest with
    ⟨error, rfl, hcomponents⟩ | ⟨securing, later, routes, rfl, hcomponents, hlater⟩
  · obtain ⟨_ | pairs, hstored, heq⟩ := secureComponents_runs hcomponents
    · cases heq
      exact .unsecured opens (.stored hapiStored hstored)
    · cases heq
  obtain ⟨_ | pairs, hstored, heq⟩ := secureComponents_runs hcomponents
  · cases heq
  cases heq
  -- The routes never end the run.
  rcases Attempting.runs_bind.1 hlater with
    ⟨error, -, hroutes⟩ | ⟨moving, last, counts, rfl, hroutes, hlast⟩
  · obtain ⟨_, ⟨⟩, -⟩ := rehostStep_runs hroutes
  obtain ⟨_, ⟨⟩, hrehosts⟩ := rehostStep_runs hroutes
  have hcourse := configure_course (.intro opens (.stored hapiStored hstored) hrehosts) hlast
  simpa using hcourse

theorem steps_course {result : Except SetupError DomainChangeOutcome}
    (h : Attempting.Runs (change.steps token request) events result) :
    Course change token request events result := by
  rcases Attempting.runs_bind.1 h with
    ⟨error, rfl, hnames⟩ | ⟨first, rest, domains, rfl, hnames, hrest⟩
  · obtain ⟨rfl, hbad⟩ := Attempting.runs_ofExcept.1 hnames
    exact .refused hbad.symm
  obtain ⟨rfl, hnamed⟩ := Attempting.runs_ofExcept.1 hnames
  rcases Attempting.runs_bind.1 hrest with
    ⟨error, rfl, hread⟩ | ⟨reading, last, ingress, rfl, hread, hlast⟩
  · obtain ⟨outcome, rfl, hresult⟩ := Client.getPath_runs hread
    refine .unread hnamed.symm fun ingress hreads => ?_
    cases (hresult ingress).2 hreads
  · obtain ⟨outcome, rfl, hresult⟩ := Client.getPath_runs hread
    have hreads := (hresult ingress).1 rfl
    by_cases hsame : (ClusterDomainState.ofIngress ingress).ingressDomain = some domains.ingress
    · rw [if_pos hsame] at hlast
      obtain ⟨rfl, rfl⟩ := Attempting.runs_pure.1 hlast
      exact .unchanged hnamed.symm hreads hsame
    · rw [if_neg hsame] at hlast
      exact migrate_course ⟨hnamed.symm, hreads, hsame⟩ hlast

/-- **Every history of a run is a course**, followed by the count of its result. -/
theorem run_course {result : Except SetupError DomainChangeOutcome}
    (h : (change.run token request).Runs events result) :
    ∃ first, events = first ++ [.counted (.domainChanges (label result)) 1] ∧
      Course change token request first result := by
  obtain ⟨first, rest, outcome, rfl, hsteps, hrest⟩ := Session.runs_bind.1 h
  obtain ⟨counting, last, _, rfl, hcount, hlast⟩ := Session.runs_bind.1 hrest
  rw [Session.runs_tally] at hcount
  obtain ⟨rfl, rfl⟩ := Session.runs_done.1 hlast
  subst hcount
  exact ⟨first, by simp, steps_course hsteps⟩

end DomainChange

end EdgeSetup
