import EdgeSetup.Proofs.Cluster.Scripts
import EdgeSetup.Proofs.DomainChange.Order

/-!
# The order of a domain change

**Main theorem (`run_saga`)**: every history of a run keeps the order of `Permitted`, does nothing
for a request without a valid domain, starts with the read of the ingress configuration for any
other, and its result is settled by the configuration patches and by that first read.
-/

namespace EdgeSetup

open Json Http

namespace DomainChange

variable {change : DomainChange} {token : String} {request : DomainChangeRequest}
  {before more events : List Event} {suffix : String}

/-- The order of a domain change, and how it settles the result. -/
structure Saga (change : DomainChange) (token : String) (request : DomainChangeRequest)
    (events : List Event) (result : Except SetupError DomainChangeOutcome) : Prop where
  inOrder : InOrder (Permitted change token request) [] events
  /-- Without a valid domain nothing is sent or issued. -/
  idle : (∀ suffix, ¬ Asks request suffix) →
    ∀ event ∈ events, ∃ counter amount, event = .counted counter amount
  /-- With a valid domain the ingress configuration is read first. -/
  opening : ∀ suffix, Asks request suffix →
    ∃ outcome, events.head? = some (.called (change.ingressRead token) outcome)
  migrated_iff : (∃ counts, result = .ok (.migrated counts)) ↔
    change.IngressAccepted token events ∧ change.ApiServerAccepted token events
  unchanged_iff : result = .ok .unchanged ↔ ∃ suffix ingress, Asks request suffix ∧
    change.IngressRead token events ingress ∧
      (ClusterDomainState.ofIngress ingress).ingressDomain = some (Dns.ingressDomain suffix)

theorem Asks.requestedDomains (h : Asks request suffix) :
    requestedDomains request = .ok (.ofSuffix suffix) :=
  requestedDomains_eq_ok.2 ⟨suffix, h, rfl⟩

/-- A run that goes on past the read has found another domain. -/
theorem Opens.not_unchanged {domains : Dns.ClusterDomains} {ingress : IngressConfig}
    {outcome : Outcome} (h : Opens request domains ingress outcome)
    (hhead : events.head? = some (.called (change.ingressRead token) outcome)) :
    ¬ ∃ suffix ingress', Asks request suffix ∧ change.IngressRead token events ingress' ∧
      (ClusterDomainState.ofIngress ingress').ingressDomain = some (Dns.ingressDomain suffix) := by
  rintro ⟨suffix, ingress', hasks, hread, hsame⟩
  cases h.named.symm.trans hasks.requestedDomains
  cases hread.unique ⟨outcome, hhead, h.reads⟩
  exact h.differs hsame

theorem ingressAccepted_append {domains : Dns.ClusterDomains} {ingress : IngressConfig}
    {pairs : List StoredPair} {outcome : Outcome} (haccepted : Accepted outcome) :
    change.IngressAccepted token
      (before ++ .called (change.finalIngressWrite token domains ingress pairs) outcome :: more) :=
  ⟨_, outcome, List.mem_append_right _ (List.mem_cons_self ..), haccepted⟩

theorem apiServerAccepted_append {domains : Dns.ClusterDomains} {apiPair : StoredPair}
    {outcome : Outcome} (haccepted : Accepted outcome) :
    change.ApiServerAccepted token
      (before ++ .called (change.finalApiServerWrite token domains apiPair) outcome :: more) :=
  ⟨_, outcome, List.mem_append_right _ (List.mem_cons_self ..), haccepted⟩

theorem Course.inOrder {result : Except SetupError DomainChangeOutcome}
    (h : Course change token request events result) :
    InOrder (Permitted change token request) [] events := by
  cases h with
  | refused bad => exact inOrder_nil
  | unread named unreadable =>
    obtain ⟨suffix, asked, -⟩ := requestedDomains_eq_ok.1 named
    exact inOrder_ingressRead asked inOrder_nil
  | unchanged named reads same =>
    obtain ⟨suffix, asked, -⟩ := requestedDomains_eq_ok.1 named
    exact inOrder_ingressRead asked inOrder_nil
  | unsecured opens failed =>
    obtain ⟨suffix, asked, rfl⟩ := requestedDomains_eq_ok.1 opens.named
    refine inOrder_ingressRead asked (failed.inOrder asked opens.otherDomainRead
      (List.nil_append _).symm nofun ?_).1
    rintro target - ⟨bundle, outcome, hmem⟩
    simp only [List.mem_singleton, Event.called.injEq] at hmem
    simpa using congrArg Request.method hmem.1
  | ingressRefused prepares refused =>
    obtain ⟨hpreparing, hunpatched, suffix, rfl, hsecured⟩ := prepares.inOrder
    exact inOrder_append.2 ⟨hpreparing,
      inOrder_cons.2 ⟨.patchIngress hsecured hunpatched.not_ingressPatched, inOrder_nil⟩⟩
  | apiServerRefused prepares accepted refused =>
    obtain ⟨hpreparing, hunpatched, suffix, rfl, hsecured⟩ := prepares.inOrder
    exact inOrder_append.2 ⟨hpreparing, inOrder_cons.2
      ⟨.patchIngress hsecured hunpatched.not_ingressPatched, inOrder_cons.2
        ⟨.patchApiServer hsecured.asked (ingressAccepted_append accepted), inOrder_nil⟩⟩⟩
  | migrated prepares ingressAccepted apiServerAccepted refreshes =>
    obtain ⟨hpreparing, hunpatched, suffix, rfl, hsecured⟩ := prepares.inOrder
    refine inOrder_append.2 ⟨hpreparing, inOrder_cons.2
      ⟨.patchIngress hsecured hunpatched.not_ingressPatched, inOrder_cons.2
        ⟨.patchApiServer hsecured.asked (ingressAccepted_append ingressAccepted),
          inOrder_of_forall fun event hmem between => ?_⟩⟩⟩
    obtain ⟨henabled, sent, outcome, rfl, hrefreshes⟩ := refreshes.refreshes event hmem
    refine .refreshUi ?_ henabled hrefreshes
    rw [List.append_assoc _ _ between]
    exact apiServerAccepted_append apiServerAccepted

/-- A course ends at once, or reads the ingress configuration and ends, or goes on after that. -/
theorem Course.opens {result : Except SetupError DomainChangeOutcome}
    (h : Course change token request events result) :
    ((∀ suffix, ¬ Asks request suffix) ∧ events = []) ∨
      ((∃ suffix, Asks request suffix) ∧
        ∃ outcome, events = [.called (change.ingressRead token) outcome]) ∨
      ∃ suffix ingress outcome, Asks request suffix ∧
        events.head? = some (.called (change.ingressRead token) outcome) ∧
          Opens request (.ofSuffix suffix) ingress outcome := by
  have hgoesOn : ∀ {domains ingress outcome}, Opens request domains ingress outcome →
      events.head? = some (.called (change.ingressRead token) outcome) →
        ∃ suffix ingress outcome, Asks request suffix ∧
          events.head? = some (.called (change.ingressRead token) outcome) ∧
            Opens request (.ofSuffix suffix) ingress outcome := by
    intro domains ingress outcome opens hhead
    obtain ⟨suffix, asked, rfl⟩ := requestedDomains_eq_ok.1 opens.named
    exact ⟨suffix, ingress, outcome, asked, hhead, opens⟩
  have hnamed : ∀ {domains}, DomainChange.requestedDomains request = .ok domains →
      ∃ suffix, Asks request suffix := by
    intro domains named
    obtain ⟨suffix, asked, -⟩ := requestedDomains_eq_ok.1 named
    exact ⟨suffix, asked⟩
  cases h with
  | refused bad =>
    refine .inl ⟨fun suffix asked => ?_, rfl⟩
    cases bad.symm.trans asked.requestedDomains
  | unread named unreadable => exact .inr (.inl ⟨hnamed named, _, rfl⟩)
  | unchanged named reads same => exact .inr (.inl ⟨hnamed named, _, rfl⟩)
  | unsecured opens failed => exact .inr (.inr (hgoesOn opens rfl))
  | ingressRefused prepares refused =>
    obtain ⟨outcome, hhead, opens⟩ := prepares.reads
    exact .inr (.inr (hgoesOn opens (by rw [List.head?_append, hhead]; rfl)))
  | apiServerRefused prepares accepted refused =>
    obtain ⟨outcome, hhead, opens⟩ := prepares.reads
    exact .inr (.inr (hgoesOn opens (by rw [List.head?_append, hhead]; rfl)))
  | migrated prepares ingressAccepted apiServerAccepted refreshes =>
    obtain ⟨outcome, hhead, opens⟩ := prepares.reads
    exact .inr (.inr (hgoesOn opens (by rw [List.head?_append, hhead]; rfl)))

/-- A course for a valid domain starts with a read of the ingress configuration. -/
theorem Course.opening {result : Except SetupError DomainChangeOutcome}
    (h : Course change token request events result) (asked : Asks request suffix) :
    ∃ outcome, events.head? = some (.called (change.ingressRead token) outcome) := by
  rcases h.opens with ⟨hnone, -⟩ | ⟨-, outcome, rfl⟩ | ⟨_, _, outcome, -, hhead, -⟩
  · exact absurd asked (hnone suffix)
  · exact ⟨outcome, rfl⟩
  · exact ⟨outcome, hhead⟩

/-- The API server's patch is the last one that can end a run, so a run migrates exactly when that
was carried out. -/
theorem Course.apiServerAccepted_iff {result : Except SetupError DomainChangeOutcome}
    (h : Course change token request events result) :
    change.ApiServerAccepted token events ↔ ∃ counts, result = .ok (.migrated counts) := by
  -- Before the patch of the API server there was at most that of the ingress configuration.
  have hprepared : ∀ {domains ingress apiPair pairs counts preparing rest},
      Prepares change token request domains ingress apiPair pairs counts preparing →
        change.ApiServerAccepted token (preparing ++ rest) →
          change.ApiServerAccepted token rest := by
    rintro domains ingress apiPair pairs counts preparing rest prepares
      ⟨document, outcome, hmem, haccepted⟩
    rcases List.mem_append.1 hmem with hmem | hmem
    · exact absurd ⟨document, outcome, hmem, haccepted⟩ prepares.inOrder.2.1.not_apiServerAccepted
    · exact ⟨document, outcome, hmem, haccepted⟩
  have hother : ∀ document domains ingress pairs, change.apiServerWrite token document ≠
      change.finalIngressWrite token domains ingress pairs := by
    intro document domains ingress pairs heq
    have hurl := congrArg Request.url heq
    rw [apiServerWrite_url, finalIngressWrite, ingressWrite_url] at hurl
    exact ingressRef_url_ne_apiServerRef_url hurl.symm
  cases h with
  | refused bad => exact ⟨fun h => absurd h (Unpatched.not_apiServerAccepted nofun), nofun⟩
  | unread named unreadable =>
    exact ⟨fun h => absurd h Unpatched.read.not_apiServerAccepted, nofun⟩
  | unchanged named reads same =>
    exact ⟨fun h => absurd h Unpatched.read.not_apiServerAccepted, nofun⟩
  | unsecured opens failed =>
    refine ⟨fun h => absurd h ?_, nofun⟩
    exact (Unpatched.append .read failed.unpatched).not_apiServerAccepted
  | ingressRefused prepares refused =>
    refine ⟨fun h => ?_, nofun⟩
    obtain ⟨document, outcome, hmem, -⟩ := hprepared prepares h
    simp only [List.mem_singleton, Event.called.injEq] at hmem
    exact absurd hmem.1 (hother _ _ _ _)
  | apiServerRefused prepares accepted refused =>
    refine ⟨fun h => ?_, nofun⟩
    obtain ⟨document, outcome, hmem, haccepted⟩ := hprepared prepares h
    simp only [List.mem_cons, List.not_mem_nil, or_false, Event.called.injEq] at hmem
    rcases hmem with hmem | hmem
    · exact absurd hmem.1 (hother _ _ _ _)
    · exact absurd (hmem.2 ▸ haccepted) refused
  | migrated prepares ingressAccepted apiServerAccepted refreshes =>
    refine ⟨fun _ => ⟨_, rfl⟩, fun _ => ?_⟩
    rw [List.append_cons]
    exact apiServerAccepted_append apiServerAccepted

theorem Course.migrated_iff {result : Except SetupError DomainChangeOutcome}
    (h : Course change token request events result) :
    (∃ counts, result = .ok (.migrated counts)) ↔
      change.IngressAccepted token events ∧ change.ApiServerAccepted token events := by
  refine ⟨fun hmigrated => ⟨?_, h.apiServerAccepted_iff.2 hmigrated⟩,
    fun haccepted => h.apiServerAccepted_iff.1 haccepted.2⟩
  obtain ⟨counts, rfl⟩ := hmigrated
  cases h with
  | migrated prepares ingressAccepted apiServerAccepted refreshes =>
    exact ingressAccepted_append ingressAccepted

theorem Course.unchanged_iff {result : Except SetupError DomainChangeOutcome}
    (h : Course change token request events result) :
    result = .ok .unchanged ↔ ∃ suffix ingress, Asks request suffix ∧
      change.IngressRead token events ingress ∧
        (ClusterDomainState.ofIngress ingress).ingressDomain =
          some (Dns.ingressDomain suffix) := by
  have hother : ∀ {domains ingress apiPair pairs counts preparing last},
      Prepares change token request domains ingress apiPair pairs counts preparing →
      ¬ ∃ suffix ingress', Asks request suffix ∧
        change.IngressRead token (preparing ++ last) ingress' ∧
          (ClusterDomainState.ofIngress ingress').ingressDomain =
            some (Dns.ingressDomain suffix) := by
    intro domains ingress apiPair pairs counts preparing last prepares
    obtain ⟨outcome, hhead, opens⟩ := prepares.reads
    exact opens.not_unchanged (by rw [List.head?_append, hhead]; rfl)
  cases h with
  | refused bad =>
    refine ⟨nofun, fun ⟨suffix, _, asked, _⟩ => ?_⟩
    cases bad.symm.trans asked.requestedDomains
  | unread named unreadable =>
    refine ⟨nofun, fun ⟨suffix, ingress, asked, ⟨outcome, hhead, hreads⟩, _⟩ => ?_⟩
    cases hhead
    exact absurd hreads (unreadable ingress)
  | unchanged named reads same =>
    obtain ⟨suffix, asked, rfl⟩ := requestedDomains_eq_ok.1 named
    exact ⟨fun _ => ⟨suffix, _, asked, ⟨_, rfl, reads⟩, same⟩, fun _ => rfl⟩
  | unsecured opens failed => exact ⟨nofun, fun h => absurd h (opens.not_unchanged rfl)⟩
  | ingressRefused prepares refused => exact ⟨nofun, fun h => absurd h (hother prepares)⟩
  | apiServerRefused prepares accepted refused =>
    exact ⟨nofun, fun h => absurd h (hother prepares)⟩
  | migrated prepares ingressAccepted apiServerAccepted refreshes =>
    exact ⟨nofun, fun h => absurd h (hother prepares)⟩

/-- A history keeps the order, to the count of its result. -/
theorem run_inOrder {result : Except SetupError DomainChangeOutcome}
    (h : (change.run token request).Runs events result) :
    InOrder (Permitted change token request) [] events := by
  obtain ⟨first, rfl, hcourse⟩ := run_course h
  exact inOrder_append.2 ⟨hcourse.inOrder, inOrder_cons.2 ⟨.count, inOrder_nil⟩⟩

/-- **The order of a domain change**: whatever the cluster and the issuer answer. -/
theorem run_saga {result : Except SetupError DomainChangeOutcome}
    (h : (change.run token request).Runs events result) :
    Saga change token request events result := by
  obtain ⟨first, rfl, hcourse⟩ := run_course h
  have hhead : ∀ sent outcome,
      (first ++ [Event.counted (.domainChanges (label result)) 1]).head? =
        some (.called sent outcome) ↔ first.head? = some (.called sent outcome) := by
    intro sent outcome
    cases first <;> simp
  constructor
  case inOrder => exact run_inOrder h
  case idle =>
    intro hnone event hmem
    rcases hcourse.opens with ⟨-, rfl⟩ | ⟨⟨suffix, asked⟩, -⟩ | ⟨suffix, _, _, asked, -⟩
    · exact ⟨_, _, List.mem_singleton.1 hmem⟩
    · exact absurd asked (hnone suffix)
    · exact absurd asked (hnone suffix)
  case opening =>
    intro suffix asked
    obtain ⟨outcome, hopen⟩ := hcourse.opening asked
    exact ⟨outcome, (hhead _ _).2 hopen⟩
  case migrated_iff =>
    rw [hcourse.migrated_iff]
    simp [IngressAccepted, ApiServerAccepted]
  case unchanged_iff =>
    rw [hcourse.unchanged_iff]
    simp only [IngressRead, hhead]

/-- A whole change of a compliant cluster keeps the order. -/
theorem run_saga_compliant :
    ∃ events, (sample.run "token" ⟨some "new.io", .empty⟩).Runs events
        (.ok (.migrated ⟨1, 0⟩)) ∧
      Saga sample "token" ⟨some "new.io", .empty⟩ events (.ok (.migrated ⟨1, 0⟩)) := by
  obtain ⟨events, hruns⟩ := Session.runs_of_run sample_migrates
  exact ⟨events, hruns, run_saga hruns⟩

end DomainChange

end EdgeSetup
