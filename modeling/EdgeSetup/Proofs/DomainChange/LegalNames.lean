import EdgeSetup.Proofs.Dns.HostNames
import EdgeSetup.Proofs.DomainChange.Saga
import EdgeSetup.Proofs.DomainChange.Wiring

/-!
# The names that a domain change works with

A domain change checks the suffix that it is asked for, and not the host names that follow from it.
These keep to the pattern of domain names, but they are longer than the suffix, so the suffix can
be valid when they are not (`long_suffix_names`).

**Main theorem (`host_names_valid`)**: the host names of a valid suffix are valid exactly when they
are short enough, and all are when the suffix leaves room for the start of the console's. For such
a suffix every certificate and secret of a domain change is for a valid name, and every route moves
to a valid application domain or under it.
-/

namespace EdgeSetup

open Json Http

namespace DomainChange

variable {change : DomainChange} {token : String} {request : DomainChangeRequest}
  {events : List Event} {suffix : String}

/-! ## Targets -/

theorem target_hostname_mem {domains : Dns.ClusterDomains} {setupUiNamespace : String}
    {target : Target} (h : target ∈ targets domains setupUiNamespace) :
    target.hostname ∈ domains.hosts := by
  simp only [targets, components, List.map_cons, List.map_nil, DomainChange.target, List.mem_cons,
    List.not_mem_nil, or_false] at h
  rcases h with rfl | rfl | rfl | rfl <;> simp [Dns.ClusterDomains.hosts]

/-- A certificate is asked for only for a target of the requested domain. -/
theorem Permitted.issued_target {before : List Event} {name : String}
    {result : Except SetupError CertificateBundle}
    (h : Permitted change token request before (.issued name result)) :
    ∃ suffix, Asks request suffix ∧
      ∃ target ∈ targets (.ofSuffix suffix) change.setupUi.inNamespace, target.hostname = name := by
  cases h with
  | @obtainPair suffix earlier later target _ turn =>
    refine ⟨suffix, turn.asked, target, ?_, rfl⟩
    rw [turn.split]
    exact List.mem_append_right _ (List.mem_cons_self ..)

/-- A secret is created only for a target of the requested domain. -/
theorem Permitted.posted_target {before : List Event} {namePrefix : String}
    {bundle : CertificateBundle} {outcome : Outcome}
    (h : Permitted change token request before
      (.called (change.secretPost token namePrefix bundle) outcome)) :
    ∃ suffix, Asks request suffix ∧
      ∃ target ∈ targets (.ofSuffix suffix) change.setupUi.inNamespace,
        target.namePrefix = namePrefix := by
  have hmethod := change.secretPost_method token namePrefix bundle
  generalize hsent : change.secretPost token namePrefix bundle = sent at h hmethod
  cases h with
  | @storePair suffix earlier later target _ _ turn =>
    refine ⟨suffix, turn.asked, target, ?_, secretPost_prefix_inj hsent.symm⟩
    rw [turn.split]
    exact List.mem_append_right _ (List.mem_cons_self ..)
  | readIngress asked first => simp at hmethod
  | listRoutes secured unpatched => simp at hmethod
  | patchIngress secured unpatched => simp at hmethod
  | patchApiServer asked accepted => simp at hmethod
  | refreshUi accepted enabled refreshes => exact absurd hmethod refreshes.method_ne_post

/-! ## Routes -/

theorem StoresAll.not_calledAll {waiting : List Target}
    {result : Except SetupError (List StoredPair)}
    (h : StoresAll change token request waiting events result)
    (exchanges : List (Request × Outcome)) : .calledAll exchanges ∉ events := by
  have hobtains : ∀ {hostname : String} {bundle : CertificateBundle} {obtaining : List Event},
      Obtains request hostname bundle obtaining → .calledAll exchanges ∉ obtaining := by
    intro hostname bundle obtaining hobtains
    cases hobtains <;> simp
  have hstores : ∀ {target : Target} {storing : List Event} {stored : Except SetupError StoredPair},
      Stores change token request target storing stored → .calledAll exchanges ∉ storing := by
    intro target storing stored hstores
    cases hstores with
    | unissued missing => simp
    | refused obtained uncreated => simpa using hobtains obtained
    | stored obtained created => simpa using hobtains obtained
  induction h with
  | nil => exact List.not_mem_nil
  | failed first => exact hstores first
  | stored first rest ih =>
    intro hmem
    rcases List.mem_append.1 hmem with hmem | hmem
    · exact hstores first hmem
    · exact ih hmem

/-- Routes that are moved side by side move from one domain to the new one. -/
theorem Rehosts.routeMoves {new : String} {current : Option String} {counts : RehostCounts}
    (h : Rehosts change token new current events counts) {exchanges : List (Request × Outcome)}
    (hmem : .calledAll exchanges ∈ events) :
    ∃ old, ∀ exchange ∈ exchanges, ∃ route move, routeMove? old new route = some move ∧
      exchange.1 = change.routeWrite token move := by
  cases h with
  | skipped => cases hmem
  | unlisted unreadable => simp at hmem
  | @settled old _ routes outcomes _ failed listed same hmoved hfailed =>
    refine ⟨old, fun exchange hexchange => ?_⟩
    have htally : .calledAll exchanges ∉ failureTally failed := by
      unfold failureTally
      split <;> simp
    simp only [List.mem_cons, reduceCtorEq, false_or, Event.calledAll.injEq, htally,
      or_false] at hmem
    subst hmem
    obtain ⟨move, hmove, heq⟩ := List.mem_map.1 (List.of_mem_zip hexchange).1
    obtain ⟨route, -, hroute⟩ := List.mem_filterMap.1 hmove
    exact ⟨route, move, hroute, heq.symm⟩

theorem Course.routeMoves {result : Except SetupError DomainChangeOutcome}
    (h : Course change token request events result) {exchanges : List (Request × Outcome)}
    (hmem : .calledAll exchanges ∈ events) :
    ∃ domains old, requestedDomains request = .ok domains ∧
      ∀ exchange ∈ exchanges, ∃ route move, routeMove? old domains.ingress route = some move ∧
        exchange.1 = change.routeWrite token move := by
  have hprepares : ∀ {domains ingress apiPair pairs counts preparing},
      Prepares change token request domains ingress apiPair pairs counts preparing →
      .calledAll exchanges ∈ preparing →
        ∃ domains old, requestedDomains request = .ok domains ∧
          ∀ exchange ∈ exchanges, ∃ route move, routeMove? old domains.ingress route = some move ∧
            exchange.1 = change.routeWrite token move := by
    rintro domains ingress apiPair pairs counts _ ⟨opens, secured, rehosts⟩ hmem
    simp only [List.mem_cons, List.mem_append, reduceCtorEq, false_or] at hmem
    rcases hmem with hmem | hmem
    · exact absurd hmem (secured.not_calledAll exchanges)
    · obtain ⟨old, hmoves⟩ := rehosts.routeMoves hmem
      exact ⟨domains, old, opens.named, hmoves⟩
  cases h with
  | refused bad => cases hmem
  | unread named unreadable => simp at hmem
  | unchanged named reads same => simp at hmem
  | unsecured opens failed =>
    simp only [List.mem_cons, reduceCtorEq, false_or] at hmem
    exact absurd hmem (failed.not_calledAll exchanges)
  | ingressRefused prepares refused => exact hprepares prepares (by simpa using hmem)
  | apiServerRefused prepares accepted refused => exact hprepares prepares (by simpa using hmem)
  | migrated prepares ingressAccepted apiServerAccepted refreshes =>
    simp only [List.mem_append, List.mem_cons, reduceCtorEq, false_or] at hmem
    rcases hmem with hmem | hmem
    · exact hprepares prepares hmem
    · obtain ⟨-, sent, outcome, heq, -⟩ := refreshes.refreshes _ hmem
      cases heq

theorem rehost?_under {host old new moved : String} (h : Dns.rehost? host old new = some moved) :
    moved = new ∨ ∃ start, moved = start ++ "." ++ new := by
  unfold Dns.rehost? at h
  split at h
  · cases h
  split at h
  · cases h
    exact .inl rfl
  split at h
  · cases h
  · cases h
    exact .inl rfl
  · cases h
    exact .inr ⟨_, rfl⟩

/-! ## Legal names -/

/-- The events of a domain change work with valid names only. -/
structure LegalNames (change : DomainChange) (token suffix : String) (events : List Event) :
    Prop where
  /-- Certificates are for valid names. -/
  issued : ∀ name result, .issued name result ∈ events → Dns.isValidName name = true
  /-- Secrets are those of targets with valid names. -/
  stored : ∀ namePrefix bundle outcome,
    .called (change.secretPost token namePrefix bundle) outcome ∈ events →
      ∃ target ∈ targets (.ofSuffix suffix) change.setupUi.inNamespace,
        target.namePrefix = namePrefix ∧ Dns.isValidName target.hostname = true
  /-- Routes move to the application domain or under it, and that is valid. -/
  moved : ∀ exchanges, .calledAll exchanges ∈ events → ∀ exchange ∈ exchanges,
    Dns.isValidName (Dns.ingressDomain suffix) = true ∧
      ∃ ref host, exchange.1 = change.routeWrite token (ref, host) ∧
        (host = Dns.ingressDomain suffix ∨ ∃ start, host = start ++ "." ++ Dns.ingressDomain suffix)

/-- A domain change for a suffix with valid host names works with valid names only. -/
theorem run_legalNames {result : Except SetupError DomainChangeOutcome}
    (hsuffix : request.domain = some suffix)
    (hhosts : ∀ host ∈ (Dns.ClusterDomains.ofSuffix suffix).hosts, Dns.isValidName host = true)
    (h : (change.run token request).Runs events result) :
    LegalNames change token suffix events := by
  have hunique : ∀ {other}, Asks request other → other = suffix := fun asked =>
    Option.some.inj (asked.domain.symm.trans hsuffix)
  have horder := run_inOrder h
  constructor
  case issued =>
    intro name result hmem
    obtain ⟨earlier, hpermitted⟩ := horder.of_mem hmem
    obtain ⟨other, asked, target, htarget, rfl⟩ := hpermitted.issued_target
    rw [hunique asked] at htarget
    exact hhosts _ (target_hostname_mem htarget)
  case stored =>
    intro namePrefix bundle outcome hmem
    obtain ⟨earlier, hpermitted⟩ := horder.of_mem hmem
    obtain ⟨other, asked, target, htarget, hprefix⟩ := hpermitted.posted_target
    rw [hunique asked] at htarget
    exact ⟨target, htarget, hprefix, hhosts _ (target_hostname_mem htarget)⟩
  case moved =>
    intro exchanges hmem exchange hexchange
    obtain ⟨first, rfl, hcourse⟩ := run_course h
    obtain ⟨domains, old, named, hmoves⟩ := hcourse.routeMoves (by simpa using hmem)
    obtain ⟨other, asked, rfl⟩ := requestedDomains_eq_ok.1 named
    rw [hunique asked] at hmoves
    obtain ⟨route, ⟨ref, host⟩, hmove, heq⟩ := hmoves exchange hexchange
    refine ⟨hhosts _ (by simp [Dns.ClusterDomains.hosts, Dns.ClusterDomains.ofSuffix]),
      ref, host, heq, ?_⟩
    simp only [routeMove?, bind, Option.bind_eq_some_iff] at hmove
    obtain ⟨oldHost, -, newHost, hrehost, hpair⟩ := hmove
    cases hpair
    exact rehost?_under hrehost

/-- **The host names of a valid suffix** are valid exactly when they are short enough, and then a
domain change works with valid names only. -/
theorem host_names_valid (hvalid : Dns.isValidName suffix = true) :
    (∀ host ∈ (Dns.ClusterDomains.ofSuffix suffix).hosts,
        (Dns.isValidName host = true ↔ host.utf8ByteSize ≤ Dns.maxNameLength)) ∧
      ((∀ host ∈ (Dns.ClusterDomains.ofSuffix suffix).hosts, Dns.isValidName host = true) ↔
        Dns.ClusterDomains.longestStart + suffix.utf8ByteSize ≤ Dns.maxNameLength) ∧
      (Dns.ClusterDomains.longestStart + suffix.utf8ByteSize ≤ Dns.maxNameLength →
        ∀ (change : DomainChange) (token : String) (request : DomainChangeRequest)
          (events : List Event) (result : Except SetupError DomainChangeOutcome),
          request.domain = some suffix → (change.run token request).Runs events result →
            LegalNames change token suffix events) := by
  have hall := Dns.ClusterDomains.hosts_valid_iff hvalid
  refine ⟨fun host hhost => Dns.ClusterDomains.isValidName_host hvalid hhost, hall, ?_⟩
  intro hshort change token request events result hsuffix hruns
  exact run_legalNames hsuffix (hall.2 hshort) hruns

/-- The longest suffix whose host names are all valid, and a domain change for it. -/
theorem host_names_valid_longest :
    Dns.isValidName (Dns.deepSuffix 109) = true ∧
      (∀ host ∈ (Dns.ClusterDomains.ofSuffix (Dns.deepSuffix 109)).hosts,
        Dns.isValidName host = true) ∧
      ∃ events result, (sample.run "token" ⟨some (Dns.deepSuffix 109), .empty⟩).Runs events result ∧
        LegalNames sample "token" (Dns.deepSuffix 109) events := by
  have hvalid : Dns.isValidName (Dns.deepSuffix 109) = true :=
    Dns.isValidName_deepSuffix (by decide)
  have hshort : Dns.ClusterDomains.longestStart + (Dns.deepSuffix 109).utf8ByteSize ≤
      Dns.maxNameLength := by decide +kernel
  obtain ⟨-, hall, hlegal⟩ := host_names_valid hvalid
  obtain ⟨events, result, hruns⟩ :=
    (sample.run "token" ⟨some (Dns.deepSuffix 109), .empty⟩).exists_runs
  exact ⟨hvalid, hall.2 hshort, events, result, hruns, hlegal hshort _ _ _ _ _ rfl hruns⟩

/-- A suffix of 250 bytes is valid, and the API's host name under it is not. -/
theorem long_suffix_names :
    Dns.isValidName (Dns.deepSuffix 123) = true ∧
      Dns.isValidName (Dns.ClusterDomains.ofSuffix (Dns.deepSuffix 123)).api = false := by
  have hvalid : Dns.isValidName (Dns.deepSuffix 123) = true :=
    Dns.isValidName_deepSuffix (by decide)
  have hlong : ¬ (Dns.ClusterDomains.ofSuffix (Dns.deepSuffix 123)).api.utf8ByteSize ≤
      Dns.maxNameLength := by decide +kernel
  refine ⟨hvalid, Bool.eq_false_iff.2 fun hapi => hlong ?_⟩
  exact (Dns.ClusterDomains.isValidName_host hvalid (by simp [Dns.ClusterDomains.hosts])).1 hapi

end DomainChange

end EdgeSetup
