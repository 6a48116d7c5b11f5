import EdgeSetup.Certificate.Tool
import EdgeSetup.Proofs.Cluster.Scripts
import EdgeSetup.Proofs.DomainChange.Order
import EdgeSetup.Proofs.DomainChange.Routes

/-!
# Key pairs and their secrets

Which key pair is stored for which host name, and which secret the configurations name for it.

**Main theorem (`run_wiring`)**: in every run that patches the ingress configuration there is one
created secret for each of the four host names, it holds the supplied pair or else an issued one,
and the configurations name that secret for that host name. Where a pair stands in its secret is
told by its own form and not by where it came from. A supplied pair is base64 and a pair of the
certificate tool is plain text (`encoding_of_bundleOfRun`), but an issuer may return either.
-/

namespace EdgeSetup

open Json Http

/-! ## Creations and issuances -/

/-- The creations of a history with their outcomes, in order. -/
def posts (events : List Event) : List (Request × Outcome) :=
  events.filterMap fun
    | .called sent outcome => if sent.method = .post then some (sent, outcome) else none
    | _ => none

/-- The host names that the issuer was asked for, in order. -/
def issuedNames (events : List Event) : List String :=
  events.filterMap fun
    | .issued hostname _ => some hostname
    | _ => none

theorem posts_append (first rest : List Event) :
    posts (first ++ rest) = posts first ++ posts rest :=
  List.filterMap_append

theorem issuedNames_append (first rest : List Event) :
    issuedNames (first ++ rest) = issuedNames first ++ issuedNames rest :=
  List.filterMap_append

theorem posts_eq_nil {events : List Event}
    (h : ∀ sent outcome, .called sent outcome ∈ events → sent.method ≠ .post) :
    posts events = [] := by
  refine List.filterMap_eq_nil_iff.2 fun event hmem => ?_
  cases event with
  | called sent outcome => exact if_neg (h sent outcome hmem)
  | calledAll exchanges => rfl
  | issued hostname result => rfl
  | counted counter amount => rfl

theorem issuedNames_eq_nil {events : List Event}
    (h : ∀ hostname result, .issued hostname result ∉ events) : issuedNames events = [] := by
  refine List.filterMap_eq_nil_iff.2 fun event hmem => ?_
  cases event with
  | called sent outcome => rfl
  | calledAll exchanges => rfl
  | issued hostname result => exact absurd hmem (h hostname result)
  | counted counter amount => rfl

namespace DomainChange

variable {change : DomainChange} {token : String} {request : DomainChangeRequest}
  {events more : List Event} {suffix : String}

/-! ## Secrets -/

/-- The request creates a TLS secret in the namespace for secrets. The cluster completes its name,
which starts with the prefix. The secret has the key pair in one member and lacks another. -/
structure CreatesSecret (change : DomainChange) (sent : Request)
    (namePrefix member absent crt key : String) : Prop where
  method : sent.method = .post
  url : sent.url =
    change.client.url ("/api/v1/namespaces/" ++ change.secretNamespace ++ "/secrets")
  body : ∃ body, sent.body = some body ∧
    body.at? ["metadata", "namespace"] = some (.string change.secretNamespace) ∧
      body.at? ["metadata", "generateName"] = some (.string namePrefix) ∧
        body.get? member = some (.object [("tls.crt", .string crt), ("tls.key", .string key)]) ∧
          body.get? absent = none

/-- The request creates the secret of a target: with the supplied pair as it is, else with the pair
that was issued for the host name. Of an issued pair, plain text goes to `stringData`, as all that
the certificate tool issues does, and base64 to `data`. -/
inductive CarriesPair (change : DomainChange) (request : DomainChangeRequest)
    (events : List Event) (target : Target) (sent : Request) : Prop where
  | supplied {pair : TlsCertificate} (given : request.customCerts.get? target.hostname = some pair)
      (creates : CreatesSecret change sent target.namePrefix "data" "stringData" pair.crt pair.key)
  | issued {bundle : CertificateBundle}
      (missing : request.customCerts.get? target.hostname = none)
      (issuance : .issued target.hostname (.ok bundle) ∈ events)
      (plain : bundle.encoding = .plain →
        CreatesSecret change sent target.namePrefix "stringData" "data" bundle.cert
          bundle.key.expose)
      (encoded : bundle.encoding = .base64 →
        CreatesSecret change sent target.namePrefix "data" "stringData" bundle.cert
          bundle.key.expose)
      (tool : ∀ run, CertificateTool.bundleOfRun run = .ok bundle →
        CreatesSecret change sent target.namePrefix "stringData" "data" bundle.cert
          bundle.key.expose)

theorem secretsRef_path (change : DomainChange) :
    change.secretsRef.path = "/api/v1/namespaces/" ++ change.secretNamespace ++ "/secrets" := by
  have hstart : "/api/v1/namespaces/" = "/api/v1" ++ "/namespaces/" := by decide
  have hend : "/secrets" = "/" ++ "secrets" := by decide
  show "/api/v1" ++ ("/namespaces/" ++ change.secretNamespace) ++ "/" ++ "secrets" ++ "" = _
  rw [hstart, hend]
  simp only [String.append_assoc, String.append_empty]

/-- A secret has its pair under the member for the form of the pair, and no other. -/
theorem secretPost_creates (change : DomainChange) (token namePrefix : String)
    (bundle : CertificateBundle) :
    (bundle.encoding = .plain →
        CreatesSecret change (change.secretPost token namePrefix bundle) namePrefix "stringData"
          "data" bundle.cert bundle.key.expose) ∧
      (bundle.encoding = .base64 →
        CreatesSecret change (change.secretPost token namePrefix bundle) namePrefix "data"
          "stringData" bundle.cert bundle.key.expose) := by
  have hurl : (change.secretPost token namePrefix bundle).url =
      change.client.url ("/api/v1/namespaces/" ++ change.secretNamespace ++ "/secrets") := by
    rw [secretPost_url, secretsRef_path]
  refine ⟨fun hencoding => ⟨secretPost_method .., hurl, _, secretPost_body .., ?_⟩,
    fun hencoding => ⟨secretPost_method .., hurl, _, secretPost_body .., ?_⟩⟩
  · simp [CertificateBundle.tlsSecret, CertificateBundle.secretMember, hencoding, Value.at?,
      Value.child?, Value.get?, Members.get?, List.lookup_cons, encode, memberIfSome]
  · simp [CertificateBundle.tlsSecret, CertificateBundle.secretMember, hencoding, Value.at?,
      Value.child?, Value.get?, Members.get?, List.lookup_cons, encode, memberIfSome]

/-- The pairs that the certificate tool issues are plain text. -/
theorem encoding_of_bundleOfRun {run : ToolRun} {bundle : CertificateBundle}
    (h : CertificateTool.bundleOfRun run = .ok bundle) : bundle.encoding = .plain := by
  obtain ⟨exit, keyFile, certFile⟩ := run
  unfold CertificateTool.bundleOfRun at h
  match exit with
  | .notStarted reason => cases h
  | .killed signal name => cases h
  | .exited (code + 1) => cases h
  | .exited 0 =>
    cases hkey : keyFile.text with
    | error reason =>
      rw [hkey] at h
      cases h
    | ok key =>
      cases hcert : certFile.text with
      | error reason =>
        rw [hkey, hcert] at h
        cases h
      | ok cert =>
        rw [hkey, hcert] at h
        cases h
        rfl

theorem CarriesPair.mono {target : Target} {sent : Request}
    (h : CarriesPair change request events target sent) (hsub : events ⊆ more) :
    CarriesPair change request more target sent := by
  cases h with
  | supplied given creates => exact .supplied given creates
  | issued missing issuance plain encoded tool =>
    exact .issued missing (hsub issuance) plain encoded tool

/-- The creation of the secret of a stored pair. -/
def StoredPair.post (change : DomainChange) (token : String) (pair : StoredPair) : Request :=
  change.secretPost token pair.target.namePrefix pair.bundle

/-- The key pair of the target was stored in the one secret created for it. -/
structure StoredFor (change : DomainChange) (token : String) (request : DomainChangeRequest)
    (events : List Event) (pair : StoredPair) : Prop where
  created : Created pair.outcome pair.secret
  carries : CarriesPair change request events pair.target (pair.post change token)

/-- Whether the issuer has to be asked for a host name. -/
def needsIssue (request : DomainChangeRequest) (hostname : String) : Bool :=
  (request.customCerts.get? hostname).isNone

theorem Obtains.wiring {hostname namePrefix : String} {bundle : CertificateBundle}
    {obtaining : List Event} {outcome : Outcome}
    (h : Obtains request hostname bundle obtaining) :
    posts (obtaining ++ [.called (change.secretPost token namePrefix bundle) outcome]) =
        [(change.secretPost token namePrefix bundle, outcome)] ∧
      issuedNames (obtaining ++ [.called (change.secretPost token namePrefix bundle) outcome]) =
        [hostname].filter (needsIssue request) ∧
      CarriesPair change request obtaining ⟨hostname, namePrefix⟩
        (change.secretPost token namePrefix bundle) := by
  cases h with
  | @supplied pair given =>
    obtain ⟨-, hencoded⟩ := secretPost_creates change token namePrefix (.ofCustom pair)
    refine ⟨?_, ?_, .supplied given (hencoded rfl)⟩
    · simp [posts]
    · simp [issuedNames, needsIssue, given]
  | issued missing =>
    obtain ⟨hplain, hencoded⟩ := secretPost_creates change token namePrefix bundle
    refine ⟨?_, ?_, .issued missing (List.mem_singleton_self _) hplain hencoded fun run hissued =>
      hplain (encoding_of_bundleOfRun hissued)⟩
    · simp [posts]
    · simp [issuedNames, needsIssue, missing]

theorem Stores.wiring {target : Target} {pair : StoredPair}
    (h : Stores change token request target events (.ok pair)) :
    pair.target = target ∧ posts events = [(pair.post change token, pair.outcome)] ∧
      issuedNames events = [target.hostname].filter (needsIssue request) ∧
        StoredFor change token request events pair := by
  cases h with
  | stored obtained created =>
    obtain ⟨hposts, hissued, hcarries⟩ := obtained.wiring
    exact ⟨rfl, hposts, hissued, created, hcarries.mono (List.subset_append_left _ _)⟩

/-- When all key pairs were stored, there is one creation for each target, in order, and the issuer
was asked for those host names only that need it. -/
theorem StoresAll.wiring {waiting : List Target} {pairs : List StoredPair}
    {result : Except SetupError (List StoredPair)}
    (h : StoresAll change token request waiting events result) (hresult : result = .ok pairs) :
    pairs.map StoredPair.target = waiting ∧
      posts events = pairs.map (fun pair => (pair.post change token, pair.outcome)) ∧
        issuedNames events = (waiting.map Target.hostname).filter (needsIssue request) ∧
          ∀ pair ∈ pairs, StoredFor change token request events pair := by
  induction h generalizing pairs with
  | nil =>
    cases hresult
    exact ⟨rfl, rfl, rfl, nofun⟩
  | failed first => cases hresult
  | @stored target waiting earlier later pair result first rest ih =>
    cases result with
    | error error => cases hresult
    | ok others =>
      cases hresult
      obtain ⟨htarget, hpost, hissue, hstored⟩ := first.wiring
      obtain ⟨htargets, hposts, hissues, hothers⟩ := ih rfl
      refine ⟨?_, ?_, ?_, ?_⟩
      · rw [List.map_cons, htarget, htargets]
      · rw [posts_append, hpost, hposts]
        rfl
      · rw [issuedNames_append, hissue, hissues, ← List.filter_append]
        rfl
      · intro other hother
        rcases List.mem_cons.1 hother with rfl | hother
        · exact ⟨hstored.created, hstored.carries.mono (List.subset_append_left _ _)⟩
        · obtain ⟨hcreated, hcarries⟩ := hothers other hother
          exact ⟨hcreated, hcarries.mono (List.subset_append_right _ _)⟩

/-! ## Names -/

/-- The host names of the API server and of the components are four different ones. -/
theorem targets_hostname_nodup (suffix setupUiNamespace : String) :
    ((targets (.ofSuffix suffix) setupUiNamespace).map Target.hostname).Nodup := by
  -- They differ in their first letters.
  have hletters : (((targets (.ofSuffix suffix) setupUiNamespace).map Target.hostname).map
      fun hostname => hostname.toList.head?) = [some 'a', some 'c', some 'o', some 'e'] := by
    simp [targets, target, components, Dns.ClusterDomains.ofSuffix, Dns.apiDomain, Dns.routeHost,
      Dns.consoleRoute, Dns.oauthRoute, Dns.setupUiRoute]
  have hnodup : (((targets (.ofSuffix suffix) setupUiNamespace).map Target.hostname).map
      fun hostname => hostname.toList.head?).Nodup := by
    rw [hletters]
    decide
  have hdiffer : ∀ a b : String, a.toList.head? ≠ b.toList.head? → a ≠ b :=
    fun a b hne heq => hne (congrArg (fun hostname => hostname.toList.head?) heq)
  exact List.Pairwise.of_map _ hdiffer hnodup

theorem components_name_nodup (domains : Dns.ClusterDomains) (setupUiNamespace : String) :
    ((components domains setupUiNamespace).map Component.name).Nodup := by
  show ["console", "oauth-openshift", "edge-cluster-setup"].Nodup
  decide

/-! ## Runs that write the configurations -/

/-- How the key pairs, the secrets and the configurations of a run belong together: `apiPair` is
stored for the API server and `pairs` are stored for the components, in order. -/
structure Wiring (change : DomainChange) (token : String) (request : DomainChangeRequest)
    (suffix : String) (events : List Event) (apiPair : StoredPair) (pairs : List StoredPair) :
    Prop where
  inOrder : (apiPair :: pairs).map StoredPair.target =
    targets (.ofSuffix suffix) change.setupUi.inNamespace
  /-- Nothing else is created. -/
  posted : posts events =
    (apiPair :: pairs).map fun pair => (pair.post change token, pair.outcome)
  stored : ∀ pair ∈ apiPair :: pairs, StoredFor change token request events pair
  /-- Each host name without a supplied pair is asked for once, and no other. -/
  issuedOnce : ∀ hostname, (issuedNames events).count hostname =
    if hostname ∈ (targets (.ofSuffix suffix) change.setupUi.inNamespace).map Target.hostname ∧
      request.customCerts.get? hostname = none then 1 else 0
  /-- The patch of the ingress configuration sets component routes that name the secret of each
  component. -/
  ingress : ∀ sent outcome, .called sent outcome ∈ events → sent.method = .patch →
    sent.url = change.client.url ingressRef.path →
      ∃ ingress routes, change.IngressRead token events ingress ∧
        sent = change.ingressWrite token
          (ingressPatch ingress (Dns.ingressDomain suffix) routes) ∧
        PatchesIngress change.client (Dns.ingressDomain suffix) routes sent ∧
        ∀ component pair,
          (component, pair) ∈
            (components (.ofSuffix suffix) change.setupUi.inNamespace).zip pairs →
          ∃ route, firstNamed? component.name routes = some route ∧
            route.hostname = component.hostname ∧ route.tlsSecret = ⟨pair.secret⟩
  /-- The patch of the API server's configuration names the secret of the API server. -/
  apiServer : ∀ sent outcome, .called sent outcome ∈ events → sent.method = .patch →
    sent.url = change.client.url apiServerRef.path →
      sent = change.apiServerWrite token (apiServerPatch (Dns.apiDomain suffix) apiPair.secret) ∧
        PatchesApiServer change.client (Dns.apiDomain suffix) apiPair.secret sent

/-- What a run does after all was prepared. -/
inductive Finishes (change : DomainChange) (token : String) (domains : Dns.ClusterDomains)
    (ingress : IngressConfig) (apiPair : StoredPair) (pairs : List StoredPair) : Event → Prop where
  | ingress {outcome : Outcome} : Finishes change token domains ingress apiPair pairs
      (.called (change.finalIngressWrite token domains ingress pairs) outcome)
  | apiServer {outcome : Outcome} : Finishes change token domains ingress apiPair pairs
      (.called (change.finalApiServerWrite token domains apiPair) outcome)
  | refresh {sent : Request} {outcome : Outcome} (refreshes : Refreshes change token sent) :
      Finishes change token domains ingress apiPair pairs (.called sent outcome)
  | count {counter : Counter} {amount : Nat} :
      Finishes change token domains ingress apiPair pairs (.counted counter amount)

theorem Refreshes.method_ne_post {sent : Request} (h : Refreshes change token sent) :
    sent.method ≠ .post := by
  cases h with
  | readOAuthClient => simp [oauthClientRead]
  | patchOAuthClient operations => simp [oauthClientWrite]
  | readDeployment => simp [deploymentRead]
  | patchDeployment operations => simp [deploymentWrite]

variable {domains : Dns.ClusterDomains} {ingress : IngressConfig} {apiPair : StoredPair}
  {pairs : List StoredPair} {counts : RehostCounts} {preparing last : List Event}

theorem posts_finishing (h : ∀ event ∈ last,
    Finishes change token domains ingress apiPair pairs event) : posts last = [] := by
  refine posts_eq_nil fun sent outcome hmem => ?_
  cases h _ hmem with
  | ingress => simp [finalIngressWrite]
  | apiServer => simp [finalApiServerWrite]
  | refresh refreshes => exact refreshes.method_ne_post

theorem issuedNames_finishing (h : ∀ event ∈ last,
    Finishes change token domains ingress apiPair pairs event) : issuedNames last = [] := by
  refine issuedNames_eq_nil fun hostname result hmem => ?_
  cases h (.issued hostname result) hmem

theorem Rehosts.posts_eq_nil {new : String} {old : Option String}
    (h : Rehosts change token new old events counts) : posts events = [] := by
  refine EdgeSetup.posts_eq_nil fun sent outcome hmem => ?_
  rw [h.called_method hmem]
  decide

/-- The creations and issuances of a run are those of its preparation. -/
theorem Prepares.storing
    (h : Prepares change token request (.ofSuffix suffix) ingress apiPair pairs counts preparing)
    (hlast : ∀ event ∈ last,
      Finishes change token (.ofSuffix suffix) ingress apiPair pairs event) :
    (apiPair :: pairs).map StoredPair.target =
        targets (.ofSuffix suffix) change.setupUi.inNamespace ∧
      posts (preparing ++ last) =
        (apiPair :: pairs).map (fun pair => (pair.post change token, pair.outcome)) ∧
      issuedNames (preparing ++ last) =
        ((targets (.ofSuffix suffix) change.setupUi.inNamespace).map Target.hostname).filter
          (needsIssue request) ∧
      ∀ pair ∈ apiPair :: pairs, StoredFor change token request (preparing ++ last) pair := by
  cases h with
  | @intro outcome securing moving opens secured rehosts =>
    obtain ⟨htargets, hposts, hissues, hstored⟩ := secured.wiring rfl
    have hread : posts [.called (change.ingressRead token) outcome] = [] := by simp [posts]
    refine ⟨htargets, ?_, ?_, fun pair hpair => ?_⟩
    · rw [← List.singleton_append, posts_append, posts_append, posts_append, hread,
        rehosts.posts_eq_nil, posts_finishing hlast, hposts]
      simp
    · rw [← List.singleton_append, issuedNames_append, issuedNames_append, issuedNames_append,
        issuedNames_eq_nil rehosts.not_issued, issuedNames_finishing hlast, hissues]
      simp [issuedNames]
    · obtain ⟨hcreated, hcarries⟩ := hstored pair hpair
      refine ⟨hcreated, hcarries.mono fun event hmem => ?_⟩
      simp [hmem]

/-- A patch of a run is made at its end. -/
theorem Prepares.patches
    (h : Prepares change token request domains ingress apiPair pairs counts preparing)
    (hlast : ∀ event ∈ last, Finishes change token domains ingress apiPair pairs event)
    {sent : Request} {outcome : Outcome} (hmem : .called sent outcome ∈ preparing ++ last)
    (hmethod : sent.method = .patch) :
    sent = change.finalIngressWrite token domains ingress pairs ∨
      sent = change.finalApiServerWrite token domains apiPair ∨
        sent.url ∉ change.decisiveUrls := by
  rcases List.mem_append.1 hmem with hmem | hmem
  · exact absurd hmethod (h.inOrder.2.1 sent outcome hmem)
  · cases hlast _ hmem with
    | ingress => exact .inl rfl
    | apiServer => exact .inr (.inl rfl)
    | refresh refreshes => exact .inr (.inr refreshes.url_not_decisive)

/-- The patch of the ingress configuration is the one that was worked out. -/
theorem Prepares.ingressPatch_eq
    (h : Prepares change token request domains ingress apiPair pairs counts preparing)
    (hlast : ∀ event ∈ last, Finishes change token domains ingress apiPair pairs event)
    {sent : Request} {outcome : Outcome} (hmem : .called sent outcome ∈ preparing ++ last)
    (hmethod : sent.method = .patch) (hurl : sent.url = change.client.url ingressRef.path) :
    sent = change.finalIngressWrite token domains ingress pairs := by
  rcases h.patches hlast hmem hmethod with rfl | rfl | hother
  · rfl
  · rw [finalApiServerWrite, apiServerWrite_url] at hurl
    exact absurd hurl.symm ingressRef_url_ne_apiServerRef_url
  · exact absurd (hurl ▸ mem_decisiveUrls.2 ⟨ingressRef, by simp, rfl⟩) hother

theorem Prepares.wiring
    (h : Prepares change token request domains ingress apiPair pairs counts preparing)
    (hlast : ∀ event ∈ last, Finishes change token domains ingress apiPair pairs event) :
    ∃ suffix apiPair pairs, Asks request suffix ∧
      Wiring change token request suffix (preparing ++ last) apiPair pairs := by
  obtain ⟨outcome, hhead, opens⟩ := h.reads
  obtain ⟨suffix, asked, rfl⟩ := requestedDomains_eq_ok.1 opens.named
  obtain ⟨htargets, hposts, hissued, hstored⟩ := h.storing hlast
  have hread : change.IngressRead token (preparing ++ last) ingress :=
    IngressRead.append ⟨outcome, hhead, opens.reads⟩ last
  have hapiServerUrl : change.client.url apiServerRef.path ∈ change.decisiveUrls :=
    mem_decisiveUrls.2 ⟨apiServerRef, by simp, rfl⟩
  refine ⟨suffix, apiPair, pairs, asked, htargets, hposts, hstored, ?_, ?_, ?_⟩
  · intro hostname
    have hnodup := (targets_hostname_nodup suffix change.setupUi.inNamespace).filter
      (needsIssue request)
    rw [hissued, List.Nodup.count hnodup]
    simp [needsIssue, List.mem_filter]
  · intro sent outcome hmem hmethod hurl
    have hsent := h.ingressPatch_eq hlast hmem hmethod hurl
    exact ⟨ingress, _, hread, hsent, hsent ▸ change.ingressWrite_patchesIngress ..,
      fun component pair hzip => securedRoutes_named (components_name_nodup ..) _ hzip⟩
  · intro sent outcome hmem hmethod hurl
    rcases h.patches hlast hmem hmethod with rfl | rfl | hother
    · rw [finalIngressWrite, ingressWrite_url] at hurl
      exact absurd hurl ingressRef_url_ne_apiServerRef_url
    · exact ⟨rfl, change.apiServerWrite_patchesApiServer ..⟩
    · exact absurd (hurl ▸ hapiServerUrl) hother

/-- A course sends no patch, or it was all prepared and finishes from there. -/
theorem Course.finishes {result : Except SetupError DomainChangeOutcome}
    (h : Course change token request events result) :
    Unpatched events ∨ ∃ domains ingress apiPair pairs counts preparing last,
      events = preparing ++ last ∧
        Prepares change token request domains ingress apiPair pairs counts preparing ∧
          ∀ event ∈ last, Finishes change token domains ingress apiPair pairs event := by
  cases h with
  | refused bad => exact .inl nofun
  | unread named unreadable => exact .inl .read
  | unchanged named reads same => exact .inl .read
  | unsecured opens failed => exact .inl (.append .read failed.unpatched)
  | ingressRefused prepares refused =>
    refine .inr ⟨_, _, _, _, _, _, _, rfl, prepares, fun event hmem => ?_⟩
    rw [List.mem_singleton.1 hmem]
    exact .ingress
  | apiServerRefused prepares accepted refused =>
    refine .inr ⟨_, _, _, _, _, _, _, rfl, prepares, fun event hmem => ?_⟩
    rcases List.mem_cons.1 hmem with rfl | hmem
    · exact .ingress
    · rw [List.mem_singleton.1 hmem]
      exact .apiServer
  | migrated prepares ingressAccepted apiServerAccepted refreshes =>
    refine .inr ⟨_, _, _, _, _, _, _, rfl, prepares, fun event hmem => ?_⟩
    rcases List.mem_cons.1 hmem with rfl | hmem
    · exact .ingress
    rcases List.mem_cons.1 hmem with rfl | hmem
    · exact .apiServer
    · obtain ⟨-, sent, outcome, rfl, hrefreshes⟩ := refreshes.refreshes event hmem
      exact .refresh hrefreshes

/-- So it is with a run, whose last event counts it. -/
theorem run_finishes {result : Except SetupError DomainChangeOutcome}
    (h : (change.run token request).Runs events result) :
    Unpatched events ∨ ∃ domains ingress apiPair pairs counts preparing last,
      events = preparing ++ last ∧
        Prepares change token request domains ingress apiPair pairs counts preparing ∧
          ∀ event ∈ last, Finishes change token domains ingress apiPair pairs event := by
  obtain ⟨first, rfl, hcourse⟩ := run_course h
  rcases hcourse.finishes with
    hunpatched | ⟨domains, ingress, apiPair, pairs, counts, preparing, last, rfl, prepares, hlast⟩
  · refine .inl (hunpatched.append fun sent outcome hmem => ?_)
    cases List.mem_singleton.1 hmem
  · refine .inr ⟨_, _, _, _, _, _, _, List.append_assoc .., prepares, fun event hmem => ?_⟩
    rcases List.mem_append.1 hmem with hmem | hmem
    · exact hlast event hmem
    · rw [List.mem_singleton.1 hmem]
      exact .count

theorem ingressPatched_of_migrated (h : (change.run token request).Runs events
    (.ok (.migrated counts))) : change.IngressPatched token events := by
  obtain ⟨first, rfl, hcourse⟩ := run_course h
  cases hcourse with
  | migrated prepares ingressAccepted apiServerAccepted refreshes =>
    refine ⟨_, _, List.mem_append_left _ (List.mem_append_right _ (List.mem_cons_self ..))⟩

/-- **The wiring of key pairs and secrets** in every run that patches the ingress configuration. -/
theorem run_wiring {result : Except SetupError DomainChangeOutcome}
    (h : (change.run token request).Runs events result)
    (hsent : change.IngressPatched token events) :
    ∃ suffix apiPair pairs, Asks request suffix ∧
      Wiring change token request suffix events apiPair pairs := by
  rcases run_finishes h with
    hunpatched | ⟨domains, ingress, apiPair, pairs, counts, preparing, last, rfl, prepares, hlast⟩
  · exact absurd hsent hunpatched.not_ingressPatched
  · exact prepares.wiring hlast

/-- The wiring of a change with a supplied pair for the console. -/
theorem run_wiring_supplied :
    let custom := Map.ofList [("console-openshift-console.apps.new.io", ⟨"CRT", "KEY"⟩)]
    ∃ events, sample.IngressPatched "token" events ∧
      ∃ suffix apiPair pairs, Asks ⟨some "new.io", custom⟩ suffix ∧
        Wiring sample "token" ⟨some "new.io", custom⟩ suffix events apiPair pairs := by
  intro custom
  have hplay : ((sample.run "token" ⟨some "new.io", custom⟩).run
      ((Script.compliant "apps.old.io").outside Script.plainIssuer .standard)
      (.start Attempts.none)).map Prod.fst = some (.ok (.migrated ⟨1, 0⟩)) := by decide +kernel
  obtain ⟨events, hruns⟩ := Session.runs_of_run hplay
  have hpatched := ingressPatched_of_migrated hruns
  exact ⟨events, hpatched, run_wiring hruns hpatched⟩

/-! ## An issuer of base64 -/

/-- The pair that a logged creation has under `data`, and whether it has `stringData`. -/
def loggedPair? : LogEntry → Option (Option TlsCertificate × Bool)
  | .issued _ _ => none
  | .sent _ request =>
    if request.method = .post then
      request.body.map fun body =>
        ((body.get? "data").bind (decodeValue? TlsCertificate), (body.get? "stringData").isSome)
    else none

/-- Whether a log entry is a patch of the ingress configuration. -/
def isIngressPatch (change : DomainChange) : LogEntry → Bool
  | .issued _ _ => false
  | .sent _ request =>
    request.method = .patch ∧ request.url = change.client.url ingressRef.path

/-- An issuer of one key pair in base64 for any host name. -/
def encodedIssuer (_ : String) : Except SetupError CertificateBundle :=
  .ok ⟨"Q1JU", ⟨"S0VZ"⟩, .base64⟩

/-- Without a supplied pair, all four secrets have the issued pair under `data` and none has it
under `stringData`, in a run that patches the ingress configuration and changes the domain. -/
theorem encoded_pairs_in_data :
    ((sample.run "token" ⟨some "new.io", .empty⟩).run
        ((Script.compliant "apps.old.io").outside encodedIssuer .standard)
        (.start Attempts.none)).map
      (fun played => (played.1, played.2.log.filterMap loggedPair?,
        played.2.log.countP sample.isIngressPatch)) =
      some (.ok (.migrated ⟨1, 0⟩), List.replicate 4 (some ⟨"Q1JU", "S0VZ"⟩, false), 1) := by
  decide +kernel

end DomainChange

end EdgeSetup
