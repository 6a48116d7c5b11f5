import EdgeSetup.Proofs.DomainChange.BestEffort
import EdgeSetup.Proofs.DomainChange.Course
import EdgeSetup.Proofs.Session.InOrder

/-!
# What a domain change may do next

What a domain change may do depends only on what it did before (`Permitted`): certificates and
secrets come target by target once another domain was read, routes once all secrets are there, the
API server once the ingress configuration was written, and the setup UI last. Each part of a run
keeps this order (`StoresAll.inOrder`, `Rehosts.inOrder`, `Prepares.inOrder`).
-/

namespace EdgeSetup

open Json Http

namespace DomainChange

variable (change : DomainChange) (token : String) (request : DomainChangeRequest)

/-! ## What was done before -/

/-- The request asks for a valid domain suffix. -/
structure Asks (request : DomainChangeRequest) (suffix : String) : Prop where
  domain : request.domain = some suffix
  valid : Dns.isValidName suffix = true

/-- First of all, the ingress configuration was read. -/
def IngressRead (events : List Event) (ingress : IngressConfig) : Prop :=
  ∃ outcome, events.head? = some (.called (change.ingressRead token) outcome) ∧
    Reads outcome ingress

/-- The ingress configuration was read, and it is one of another domain than the one asked for. -/
def OtherDomainRead (suffix : String) (events : List Event) : Prop :=
  ∃ ingress, change.IngressRead token events ingress ∧
    (ClusterDomainState.ofIngress ingress).ingressDomain ≠ some (Dns.ingressDomain suffix)

/-- A secret for the target was asked for. -/
def SecretPosted (target : Target) (events : List Event) : Prop :=
  ∃ bundle outcome, .called (change.secretPost token target.namePrefix bundle) outcome ∈ events

/-- A secret for the target was created, and the cluster told its name. -/
def SecretCreated (target : Target) (events : List Event) : Prop :=
  ∃ bundle outcome name,
    .called (change.secretPost token target.namePrefix bundle) outcome ∈ events ∧
      Created outcome name

/-- A patch of the ingress configuration was sent. -/
def IngressPatched (events : List Event) : Prop :=
  ∃ operations outcome, .called (change.ingressWrite token operations) outcome ∈ events

/-- A patch of the ingress configuration was carried out. -/
def IngressAccepted (events : List Event) : Prop :=
  ∃ operations outcome, .called (change.ingressWrite token operations) outcome ∈ events ∧
    Accepted outcome

/-- A patch of the API server's configuration was carried out. -/
def ApiServerAccepted (events : List Event) : Prop :=
  ∃ document outcome, .called (change.apiServerWrite token document) outcome ∈ events ∧
    Accepted outcome

/-! ## What may be done next -/

/-- It is the turn of a target: another domain was read, the targets before it have their
secrets, and neither it nor any target after it was asked a secret for. -/
structure Turn (suffix : String) (before : List Event) (earlier : List Target) (target : Target)
    (later : List Target) : Prop where
  asked : Asks request suffix
  differs : change.OtherDomainRead token suffix before
  split : targets (.ofSuffix suffix) change.setupUi.inNamespace = earlier ++ target :: later
  served : ∀ other ∈ earlier, change.SecretCreated token other before
  waiting : ∀ other ∈ target :: later, ¬ change.SecretPosted token other before

/-- Another domain was read, and all targets have their secrets. -/
structure Secured (suffix : String) (before : List Event) : Prop where
  asked : Asks request suffix
  differs : change.OtherDomainRead token suffix before
  served : ∀ target ∈ targets (.ofSuffix suffix) change.setupUi.inNamespace,
    change.SecretCreated token target before

/-- What a domain change may do after what it did before. -/
inductive Permitted (before : List Event) : Event → Prop where
  | readIngress {suffix : String} {outcome : Outcome} (asked : Asks request suffix)
      (first : before = []) : Permitted before (.called (change.ingressRead token) outcome)
  | obtainPair {suffix : String} {earlier later : List Target} {target : Target}
      {result : Except SetupError CertificateBundle}
      (turn : Turn change token request suffix before earlier target later) :
      Permitted before (.issued target.hostname result)
  | storePair {suffix : String} {earlier later : List Target} {target : Target}
      {bundle : CertificateBundle} {outcome : Outcome}
      (turn : Turn change token request suffix before earlier target later) :
      Permitted before (.called (change.secretPost token target.namePrefix bundle) outcome)
  | listRoutes {suffix : String} {outcome : Outcome}
      (secured : Secured change token request suffix before)
      (unpatched : ¬ change.IngressPatched token before) :
      Permitted before (.called (change.routeList token) outcome)
  | moveRoutes {suffix : String} {exchanges : List (Request × Outcome)}
      (secured : Secured change token request suffix before)
      (unpatched : ¬ change.IngressPatched token before)
      (routes : ∀ exchange ∈ exchanges, ∃ inNamespace name host,
        exchange.1 = change.routeWrite token (.namespaced .route inNamespace name, host)) :
      Permitted before (.calledAll exchanges)
  | patchIngress {suffix : String} {operations : List PatchOp} {outcome : Outcome}
      (secured : Secured change token request suffix before)
      (unpatched : ¬ change.IngressPatched token before) :
      Permitted before (.called (change.ingressWrite token operations) outcome)
  | patchApiServer {suffix secret : String} {outcome : Outcome} (asked : Asks request suffix)
      (accepted : change.IngressAccepted token before) :
      Permitted before (.called (change.apiServerWrite token
        (apiServerPatch (Dns.apiDomain suffix) secret)) outcome)
  | refreshUi {refreshing : Request} {outcome : Outcome}
      (accepted : change.ApiServerAccepted token before) (enabled : change.setupUi.refresh = true)
      (refreshes : Refreshes change token refreshing) :
      Permitted before (.called refreshing outcome)
  | count {counter : Counter} {amount : Nat} : Permitted before (.counted counter amount)

variable {change token request} {before more events : List Event} {suffix : String}

/-! ## What was done stays done -/

theorem IngressRead.append {ingress : IngressConfig} (h : change.IngressRead token before ingress)
    (more : List Event) : change.IngressRead token (before ++ more) ingress := by
  obtain ⟨outcome, hhead, hreads⟩ := h
  refine ⟨outcome, ?_, hreads⟩
  rw [List.head?_append, hhead]
  rfl

theorem IngressRead.unique {a b : IngressConfig} (ha : change.IngressRead token events a)
    (hb : change.IngressRead token events b) : a = b := by
  obtain ⟨outcome, hhead, hreads⟩ := ha
  obtain ⟨outcome', hhead', hreads'⟩ := hb
  rw [hhead] at hhead'
  cases hhead'
  exact hreads.unique hreads'

theorem OtherDomainRead.append (h : change.OtherDomainRead token suffix before)
    (more : List Event) : change.OtherDomainRead token suffix (before ++ more) := by
  obtain ⟨ingress, hread, hdiffers⟩ := h
  exact ⟨ingress, hread.append more, hdiffers⟩

theorem SecretCreated.append {target : Target} (h : change.SecretCreated token target before)
    (more : List Event) : change.SecretCreated token target (before ++ more) := by
  obtain ⟨bundle, outcome, name, hmem, hcreated⟩ := h
  exact ⟨bundle, outcome, name, List.mem_append_left more hmem, hcreated⟩

theorem Secured.append (h : Secured change token request suffix before) (more : List Event) :
    Secured change token request suffix (before ++ more) :=
  ⟨h.asked, h.differs.append more, fun target htarget => (h.served target htarget).append more⟩

theorem ApiServerAccepted.append (h : change.ApiServerAccepted token before) (more : List Event) :
    change.ApiServerAccepted token (before ++ more) := by
  obtain ⟨document, outcome, hmem, haccepted⟩ := h
  exact ⟨document, outcome, List.mem_append_left more hmem, haccepted⟩

/-- A turn lasts until a secret is asked for. -/
theorem Turn.append {earlier later : List Target} {target : Target}
    (h : Turn change token request suffix before earlier target later) (more : List Event)
    (hmore : ∀ other ∈ target :: later, ¬ change.SecretPosted token other more) :
    Turn change token request suffix (before ++ more) earlier target later where
  asked := h.asked
  differs := h.differs.append more
  split := h.split
  served := fun other hother => (h.served other hother).append more
  waiting := by
    rintro other hother ⟨bundle, outcome, hmem⟩
    rcases List.mem_append.1 hmem with hmem | hmem
    · exact h.waiting other hother ⟨bundle, outcome, hmem⟩
    · exact hmore other hother ⟨bundle, outcome, hmem⟩

/-! ## Storing the key pairs -/

/-- Obtaining and storing the key pair of a target asks a secret for that target only. -/
theorem Obtains.posted {target other : Target} {bundle : CertificateBundle} {outcome : Outcome}
    {obtaining : List Event} (h : Obtains request target.hostname bundle obtaining)
    (hposted : change.SecretPosted token other
      (obtaining ++ [.called (change.secretPost token target.namePrefix bundle) outcome])) :
    other.namePrefix = target.namePrefix := by
  obtain ⟨bundle', outcome', hmem⟩ := hposted
  rcases List.mem_append.1 hmem with hobtaining | hpost
  · cases h with
    | supplied given => cases hobtaining
    | issued missing => simp at hobtaining
  · simp only [List.mem_singleton, Event.called.injEq] at hpost
    exact secretPost_prefix_inj hpost.1

theorem Stores.posted {target other : Target} {result : Except SetupError StoredPair}
    (h : Stores change token request target events result)
    (hposted : change.SecretPosted token other events) : other.namePrefix = target.namePrefix := by
  cases h with
  | unissued missing =>
    obtain ⟨bundle, outcome, hmem⟩ := hposted
    simp at hmem
  | refused obtained uncreated => exact obtained.posted hposted
  | stored obtained created => exact obtained.posted hposted

theorem Obtains.inOrder {earlier later : List Target} {target : Target} {outcome : Outcome}
    {bundle : CertificateBundle} {obtaining : List Event}
    (h : Obtains request target.hostname bundle obtaining)
    (turn : Turn change token request suffix before earlier target later) :
    InOrder (Permitted change token request) before
      (obtaining ++ [.called (change.secretPost token target.namePrefix bundle) outcome]) := by
  cases h with
  | supplied given => exact inOrder_cons.2 ⟨.storePair turn, inOrder_nil⟩
  | issued missing =>
    refine inOrder_cons.2 ⟨.obtainPair turn, inOrder_cons.2 ⟨.storePair (turn.append _ ?_),
      inOrder_nil⟩⟩
    rintro other - ⟨bundle, outcome, hmem⟩
    simp at hmem

theorem Stores.inOrder {earlier later : List Target} {target : Target}
    {result : Except SetupError StoredPair} (h : Stores change token request target events result)
    (turn : Turn change token request suffix before earlier target later) :
    InOrder (Permitted change token request) before events := by
  cases h with
  | unissued missing => exact inOrder_cons.2 ⟨.obtainPair turn, inOrder_nil⟩
  | refused obtained uncreated => exact obtained.inOrder turn
  | stored obtained created => exact obtained.inOrder turn

theorem Stores.created {target : Target} {pair : StoredPair}
    (h : Stores change token request target events (.ok pair)) :
    change.SecretCreated token target events := by
  cases h with
  | stored obtained created =>
    exact ⟨_, _, _, List.mem_append_right _ (List.mem_singleton_self _), created⟩

/-- The secrets of different targets start differently. -/
theorem targets_prefix_nodup (domains : Dns.ClusterDomains) (setupUiNamespace : String) :
    ((targets domains setupUiNamespace).map Target.namePrefix).Nodup := by
  show ["api-secret-", "console-secret-", "oauth-secret-", "setup-ui-secret-"].Nodup
  decide

/-- The targets that are left are served one after the other, each in its turn. -/
theorem StoresAll.inOrder {served waiting : List Target}
    {result : Except SetupError (List StoredPair)}
    (h : StoresAll change token request waiting events result) (asked : Asks request suffix)
    (differs : change.OtherDomainRead token suffix before)
    (hsplit : targets (.ofSuffix suffix) change.setupUi.inNamespace = served ++ waiting)
    (hserved : ∀ target ∈ served, change.SecretCreated token target before)
    (hwaiting : ∀ target ∈ waiting, ¬ change.SecretPosted token target before) :
    InOrder (Permitted change token request) before events ∧
      ∀ pairs, result = .ok pairs → ∀ target ∈ served ++ waiting,
        change.SecretCreated token target (before ++ events) := by
  induction h generalizing served before with
  | nil =>
    refine ⟨inOrder_nil, fun pairs _ target htarget => ?_⟩
    rw [List.append_nil] at htarget ⊢
    exact hserved target htarget
  | failed first => exact ⟨first.inOrder ⟨asked, differs, hsplit, hserved, hwaiting⟩, nofun⟩
  | @stored target others earlier later pair result first rest ih =>
    have hnodup := targets_prefix_nodup (.ofSuffix suffix) change.setupUi.inNamespace
    rw [hsplit, List.map_append, List.map_cons] at hnodup
    have hfresh := (List.nodup_cons.1 (List.nodup_append.1 hnodup).2.1).1
    have hsplit' : targets (.ofSuffix suffix) change.setupUi.inNamespace =
        (served ++ [target]) ++ others := by
      rw [hsplit, List.append_assoc]
      rfl
    have hserved' : ∀ other ∈ served ++ [target],
        change.SecretCreated token other (before ++ earlier) := by
      intro other hother
      rcases List.mem_append.1 hother with hother | hother
      · exact (hserved other hother).append earlier
      · obtain ⟨bundle, outcome, name, hmem, hcreated⟩ := first.created
        rw [List.mem_singleton.1 hother]
        exact ⟨bundle, outcome, name, List.mem_append_right before hmem, hcreated⟩
    have hwaiting' : ∀ other ∈ others, ¬ change.SecretPosted token other (before ++ earlier) := by
      rintro other hother ⟨bundle, outcome, hmem⟩
      rcases List.mem_append.1 hmem with hmem | hmem
      · exact hwaiting other (List.mem_cons_of_mem _ hother) ⟨bundle, outcome, hmem⟩
      · have hsame := first.posted ⟨bundle, outcome, hmem⟩
        exact hfresh (hsame ▸ List.mem_map_of_mem hother)
    obtain ⟨horder, hall⟩ := ih (differs.append earlier) hsplit' hserved' hwaiting'
    refine ⟨inOrder_append.2 ⟨first.inOrder ⟨asked, differs, hsplit, hserved, hwaiting⟩, horder⟩,
      fun pairs hpairs other hother => ?_⟩
    rw [← List.append_assoc]
    cases result with
    | error error => cases hpairs
    | ok later => exact hall later rfl other (by simpa using hother)

/-! ## Before the configurations are written -/

/-- No patch was sent on its own. -/
def Unpatched (events : List Event) : Prop :=
  ∀ sent outcome, .called sent outcome ∈ events → sent.method ≠ .patch

theorem Unpatched.append (h : Unpatched before) (h' : Unpatched more) :
    Unpatched (before ++ more) := by
  intro sent outcome hmem
  rcases List.mem_append.1 hmem with hmem | hmem
  · exact h sent outcome hmem
  · exact h' sent outcome hmem

theorem Unpatched.of_append (h : Unpatched (before ++ more)) : Unpatched before :=
  fun sent outcome hmem => h sent outcome (List.mem_append_left more hmem)

theorem Unpatched.read {path : String} {outcome : Outcome} :
    Unpatched [.called (change.client.readRequest token path) outcome] := by
  intro sent _ hmem
  simp only [List.mem_singleton, Event.called.injEq] at hmem
  rw [hmem.1, Client.readRequest_method]
  decide

theorem Unpatched.not_ingressPatched (h : Unpatched events) :
    ¬ change.IngressPatched token events := by
  rintro ⟨operations, outcome, hmem⟩
  exact h _ _ hmem (change.ingressWrite_method token operations)

theorem Unpatched.not_apiServerAccepted (h : Unpatched events) :
    ¬ change.ApiServerAccepted token events := by
  rintro ⟨document, outcome, hmem, -⟩
  exact h _ _ hmem (change.apiServerWrite_method token document)

theorem Obtains.unpatched {hostname namePrefix : String} {outcome : Outcome}
    {bundle : CertificateBundle} {obtaining : List Event}
    (h : Obtains request hostname bundle obtaining) :
    Unpatched (obtaining ++ [.called (change.secretPost token namePrefix bundle) outcome]) := by
  intro sent _ hmem
  rcases List.mem_append.1 hmem with hobtaining | hpost
  · cases h with
    | supplied given => cases hobtaining
    | issued missing => simp at hobtaining
  · simp only [List.mem_singleton, Event.called.injEq] at hpost
    rw [hpost.1, secretPost_method]
    decide

theorem StoresAll.unpatched {waiting : List Target} {result : Except SetupError (List StoredPair)}
    (h : StoresAll change token request waiting events result) : Unpatched events := by
  have hstores : ∀ {target events result}, Stores change token request target events result →
      Unpatched events := by
    intro target events result h
    cases h with
    | unissued missing =>
      intro sent outcome hmem
      simp at hmem
    | refused obtained uncreated => exact obtained.unpatched
    | stored obtained created => exact obtained.unpatched
  induction h with
  | nil => exact fun sent outcome hmem => nomatch hmem
  | failed first => exact hstores first
  | stored first rest ih => exact (hstores first).append ih

theorem Rehosts.unpatched {new : String} {old : Option String} {counts : RehostCounts}
    (h : Rehosts change token new old events counts) : Unpatched events := by
  intro sent outcome hmem
  rw [h.called_method hmem]
  decide

theorem Rehosts.inOrder {new : String} {old : Option String} {counts : RehostCounts}
    (h : Rehosts change token new old events counts)
    (secured : Secured change token request suffix before) (unpatched : Unpatched before) :
    InOrder (Permitted change token request) before events := by
  rintro earlier event later rfl
  have hsecured := secured.append earlier
  have hunpatched : ¬ change.IngressPatched token (before ++ earlier) :=
    (unpatched.append h.unpatched.of_append).not_ingressPatched
  rcases h.event event (by simp) with ⟨_, rfl⟩ | ⟨_, rfl, hroutes⟩ | ⟨_, _, rfl⟩
  · exact .listRoutes hsecured hunpatched
  · exact .moveRoutes hsecured hunpatched hroutes
  · exact .count

theorem requestedDomains_eq_ok {domains : Dns.ClusterDomains} :
    requestedDomains request = .ok domains ↔
      ∃ suffix, Asks request suffix ∧ domains = .ofSuffix suffix := by
  unfold requestedDomains
  constructor
  · intro h
    cases hdomain : request.domain with
    | none => simp [hdomain] at h
    | some suffix =>
      simp only [hdomain] at h
      split at h
      · next hvalid => exact ⟨suffix, ⟨hdomain, hvalid⟩, (Except.ok.inj h).symm⟩
      · cases h
  · rintro ⟨suffix, hasks, rfl⟩
    simp [hasks.domain, hasks.valid]

theorem Asks.unique {a b : String} (ha : Asks request a) (hb : Asks request b) : a = b :=
  Option.some.inj (ha.domain.symm.trans hb.domain)

theorem Opens.otherDomainRead {ingress : IngressConfig} {outcome : Outcome}
    (h : Opens request (.ofSuffix suffix) ingress outcome) :
    change.OtherDomainRead token suffix [.called (change.ingressRead token) outcome] :=
  ⟨ingress, ⟨outcome, rfl, h.reads⟩, h.differs⟩

theorem inOrder_ingressRead {outcome : Outcome} (asked : Asks request suffix)
    (h : InOrder (Permitted change token request) [.called (change.ingressRead token) outcome]
      events) :
    InOrder (Permitted change token request) []
      (.called (change.ingressRead token) outcome :: events) :=
  inOrder_cons.2 ⟨.readIngress asked rfl, h⟩

/-- What was prepared in order leaves all targets with their secrets and nothing patched. -/
theorem Prepares.inOrder {domains : Dns.ClusterDomains} {ingress : IngressConfig}
    {apiPair : StoredPair} {pairs : List StoredPair} {counts : RehostCounts}
    {preparing : List Event}
    (h : Prepares change token request domains ingress apiPair pairs counts preparing) :
    InOrder (Permitted change token request) [] preparing ∧ Unpatched preparing ∧
      ∃ suffix, domains = .ofSuffix suffix ∧ Secured change token request suffix preparing := by
  cases h with
  | @intro outcome securing moving opens secured rehosts =>
    obtain ⟨suffix, asked, rfl⟩ := requestedDomains_eq_ok.1 opens.named
    have differs : change.OtherDomainRead token suffix
        [.called (change.ingressRead token) outcome] := opens.otherDomainRead
    have hwaiting : ∀ target ∈ targets (.ofSuffix suffix) change.setupUi.inNamespace,
        ¬ change.SecretPosted token target [.called (change.ingressRead token) outcome] := by
      rintro target - ⟨bundle, outcome', hmem⟩
      simp only [List.mem_singleton, Event.called.injEq] at hmem
      simpa using congrArg Request.method hmem.1
    obtain ⟨hsecuring, hall⟩ :=
      secured.inOrder asked differs (List.nil_append _).symm nofun hwaiting
    have hunpatched : Unpatched (.called (change.ingressRead token) outcome :: securing) :=
      Unpatched.append .read secured.unpatched
    have hsecured : Secured change token request suffix
        (.called (change.ingressRead token) outcome :: securing) :=
      ⟨asked, differs.append securing, hall _ rfl⟩
    refine ⟨inOrder_ingressRead asked (inOrder_append.2 ⟨hsecuring,
      rehosts.inOrder hsecured hunpatched⟩), ?_, suffix, rfl, ?_⟩
    · rw [← List.cons_append]
      exact hunpatched.append rehosts.unpatched
    · rw [← List.cons_append]
      exact hsecured.append moving

theorem Prepares.reads {domains : Dns.ClusterDomains} {ingress : IngressConfig}
    {apiPair : StoredPair} {pairs : List StoredPair} {counts : RehostCounts}
    {preparing : List Event}
    (h : Prepares change token request domains ingress apiPair pairs counts preparing) :
    ∃ outcome, preparing.head? = some (.called (change.ingressRead token) outcome) ∧
      Opens request domains ingress outcome := by
  cases h with
  | intro opens secured rehosts => exact ⟨_, rfl, opens⟩

end DomainChange

end EdgeSetup
