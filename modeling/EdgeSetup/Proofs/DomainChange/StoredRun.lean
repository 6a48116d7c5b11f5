import EdgeSetup.Proofs.DomainChange.Saga
import EdgeSetup.Proofs.DomainChange.Storage

/-!
# What a domain change leaves stored

What one run does to the documents of a cluster that stores them. A run that migrates leaves the
API server with its one certificate, and no run takes that away. On documents of the requested
domain a run changes nothing, whatever it meets.
-/

namespace EdgeSetup

open Json Http

/-! ## Requests of a run -/

/-- A patch of a resource was sent. -/
def SendsPatch (client : Client) (ref : ResourceRef) (events : List Event) : Prop :=
  ∃ event ∈ events, ∃ sent ∈ event.requests,
    sent.method = .patch ∧ sent.url = client.url ref.path

namespace DomainChange

variable {change : DomainChange} {token : String} {request : DomainChangeRequest}
  {events before : List Event} {suffix : String}

/-- A patch at a decisive URL is one of the ingress configuration, the first that is sent, or one
that points the API server at the certificate of the suffix. -/
theorem Permitted.configPatch {event : Event} (h : Permitted change token request before event)
    {sent : Request} (hsent : sent ∈ event.requests) (hmethod : sent.method = .patch)
    (hdecisive : sent.url ∈ change.decisiveUrls) :
    (∃ operations outcome, event = .called (change.ingressWrite token operations) outcome ∧
        sent = change.ingressWrite token operations ∧ ¬ change.IngressPatched token before) ∨
      ∃ suffix secret, Asks request suffix ∧ sent = change.apiServerWrite token
        (apiServerPatch (Dns.apiDomain suffix) secret) := by
  cases h with
  | readIngress asked first =>
    rw [List.mem_singleton.1 hsent, ingressRead_method] at hmethod
    cases hmethod
  | obtainPair turn => cases hsent
  | storePair turn =>
    rw [List.mem_singleton.1 hsent, secretPost_method] at hmethod
    cases hmethod
  | listRoutes secured unpatched =>
    rw [List.mem_singleton.1 hsent, routeList_method] at hmethod
    cases hmethod
  | moveRoutes secured unpatched routes =>
    obtain ⟨exchange, hexchange, rfl⟩ := List.mem_map.1 hsent
    obtain ⟨inNamespace, name, host, hroute⟩ := routes exchange hexchange
    rw [hroute] at hdecisive
    exact absurd hdecisive (BestEffort.moveRoute inNamespace name host).url_not_decisive
  | patchIngress secured unpatched =>
    exact .inl ⟨_, _, rfl, List.mem_singleton.1 hsent, unpatched⟩
  | patchApiServer asked accepted => exact .inr ⟨_, _, asked, List.mem_singleton.1 hsent⟩
  | refreshUi accepted enabled refreshes =>
    rw [List.mem_singleton.1 hsent] at hdecisive
    exact absurd hdecisive refreshes.url_not_decisive
  | count => cases hsent

/-- Any patch of the API server's configuration points it at the certificate of the suffix. -/
theorem Permitted.apiServer {event : Event} (h : Permitted change token request before event)
    (asked : Asks request suffix) {sent : Request} (hsent : sent ∈ event.requests)
    (hmethod : sent.method = .patch)
    (hurl : sent.url = change.client.url apiServerRef.path) :
    ∃ secret, sent = change.apiServerWrite token
      (apiServerPatch (Dns.apiDomain suffix) secret) := by
  have hdecisive : sent.url ∈ change.decisiveUrls :=
    mem_decisiveUrls.2 ⟨apiServerRef, by simp, hurl⟩
  rcases h.configPatch hsent hmethod hdecisive with
    ⟨operations, outcome, -, rfl, -⟩ | ⟨other, secret, asked', hother⟩
  · rw [ingressWrite_url] at hurl
    exact absurd hurl ingressRef_url_ne_apiServerRef_url
  · cases asked.unique asked'
    exact ⟨secret, hother⟩

/-- A patch of the ingress configuration is the first one, and is sent on its own. -/
theorem Permitted.ingress {event : Event} (h : Permitted change token request before event)
    {sent : Request} (hsent : sent ∈ event.requests) (hmethod : sent.method = .patch)
    (hurl : sent.url = change.client.url ingressRef.path) :
    change.IngressPatched token [event] ∧ ¬ change.IngressPatched token before := by
  have hdecisive : sent.url ∈ change.decisiveUrls :=
    mem_decisiveUrls.2 ⟨ingressRef, by simp, hurl⟩
  rcases h.configPatch hsent hmethod hdecisive with
    ⟨operations, outcome, rfl, -, hfirst⟩ | ⟨other, secret, -, rfl⟩
  · exact ⟨⟨operations, outcome, List.mem_singleton_self _⟩, hfirst⟩
  · rw [apiServerWrite_url] at hurl
    exact absurd hurl.symm ingressRef_url_ne_apiServerRef_url

/-! ## What one run does to the documents -/

variable {σ : Type} {outside : Outside σ} {view : σ → Documents} {world after : World σ}
  {result : Except SetupError DomainChangeOutcome}

/-- A patch of the API server's configuration keeps a single certificate. -/
theorem singleCertificate_step {secret : String} {outcome : Outcome}
    {documents next : Documents}
    (h : Documents.Step change.client
      (change.apiServerWrite token (apiServerPatch (Dns.apiDomain suffix) secret)) outcome
      documents next)
    (hsingle : SingleCertificate suffix documents.apiServer) :
    SingleCertificate suffix next.apiServer := by
  cases h with
  | kept unaccepted => exact hsingle
  | ingress method url applied => exact hsingle
  | apiServer method url applied =>
    rw [patched?_apiServerWrite] at applied
    cases applied
    exact singleCertificate_merge ..

/-- Whatever a run does, a single certificate stays. -/
theorem keeps_singleCertificate (stores : StoresDocuments change.client outside view)
    (asked : Asks request suffix)
    (horder : ∀ event ∈ events, ∃ before, Permitted change token request before event)
    (h : World.Undergoes outside world events after)
    (hsingle : SingleCertificate suffix (view world.cluster).apiServer) :
    SingleCertificate suffix (view after.cluster).apiServer := by
  refine h.keeps (P := fun cluster => SingleCertificate suffix (view cluster).apiServer)
    (fun event hevent sent hsent cluster hcluster => ?_) hsingle
  have hstep := stores.step sent cluster
  by_cases hpatch : sent.method = .patch ∧ sent.url = change.client.url apiServerRef.path
  · obtain ⟨before, hpermitted⟩ := horder event hevent
    obtain ⟨secret, rfl⟩ := hpermitted.apiServer asked hsent hpatch.1 hpatch.2
    exact singleCertificate_step hstep hcluster
  · rw [hstep.apiServer_eq fun hmethod hurl => hpatch ⟨hmethod, hurl⟩]
    exact hcluster

/-- A run that sends no patch of the ingress configuration leaves it as it is. -/
theorem keeps_ingress (stores : StoresDocuments change.client outside view)
    (hnone : ¬ SendsPatch change.client ingressRef events)
    (h : World.Undergoes outside world events after) :
    (view after.cluster).ingress = (view world.cluster).ingress := by
  refine h.keeps (P := fun cluster => (view cluster).ingress = (view world.cluster).ingress)
    (fun event hevent sent hsent cluster hcluster => ?_) rfl
  rw [(stores.step sent cluster).ingress_eq fun hmethod hurl =>
    hnone ⟨event, hevent, sent, hsent, hmethod, hurl⟩]
  exact hcluster

/-- A call of the patch that comes back accepted has put the single certificate in place. -/
theorem singleCertificate_of_accepted {secret : String} {outcome : Outcome}
    (stores : StoresDocuments change.client outside view)
    (hcall : world.call outside (change.apiServerWrite token
      (apiServerPatch (Dns.apiDomain suffix) secret)) = some (outcome, after))
    (haccepted : Accepted outcome) : SingleCertificate suffix (view after.cluster).apiServer := by
  -- The outcome of the call is that of its last attempt, and this one was applied.
  refine (World.call_spec (P := fun _ _ => True) (Q := fun outcome cluster =>
    Accepted outcome → SingleCertificate suffix (view cluster).apiServer)
    (fun _ cluster _ _ => ⟨trivial, fun hdone => ?_⟩) trivial hcall).2 haccepted
  have hpatched := (stores.step _ cluster).apiServer_of_accepted
    (change.apiServerWrite_method ..) (change.apiServerWrite_url ..) hdone
  rw [patched?_apiServerWrite] at hpatched
  rw [← Option.some.inj hpatched]
  exact singleCertificate_merge ..

/-- A run that migrates leaves the API server with its one certificate. -/
theorem singleCertificate_of_migrated {counts : RehostCounts}
    (stores : StoresDocuments change.client outside view) (asked : Asks request suffix)
    (hruns : (change.run token request).Runs events (.ok (.migrated counts)))
    (h : World.Undergoes outside world events after) :
    SingleCertificate suffix (view after.cluster).apiServer := by
  have horder := run_inOrder hruns
  obtain ⟨first, rfl, hcourse⟩ := run_course hruns
  obtain ⟨-, document, outcome, hfirst, haccepted⟩ := hcourse.migrated_iff.1 ⟨counts, rfl⟩
  have hmem := List.mem_append_left [.counted (.domainChanges (label (.ok (.migrated counts)))) 1]
    hfirst
  obtain ⟨before, hpermitted⟩ := horder.of_mem hmem
  obtain ⟨secret, hsent⟩ := hpermitted.apiServer asked (List.mem_singleton_self _)
    (change.apiServerWrite_method ..) (change.apiServerWrite_url ..)
  obtain ⟨earlier, later, hsplit⟩ := List.append_of_mem hmem
  rw [hsplit] at h horder
  obtain ⟨middle, -, hrest⟩ := h.split
  cases hrest with
  | called step rest =>
    rw [hsent] at step
    exact keeps_singleCertificate stores asked
      (fun event hevent => horder.of_mem (List.mem_append_right _ (List.mem_cons_of_mem _ hevent)))
      rest (singleCertificate_of_accepted stores step haccepted)

/-- A run that sends no patch at all leaves the documents. -/
theorem keeps_documents (stores : StoresDocuments change.client outside view)
    (hnone : ∀ event ∈ events, ∀ sent ∈ event.requests, sent.method ≠ .patch)
    (h : World.Undergoes outside world events after) :
    view after.cluster = view world.cluster := by
  refine h.keeps (P := fun cluster => view cluster = view world.cluster)
    (fun event hevent sent hsent cluster hcluster => ?_) rfl
  rw [(stores.step sent cluster).eq_of_not_patch (hnone event hevent sent hsent)]
  exact hcluster

/-- A read of the ingress configuration that comes first gives the stored one. -/
theorem stored_of_reads {outcome : Outcome} {ingress : IngressConfig}
    (stores : StoresDocuments change.client outside view)
    (h : World.Undergoes outside world events after)
    (hhead : events.head? = some (.called (change.ingressRead token) outcome))
    (hreads : Reads outcome ingress) :
    decodeValue? IngressConfig (view world.cluster).ingress = some ingress := by
  have hget := change.ingressRead_method token
  cases h with
  | called step rest =>
    cases hhead
    refine (World.call_spec (P := fun cluster _ => view cluster = view world.cluster)
      (Q := fun outcome _ => ∀ ingress, Reads outcome ingress →
        decodeValue? IngressConfig (view world.cluster).ingress = some ingress)
      (fun _ cluster _ hcluster => ⟨?_, fun ingress hreads => ?_⟩) rfl step).2 ingress hreads
    · rw [(stores.step _ cluster).eq_of_not_patch (by rw [hget]; decide)]
      exact hcluster
    · rw [← hcluster]
      exact stores.read hget (change.ingressRead_url token) hreads
  | nil | calledAll | issued | counted => cases hhead

/-- A run that finds nothing to change has only read the ingress configuration. -/
theorem Course.events_of_unchanged (h : Course change token request events (.ok .unchanged)) :
    ∃ outcome, events = [.called (change.ingressRead token) outcome] := by
  cases h with
  | unchanged named reads same => exact ⟨_, rfl⟩

/-- A run on documents of the domain leaves them, whatever its result. -/
theorem documents_of_inDomain {result : Except SetupError DomainChangeOutcome}
    (stores : StoresDocuments change.client outside view) (asked : Asks request suffix)
    (hruns : (change.run token request).Runs events result)
    (h : World.Undergoes outside world events after)
    (hdomain : (view world.cluster).InDomain suffix) :
    view after.cluster = view world.cluster := by
  obtain ⟨first, rfl, hcourse⟩ := run_course hruns
  rcases hcourse.opens with
    ⟨-, rfl⟩ | ⟨-, outcome, rfl⟩ | ⟨suffix', ingress, outcome, asked', hhead, opens⟩
  · refine keeps_documents stores (fun event hevent sent hsent => ?_) h
    cases List.mem_singleton.1 hevent
    cases hsent
  · refine keeps_documents stores (fun event hevent sent hsent => ?_) h
    rcases List.mem_cons.1 hevent with rfl | hevent
    · rw [List.mem_singleton.1 hsent, ingressRead_method]
      decide
    · cases List.mem_singleton.1 hevent
      cases hsent
  · obtain ⟨stored, hstored, hsame⟩ := Documents.inDomain_iff.1 hdomain
    have hread := stored_of_reads stores h (by rw [List.head?_append, hhead]; rfl) opens.reads
    cases hstored.symm.trans hread
    cases asked.unique asked'
    exact absurd hsame opens.differs

/-- A run that finds nothing to change finds documents of the domain. -/
theorem inDomain_of_unchanged (stores : StoresDocuments change.client outside view)
    (asked : Asks request suffix)
    (hruns : (change.run token request).Runs events (.ok .unchanged))
    (h : World.Undergoes outside world events after) :
    (view world.cluster).InDomain suffix := by
  obtain ⟨first, rfl, hcourse⟩ := run_course hruns
  obtain ⟨suffix', ingress, asked', ⟨outcome, hhead, hreads⟩, hsame⟩ :=
    hcourse.unchanged_iff.1 rfl
  cases asked.unique asked'
  have hstored := stored_of_reads stores h (by rw [List.head?_append, hhead]; rfl) hreads
  exact Documents.inDomain_iff.2 ⟨ingress, hstored, hsame⟩

end DomainChange

end EdgeSetup
