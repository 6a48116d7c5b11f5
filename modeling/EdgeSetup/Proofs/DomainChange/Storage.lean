import EdgeSetup.Proofs.Cluster.Calls
import EdgeSetup.Proofs.Cluster.Scripts
import EdgeSetup.Proofs.DomainChange.Requests
import EdgeSetup.Proofs.Json.Evaluation
import EdgeSetup.Proofs.Json.MergePatch
import EdgeSetup.Proofs.Json.Patches
import EdgeSetup.Proofs.Session.Plays

/-!
# Clusters that store their configurations

A cluster that stores the configurations of the ingress and of the API server
(`StoresDocuments`): it reads the ingress configuration from what it stores, a patch that it
accepts was applied, and nothing else changes what is stored. A patch that it does not accept may
have been applied all the same, since an answer can get lost.

`Documents.outside` is such a cluster, one that can be run.
-/

namespace EdgeSetup

open Json Http DomainChange

/-- The stored configurations of the ingress and of the API server. -/
structure Documents where
  ingress : Value
  apiServer : Value
  deriving DecidableEq

namespace Documents

/-- The ingress domain of the stored configuration. -/
def domain? (documents : Documents) : Option String :=
  (decodeValue? IngressConfig documents.ingress).bind fun ingress =>
    (ClusterDomainState.ofIngress ingress).ingressDomain

/-- The stored ingress configuration is one of the domain of the suffix. -/
def InDomain (suffix : String) (documents : Documents) : Prop :=
  documents.domain? = some (Dns.ingressDomain suffix)

instance (suffix : String) (documents : Documents) : Decidable (documents.InDomain suffix) :=
  inferInstanceAs (Decidable (_ = _))

theorem inDomain_iff {suffix : String} {documents : Documents} :
    documents.InDomain suffix ↔
      ∃ ingress, decodeValue? IngressConfig documents.ingress = some ingress ∧
        (ClusterDomainState.ofIngress ingress).ingressDomain = some (Dns.ingressDomain suffix) :=
  Option.bind_eq_some_iff

end Documents

/-- What the patch that a request carries makes of a document. -/
def patched? (request : Request) (document : Value) : Option Value :=
  let contentType := request.headers.get? "content-type"
  if contentType = some ContentType.jsonPatch.name then
    (request.body.bind (decodeValue? (List PatchOp))).bind (PatchOp.applyAll? · document)
  else if contentType = some ContentType.mergePatch.name then request.body.map document.merge
  else none

/-- What an attempt at a request may do to the stored documents. -/
inductive Documents.Step (client : Client) (request : Request) (outcome : Outcome)
    (documents : Documents) : Documents → Prop where
  /-- This is no accepted patch of a stored document. -/
  | kept (unaccepted : Accepted outcome → request.method = .patch →
      request.url ≠ client.url ingressRef.path ∧ request.url ≠ client.url apiServerRef.path) :
      Step client request outcome documents documents
  | ingress {ingress : Value} (method : request.method = .patch)
      (url : request.url = client.url ingressRef.path)
      (applied : patched? request documents.ingress = some ingress) :
      Step client request outcome documents { documents with ingress }
  | apiServer {apiServer : Value} (method : request.method = .patch)
      (url : request.url = client.url apiServerRef.path)
      (applied : patched? request documents.apiServer = some apiServer) :
      Step client request outcome documents { documents with apiServer }

/-- The cluster stores the documents that the view of its state shows. -/
structure StoresDocuments {σ : Type} (client : Client) (outside : Outside σ)
    (view : σ → Documents) : Prop where
  /-- A read of the ingress configuration gives the stored one. -/
  read : ∀ {request : Request} {state : σ} {ingress : IngressConfig}, request.method = .get →
    request.url = client.url ingressRef.path →
      Reads (outside.respond request state).1.outcome ingress →
        decodeValue? IngressConfig (view state).ingress = some ingress
  /-- An attempt does to the stored documents what it may do. -/
  step : ∀ request state, Documents.Step client request (outside.respond request state).1.outcome
    (view state) (view (outside.respond request state).2)

namespace Documents

variable {client : Client} {request : Request} {outcome : Outcome} {documents next : Documents}

theorem Step.ingress_eq (h : Step client request outcome documents next)
    (hother : request.method = .patch → request.url ≠ client.url ingressRef.path) :
    next.ingress = documents.ingress := by
  cases h with
  | kept unaccepted => rfl
  | ingress method url applied => exact absurd url (hother method)
  | apiServer method url applied => rfl

theorem Step.apiServer_eq (h : Step client request outcome documents next)
    (hother : request.method = .patch → request.url ≠ client.url apiServerRef.path) :
    next.apiServer = documents.apiServer := by
  cases h with
  | kept unaccepted => rfl
  | ingress method url applied => rfl
  | apiServer method url applied => exact absurd url (hother method)

theorem Step.eq_of_not_patch (h : Step client request outcome documents next)
    (hother : request.method ≠ .patch) : next = documents := by
  cases h with
  | kept unaccepted => rfl
  | ingress method url applied => exact absurd method hother
  | apiServer method url applied => exact absurd method hother

/-- An accepted patch of the ingress configuration was applied to it. -/
theorem Step.ingress_of_accepted (h : Step client request outcome documents next)
    (hmethod : request.method = .patch) (hurl : request.url = client.url ingressRef.path)
    (haccepted : Accepted outcome) :
    patched? request documents.ingress = some next.ingress := by
  cases h with
  | kept unaccepted => exact absurd hurl (unaccepted haccepted hmethod).1
  | ingress method url applied => exact applied
  | apiServer method url applied =>
    have hsame := url.symm.trans hurl
    rw [Client.url_inj] at hsame
    exact absurd hsame (by decide)

/-- An accepted patch of the API server's configuration was applied to it. -/
theorem Step.apiServer_of_accepted (h : Step client request outcome documents next)
    (hmethod : request.method = .patch) (hurl : request.url = client.url apiServerRef.path)
    (haccepted : Accepted outcome) :
    patched? request documents.apiServer = some next.apiServer := by
  cases h with
  | kept unaccepted => exact absurd hurl (unaccepted haccepted hmethod).2
  | ingress method url applied =>
    have hsame := url.symm.trans hurl
    rw [Client.url_inj] at hsame
    exact absurd hsame (by decide)
  | apiServer method url applied => exact applied

end Documents

/-! ## The certificate of the API server -/

/-- The certificates that the API server's configuration names. -/
def namedCertificates? (document : Value) : Option Value :=
  document.at? ["spec", "servingCerts", "namedCertificates"]

/-- The API server's configuration names exactly one certificate, and it is for the API host of the
suffix. -/
def SingleCertificate (suffix : String) (document : Value) : Prop :=
  ∃ secret, namedCertificates? document =
    some (.array
      [ .object
          [ ("names", .array [.string (Dns.apiDomain suffix)]),
            ("servingCertificate", .object [("name", .string secret)]) ] ])

theorem Http.Headers.get?_set_self (headers : Headers) (name value : String) :
    (headers.set name value).get? name = some value := by
  have hnone : (headers.filter fun header => header.1 != lowerCase name).lookup
      (lowerCase name) = none := by
    refine List.lookup_eq_none_iff.2 fun header hmem => ?_
    have hne := (List.mem_filter.1 hmem).2
    simpa using fun heq : lowerCase name = header.1 => by simp [heq] at hne
  unfold get? set
  rw [List.lookup_append, hnone]
  simp

/-- What the operations of a patch request make of a document. -/
theorem patched?_operations (client : Client) (token : String) (ref : ResourceRef)
    (operations : List PatchOp) (document : Value) :
    patched? (client.patchRequest token ref (.operations operations)) document =
      PatchOp.applyAll? operations document := by
  have htype : (client.patchRequest token ref (.operations operations)).headers.get?
      "content-type" = some ContentType.jsonPatch.name := Headers.get?_set_self _ _ _
  have hbody : (client.patchRequest token ref (.operations operations)).body =
      some (encode operations) := Client.patchRequest_body ..
  simp only [patched?, htype, if_true, hbody, Option.bind_some,
    decodeValue?_encode_list PatchOp.decodeValue?_encode]

theorem patched?_apiServerWrite (change : DomainChange) (token : String)
    (patch document : Value) :
    patched? (change.apiServerWrite token patch) document = some (document.merge patch) := by
  have htype : (change.apiServerWrite token patch).headers.get? "content-type" =
      some ContentType.mergePatch.name := Headers.get?_set_self _ _ _
  have hother : some ContentType.mergePatch.name ≠ some ContentType.jsonPatch.name := by decide
  unfold patched?
  simp only [htype, hother, if_false, if_true]
  rfl

/-- The patch of the API server's configuration leaves it with a single certificate. -/
theorem singleCertificate_merge (suffix secret : String) (document : Value) :
    SingleCertificate suffix
      (document.merge (apiServerPatch (Dns.apiDomain suffix) secret)) :=
  ⟨secret, Value.merge_wrap_at ..⟩

/-! ## A cluster that stores its documents -/

namespace Documents

/-- What a cluster stores after a request that it carries out, if it can carry it out. -/
def carryOut? (client : Client) (request : Request) (documents : Documents) : Option Documents :=
  if request.method = .patch ∧ request.url = client.url ingressRef.path then
    (patched? request documents.ingress).map fun ingress => { documents with ingress }
  else if request.method = .patch ∧ request.url = client.url apiServerRef.path then
    (patched? request documents.apiServer).map fun apiServer => { documents with apiServer }
  else some documents

/-- What a cluster answers to a request that it carried out. It shows one ingress configuration,
as a text; there are no routes, and all secrets are named the same. -/
def answer (client : Client) (shown : Documents) (text : String) (request : Request)
    (documents : Documents) : Answer :=
  match request.method with
  | .get =>
    if request.url = client.url ingressRef.path then
      if documents = shown then ⟨some 0, .ok ⟨200, [], text⟩⟩ else Script.answer 404 .null
    else Script.answer 200 (.object [("items", .array [])])
  | .post => Script.answer 201 (wrap ["metadata", "name"] (.string "secret"))
  | _ => Script.answer 200 .null

/-- Carries out a request unless it is one to refuse. -/
def respond (client : Client) (shown : Documents) (text : String) (refuses : Request → Bool)
    (request : Request) (documents : Documents) : Answer × Documents :=
  match (documents.carryOut? client request).filter fun _ => !refuses request with
  | some next => (answer client shown text request next, next)
  | none => (Script.answer 422 .null, documents)

/-- The outside of a cluster that stores its documents and refuses some requests. -/
def outside (client : Client) (shown : Documents) (text : String) (refuses : Request → Bool) :
    Outside Documents :=
  ⟨respond client shown text refuses, Script.plainIssuer, .standard⟩

variable {client : Client} {shown documents next : Documents} {text : String} {request : Request}

theorem not_accepted_422 : ¬ Accepted (Script.answer 422 .null).outcome := by
  rintro ⟨response, hresponse, hsuccess⟩
  cases hresponse
  cases hsuccess

theorem carryOut?_of_not_patch (h : request.method ≠ .patch) :
    documents.carryOut? client request = some documents := by
  rw [carryOut?, if_neg (fun hpatch => h hpatch.1), if_neg (fun hpatch => h hpatch.1)]

theorem step_of_carryOut {outcome : Outcome}
    (h : documents.carryOut? client request = some next) :
    Step client request outcome documents next := by
  unfold carryOut? at h
  split at h
  · next hpatch =>
    obtain ⟨ingress, hpatched, rfl⟩ := Option.map_eq_some_iff.1 h
    exact .ingress hpatch.1 hpatch.2 hpatched
  · next hingress =>
    split at h
    · next hpatch =>
      obtain ⟨apiServer, hpatched, rfl⟩ := Option.map_eq_some_iff.1 h
      exact .apiServer hpatch.1 hpatch.2 hpatched
    · next hapiServer =>
      cases h
      exact .kept fun _ hmethod =>
        ⟨fun hurl => hingress ⟨hmethod, hurl⟩, fun hurl => hapiServer ⟨hmethod, hurl⟩⟩

theorem outside_answered (refuses : Request → Bool) (documents : Documents) :
    ((outside client shown text refuses).respond request documents).1.latency ≠ none := by
  show (respond client shown text refuses request documents).1.latency ≠ none
  unfold respond
  split
  · unfold answer
    split
    · split
      · split <;> exact nofun
      · exact nofun
    · exact nofun
    · exact nofun
  · exact nofun

/-- A read of the ingress configuration gives the text, while the shown one is stored. -/
theorem outside_read (refuses : Request → Bool) (hmethod : request.method = .get)
    (hurl : request.url = client.url ingressRef.path) (hrefuses : refuses request = false) :
    (outside client shown text refuses).respond request shown =
      (⟨some 0, .ok ⟨200, [], text⟩⟩, shown) := by
  show respond client shown text refuses request shown = _
  rw [respond, carryOut?_of_not_patch (by rw [hmethod]; decide)]
  simp [hrefuses, answer, hmethod, hurl, Option.filter]

/-- A call that reads the shown ingress configuration comes back with the text. -/
theorem exists_call_read (refuses : Request → Bool) (hmethod : request.method = .get)
    (hurl : request.url = client.url ingressRef.path) (hrefuses : refuses request = false) :
    ∃ after : World Documents,
      (World.start shown).call (outside client shown text refuses) request =
        some (.ok ⟨200, [], text⟩, after) ∧ after.cluster = shown := by
  have hread : (outside client shown text refuses).respond request shown =
      (⟨some 0, .ok ⟨200, [], text⟩⟩, shown) := outside_read refuses hmethod hurl hrefuses
  have hends : ∃ outcome after, (World.start shown).call (outside client shown text refuses)
      request = some (outcome, after) := World.call_answered (outside_answered refuses) _
  obtain ⟨outcome, after, hcall⟩ := hends
  obtain ⟨hafter, rfl⟩ := World.call_spec (P := fun cluster _ => cluster = shown)
    (Q := fun outcome _ => outcome = .ok ⟨200, [], text⟩)
    (fun _ cluster _ hcluster => by rw [hcluster, hread]; exact ⟨rfl, rfl⟩) rfl hcall
  exact ⟨after, hcall, hafter⟩

/-- A cluster that shows what it stores is one that stores its documents. -/
theorem outside_storesDocuments (refuses : Request → Bool)
    (hshown : decodeText? IngressConfig text = decodeValue? IngressConfig shown.ingress) :
    StoresDocuments client (outside client shown text refuses) id where
  read := by
    intro request documents ingress hmethod hurl hreads
    simp only [outside, respond, carryOut?_of_not_patch (show request.method ≠ .patch by
      rw [hmethod]; decide)] at hreads
    split at hreads
    · next next hnext =>
      obtain ⟨⟨⟩, -⟩ := Option.filter_eq_some_iff.1 hnext
      simp only [answer, hmethod, hurl, if_true] at hreads
      obtain ⟨response, hresponse, hsuccess, hjson⟩ := hreads
      split at hresponse
      · next hsame =>
        cases hresponse
        rw [id, hsame, ← hshown]
        exact hjson
      · cases hresponse
        cases hsuccess
    · obtain ⟨response, hresponse, hsuccess, -⟩ := hreads
      exact absurd ⟨response, hresponse, hsuccess⟩ not_accepted_422
  step := by
    intro request documents
    simp only [outside, respond, id]
    split
    · next next hnext => exact step_of_carryOut (Option.filter_eq_some_iff.1 hnext).1
    · exact .kept fun haccepted _ => absurd haccepted not_accepted_422

end Documents

end EdgeSetup
