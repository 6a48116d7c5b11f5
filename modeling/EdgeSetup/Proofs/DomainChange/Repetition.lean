import EdgeSetup.Proofs.DomainChange.StoredRun

/-!
# Repeated domain changes

What is stored after a series of runs for one suffix, each with answers and failures of its own.
The run that moves the ingress configuration to the domain is the last one to change anything:
later runs find nothing to do. So when it fails before the API server is patched, running the
change again reports success and repairs nothing.

**Main theorem (`series_settled`)**: after a run that migrated the API server has its one
certificate for good, and a run that finds nothing to change leaves what an earlier run left, which
migrated or failed on the way.
-/

namespace EdgeSetup

open Json Http

/-! ## Series of runs -/

/-- A run of a domain change on a cluster that stores its documents. -/
structure StoredRun where
  events : List Event
  result : Except SetupError DomainChangeOutcome
  before : Documents
  after : Documents

namespace StoredRun

/-- The run changed the domain. -/
def Migrated (run : StoredRun) : Prop := ∃ counts, run.result = .ok (.migrated counts)

/-- The run failed. -/
def Failed (run : StoredRun) : Prop := ∃ error, run.result = .error error

/-- The run is one of a domain change to the suffix, with any answers of a cluster that stores its
documents, and of any issuer. -/
inductive Completes (client : Client) (suffix : String) : StoredRun → Prop where
  | intro {change : DomainChange} {token : String} {request : DomainChangeRequest} {σ : Type}
      {outside : Outside σ} {view : σ → Documents} {world after : World σ} {events : List Event}
      {result : Except SetupError DomainChangeOutcome} (same : change.client = client)
      (stores : StoresDocuments client outside view) (asked : DomainChange.Asks request suffix)
      (runs : (change.run token request).Runs events result)
      (undergoes : World.Undergoes outside world events after) :
      Completes client suffix ⟨events, result, view world.cluster, view after.cluster⟩

/-- The run patched the ingress configuration, which is one of the domain since then. -/
structure Moves (client : Client) (suffix : String) (run : StoredRun) : Prop where
  before : ¬ run.before.InDomain suffix
  after : run.after.InDomain suffix
  sends : SendsPatch client DomainChange.ingressRef run.events

variable {client : Client} {suffix : String} {run : StoredRun}

theorem Completes.keeps_singleCertificate (h : run.Completes client suffix)
    (hsingle : SingleCertificate suffix run.before.apiServer) :
    SingleCertificate suffix run.after.apiServer := by
  cases h with
  | intro same stores asked runs undergoes =>
    subst same
    exact DomainChange.keeps_singleCertificate stores asked
      (fun event hevent => (DomainChange.run_inOrder runs).of_mem hevent) undergoes hsingle

theorem Completes.singleCertificate (h : run.Completes client suffix) (hmigrated : run.Migrated) :
    SingleCertificate suffix run.after.apiServer := by
  obtain ⟨counts, hresult⟩ := hmigrated
  cases h with
  | intro same stores asked runs undergoes =>
    subst same hresult
    exact DomainChange.singleCertificate_of_migrated stores asked runs undergoes

theorem Completes.keeps (h : run.Completes client suffix)
    (hdomain : run.before.InDomain suffix) : run.after = run.before := by
  cases h with
  | intro same stores asked runs undergoes =>
    subst same
    exact DomainChange.documents_of_inDomain stores asked runs undergoes hdomain

theorem Completes.inDomain (h : run.Completes client suffix)
    (hresult : run.result = .ok .unchanged) : run.before.InDomain suffix := by
  cases h with
  | intro same stores asked runs undergoes =>
    subst same hresult
    exact DomainChange.inDomain_of_unchanged stores asked runs undergoes

theorem Completes.moves (h : run.Completes client suffix) (hbefore : ¬ run.before.InDomain suffix)
    (hafter : run.after.InDomain suffix) : run.Moves client suffix := by
  refine ⟨hbefore, hafter, Classical.byContradiction fun hnone => ?_⟩
  cases h with
  | intro same stores asked runs undergoes =>
    subst same
    have hkept := DomainChange.keeps_ingress stores hnone undergoes
    obtain ⟨ingress, hstored, hsame⟩ := Documents.inDomain_iff.1 hafter
    exact hbefore (Documents.inDomain_iff.2 ⟨ingress, hkept ▸ hstored, hsame⟩)

/-- A run that moves the documents to the domain migrates or fails. -/
theorem Completes.migrated_or_failed (h : run.Completes client suffix)
    (hmoves : run.Moves client suffix) : run.Migrated ∨ run.Failed := by
  match hresult : run.result with
  | .ok (.migrated counts) => exact .inl ⟨counts, hresult⟩
  | .ok .unchanged => exact absurd (h.inDomain hresult) hmoves.before
  | .error error => exact .inr ⟨error, hresult⟩

end StoredRun

/-- The runs follow each other: each starts with what the one before it left. -/
inductive Series (client : Client) (suffix : String) :
    Documents → List StoredRun → Documents → Prop where
  | nil (documents : Documents) : Series client suffix documents [] documents
  | cons {run : StoredRun} {runs : List StoredRun} {last : Documents}
      (completes : run.Completes client suffix) (later : Series client suffix run.after runs last) :
      Series client suffix run.before (run :: runs) last

namespace Series

variable {client : Client} {suffix : String} {first last : Documents}
  {runs earlier later : List StoredRun} {run : StoredRun}

theorem split (h : Series client suffix first (earlier ++ run :: later) last) :
    Series client suffix first earlier run.before ∧ run.Completes client suffix := by
  induction earlier generalizing first with
  | nil =>
    cases h with
    | cons completes later => exact ⟨.nil _, completes⟩
  | cons other earlier ih =>
    cases h with
    | cons completes later =>
      obtain ⟨hearlier, hrun⟩ := ih later
      exact ⟨.cons completes hearlier, hrun⟩

theorem keeps_singleCertificate (h : Series client suffix first runs last)
    (hsingle : SingleCertificate suffix first.apiServer) :
    SingleCertificate suffix last.apiServer := by
  induction h with
  | nil documents => exact hsingle
  | cons completes later ih => exact ih (completes.keeps_singleCertificate hsingle)

/-- After a run that migrated, the API server has its one certificate. -/
theorem singleCertificate (h : Series client suffix first runs last)
    (hmigrated : ∃ run ∈ runs, run.Migrated) : SingleCertificate suffix last.apiServer := by
  induction h with
  | nil documents =>
    obtain ⟨run, hmem, -⟩ := hmigrated
    cases hmem
  | cons completes later ih =>
    obtain ⟨run, hmem, hrun⟩ := hmigrated
    rcases List.mem_cons.1 hmem with rfl | hmem
    · exact later.keeps_singleCertificate (completes.singleCertificate hrun)
    · exact ih ⟨run, hmem, hrun⟩

/-- Runs on documents of the domain leave them. -/
theorem keeps (h : Series client suffix first runs last) (hdomain : first.InDomain suffix) :
    last = first := by
  induction h with
  | nil documents => rfl
  | cons completes later ih =>
    have hkept := completes.keeps hdomain
    rw [ih (hkept ▸ hdomain), hkept]

/-- A run that moved the documents to the domain was the last to change them. -/
theorem eq_of_moves (h : Series client suffix first runs last) (hmem : run ∈ runs)
    (hmoves : run.Moves client suffix) : last = run.after := by
  induction h with
  | nil documents => cases hmem
  | cons completes later ih =>
    rcases List.mem_cons.1 hmem with rfl | hmem
    · exact later.keeps hmoves.after
    · exact ih hmem

/-- Documents that came to be of the domain were moved there by one of the runs. -/
theorem exists_moves (h : Series client suffix first runs last)
    (hfirst : ¬ first.InDomain suffix) (hlast : last.InDomain suffix) :
    ∃ run ∈ runs, run.Moves client suffix ∧ (run.Migrated ∨ run.Failed) := by
  induction h with
  | nil documents => exact absurd hlast hfirst
  | @cons run runs last completes later ih =>
    by_cases hafter : run.after.InDomain suffix
    · have hmoves := completes.moves hfirst hafter
      exact ⟨run, List.mem_cons_self .., hmoves, completes.migrated_or_failed hmoves⟩
    · obtain ⟨other, hmem, hother⟩ := ih hafter hlast
      exact ⟨other, List.mem_cons_of_mem _ hmem, hother⟩

end Series

/-! ## Two runs one after the other -/

namespace DomainChange

variable {change : DomainChange} {token suffix : String} {request : DomainChangeRequest}
  {documents next : Documents} {text : String}

/-- A change to a valid domain starts with a read of the ingress configuration. -/
theorem run_eq_send (change : DomainChange) (token : String) (asked : Asks request suffix) :
    ∃ rest, change.run token request = .send (change.ingressRead token) rest :=
  ⟨_, by simp only [run, steps, asked.requestedDomains]; rfl⟩

/-- On documents of the domain, a run that is shown them finds nothing to change. -/
theorem exists_unchanged (change : DomainChange) (asked : Asks request suffix)
    (hshown : decodeText? IngressConfig text = decodeValue? IngressConfig documents.ingress)
    (hdomain : documents.InDomain suffix) :
    ∃ events, StoredRun.Completes change.client suffix
      ⟨events, .ok .unchanged, documents, documents⟩ := by
  obtain ⟨rest, hsend⟩ := run_eq_send change "" asked
  obtain ⟨ingress, hstored, hsame⟩ := Documents.inDomain_iff.1 hdomain
  obtain ⟨middle, hcall, hmiddle⟩ := Documents.exists_call_read (fun _ => false)
    (change.ingressRead_method "") (change.ingressRead_url "") rfl
  have hreads : Reads (.ok ⟨200, [], text⟩) ingress := ⟨_, rfl, rfl, hshown.trans hstored⟩
  -- What is left of the run after this answer has a history, and the course of a run says which.
  obtain ⟨events, result, hrest⟩ := (rest (.ok ⟨200, [], text⟩)).exists_runs
  have hruns := hsend ▸ Session.Runs.send hrest
  obtain ⟨first, hevents, hcourse⟩ := run_course hruns
  cases first with
  | nil => cases hevents
  | cons head first =>
    cases hevents
    have hresult := hcourse.unchanged_iff.2 ⟨suffix, ingress, asked, ⟨_, rfl, hreads⟩, hsame⟩
    subst hresult
    obtain ⟨_, hfirst⟩ := hcourse.events_of_unchanged
    cases hfirst
    have hcompletes := StoredRun.Completes.intro (Eq.refl change.client)
      (Documents.outside_storesDocuments (fun _ => false) hshown) asked hruns
      (.called hcall (.counted (.nil _)))
    have hafter : (middle.count (.domainChanges (label (.ok .unchanged))) 1).cluster =
        documents := hmiddle
    rw [id, hafter] at hcompletes
    exact ⟨_, hcompletes⟩

/-- What the sample cluster stores at first. -/
def sampleBefore : Documents := ⟨wrap ["spec", "domain"] (.string "apps.old.io"), .object []⟩

/-- The ingress configuration that a change of the sample cluster leaves. -/
def sampleIngress : Value :=
  wrap ["spec"] <| .object
    [ ("componentRoutes", encode
        ((components (.ofSuffix "new.io") "setup").map fun component =>
          component.route "secret")),
      ("domain", .string "apps.new.io") ]

/-- The result of a change of the sample cluster to `new.io`, and what is stored then. -/
def playSample (refuses : Request → Bool) :
    Option (Except SetupError DomainChangeOutcome × Documents) :=
  ((sample.run "token" ⟨some "new.io", .empty⟩).run
    (Documents.outside sample.client sampleBefore sampleBefore.ingress.render refuses)
    (.start sampleBefore)).map fun (result, world) => (result, world.cluster)

theorem playSample_migrated : playSample (fun _ => false) =
    some (.ok (.migrated ⟨0, 0⟩), ⟨sampleIngress, apiServerPatch "api.new.io" "secret"⟩) := by
  decide +kernel

theorem playSample_failed :
    playSample (fun request => request.url = sample.client.url apiServerRef.path) =
      some (.error (.patchFailed "ApiServer cluster resource" 422 ""),
        ⟨sampleIngress, .object []⟩) := by
  decide +kernel

theorem sampleBefore_shown : decodeText? IngressConfig sampleBefore.ingress.render =
    decodeValue? IngressConfig sampleBefore.ingress := by
  rw [decodeText?_render]
  decide +kernel

theorem sampleIngress_shown :
    decodeText? IngressConfig sampleIngress.render = decodeValue? IngressConfig sampleIngress := by
  rw [decodeText?_render]
  decide +kernel

theorem sampleIngress_inDomain (apiServer : Value) :
    Documents.InDomain "new.io" ⟨sampleIngress, apiServer⟩ := by
  have hdomain : Documents.InDomain "new.io" ⟨sampleIngress, .null⟩ := by decide +kernel
  exact hdomain

/-- A change of the sample cluster, and another one after it. -/
theorem exists_series {refuses : Request → Bool} {apiServer : Value}
    {result : Except SetupError DomainChangeOutcome}
    (hplay : playSample refuses = some (result, ⟨sampleIngress, apiServer⟩)) :
    ∃ events events', Series sample.client "new.io" sampleBefore
      [⟨events, result, sampleBefore, ⟨sampleIngress, apiServer⟩⟩,
        ⟨events', .ok .unchanged, ⟨sampleIngress, apiServer⟩, ⟨sampleIngress, apiServer⟩⟩]
      ⟨sampleIngress, apiServer⟩ := by
  have asked : Asks ⟨some "new.io", .empty⟩ "new.io" := ⟨rfl, by decide⟩
  obtain ⟨⟨_, after⟩, hrun, heq⟩ := Option.map_eq_some_iff.1 hplay
  obtain ⟨rfl, hafter⟩ := Prod.mk.inj heq
  obtain ⟨events, hruns, hundergoes⟩ := Session.run_eq_some hrun
  have hone := StoredRun.Completes.intro (Eq.refl sample.client)
    (Documents.outside_storesDocuments refuses sampleBefore_shown) asked hruns hundergoes
  rw [id, id, hafter] at hone
  obtain ⟨events', htwo⟩ := sample.exists_unchanged asked sampleIngress_shown
    (sampleIngress_inDomain apiServer)
  exact ⟨events, events', .cons hone (.cons htwo (.nil _))⟩

end DomainChange

/-! ## What a series settles -/

open DomainChange

/-- What a run has come to after the earlier ones. -/
structure Settled (client : Client) (suffix : String) (earlier : List StoredRun)
    (run : StoredRun) : Prop where
  /-- Once a run has migrated, the API server has its one certificate, also after later runs. -/
  migrated : run.Migrated ∨ (∃ other ∈ earlier, other.Migrated) →
    SingleCertificate suffix run.after.apiServer
  /-- A run that finds nothing to change follows one that moved the documents to the domain, and
  either migrated or failed on the way. -/
  unchanged : run.result = .ok .unchanged →
    ∃ other ∈ earlier, other.Moves client suffix ∧ (other.Migrated ∨ other.Failed)
  /-- Once a run has moved the documents to the domain, they stay as it left them. -/
  stays : ∀ other ∈ earlier, other.Moves client suffix → run.after = other.after

/-- **Repeated runs**: from documents of another domain, a run that reports success leaves the API
server with its one certificate, unless it relies on a run that failed on the way. -/
theorem series_settled {client : Client} {suffix : String} {first last : Documents}
    {earlier later : List StoredRun} {run : StoredRun} (differs : ¬ first.InDomain suffix)
    (h : Series client suffix first (earlier ++ run :: later) last) :
    Settled client suffix earlier run := by
  obtain ⟨hearlier, hrun⟩ := h.split
  constructor
  case migrated =>
    rintro (hmigrated | hmigrated)
    · exact hrun.singleCertificate hmigrated
    · exact hrun.keeps_singleCertificate (hearlier.singleCertificate hmigrated)
  case unchanged => exact fun hresult => hearlier.exists_moves differs (hrun.inDomain hresult)
  case stays =>
    intro other hmem hmoves
    have hleft := hearlier.eq_of_moves hmem hmoves
    exact (hrun.keeps (hleft ▸ hmoves.after)).trans hleft

/-- A change that migrates settles the documents, and the next one finds nothing to change. -/
theorem series_settled_migrated :
    ∃ one two : StoredRun,
      Series sample.client "new.io" sampleBefore [one, two] two.after ∧ one.Migrated ∧
        two.result = .ok .unchanged ∧ Settled sample.client "new.io" [one] two := by
  obtain ⟨events, events', hseries⟩ := exists_series playSample_migrated
  exact ⟨_, _, hseries, ⟨_, rfl⟩, rfl, series_settled (by decide) hseries⟩

/-- A change that fails at the API server's patch: the next one reports success, and still no
certificate is named for the API server. -/
theorem series_unpatched :
    ∃ one two : StoredRun,
      Series sample.client "new.io" sampleBefore [one, two] two.after ∧
        ¬ sampleBefore.InDomain "new.io" ∧ one.Failed ∧ two.result = .ok .unchanged ∧
          ¬ SingleCertificate "new.io" two.after.apiServer := by
  obtain ⟨events, events', hseries⟩ := exists_series playSample_failed
  refine ⟨_, _, hseries, by decide, ⟨_, rfl⟩, rfl, ?_⟩
  rintro ⟨secret, hnamed⟩
  cases hnamed

end EdgeSetup
