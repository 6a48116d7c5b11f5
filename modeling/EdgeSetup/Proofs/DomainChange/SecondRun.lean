import EdgeSetup.Proofs.DomainChange.IngressPatch
import EdgeSetup.Proofs.DomainChange.Repetition

/-!
# The run after a change

On a cluster that stores an ingress configuration written with objects, a run whose patch of it is
accepted leaves exactly the domain and the component routes that were written. The next run for
the same suffix then reads the configuration and finds nothing to change.

**Main theorem (`ingressPatch_settles`)**: the patch of such a configuration is a round trip, and a
run after one that got it accepted sends nothing but its read.
-/

namespace EdgeSetup

open Json Http

namespace DomainChange

variable {change : DomainChange} {token suffix : String} {request : DomainChangeRequest}
  {events before later : List Event} {operations : List PatchOp} {outcome : Outcome}

/-! ## The patch that is sent -/

theorem patched?_ingressWrite (change : DomainChange) (token : String)
    (operations : List PatchOp) (document : Value) :
    patched? (change.ingressWrite token operations) document =
      PatchOp.applyAll? operations document :=
  patched?_operations ..

/-- A patch of the ingress configuration is the one that was worked out from the configuration
that was read first. -/
theorem Course.ingressWrite {result : Except SetupError DomainChangeOutcome}
    (h : Course change token request events result)
    (hmem : .called (change.ingressWrite token operations) outcome ∈ events) :
    ∃ domains ingress pairs read,
      events.head? = some (.called (change.ingressRead token) read) ∧
        Opens request domains ingress read ∧
          change.ingressWrite token operations =
            change.finalIngressWrite token domains ingress pairs := by
  have hpointed : ∀ document, change.ingressWrite token operations ≠
      change.apiServerWrite token document := by
    intro document heq
    have hurl := congrArg Request.url heq
    rw [ingressWrite_url, apiServerWrite_url] at hurl
    exact ingressRef_url_ne_apiServerRef_url hurl
  -- After what was prepared, the patch can only be the one that follows it.
  have hprepared : ∀ {domains ingress apiPair pairs counts preparing rest},
      Prepares change token request domains ingress apiPair pairs counts preparing →
        .called (change.ingressWrite token operations) outcome ∈ preparing ++ rest →
          .called (change.ingressWrite token operations) outcome ∈ rest ∧
            ∃ read, (preparing ++ rest).head? = some (.called (change.ingressRead token) read) ∧
              Opens request domains ingress read := by
    intro domains ingress apiPair pairs counts preparing rest prepares hmem
    obtain ⟨read, hhead, opens⟩ := prepares.reads
    refine ⟨(List.mem_append.1 hmem).resolve_left fun hmem => ?_, read, ?_, opens⟩
    · exact prepares.inOrder.2.1 _ _ hmem (change.ingressWrite_method token _)
    · rw [List.head?_append, hhead]
      rfl
  cases h with
  | refused bad => cases hmem
  | unread named unreadable | unchanged named reads same =>
    exact absurd (change.ingressWrite_method token _) (Unpatched.read _ _ hmem)
  | unsecured opens failed =>
    exact absurd (change.ingressWrite_method token _)
      (Unpatched.append .read failed.unpatched _ _ hmem)
  | ingressRefused prepares refused =>
    obtain ⟨hmem, read, hhead, opens⟩ := hprepared prepares hmem
    simp only [List.mem_singleton, Event.called.injEq] at hmem
    exact ⟨_, _, _, read, hhead, opens, hmem.1⟩
  | apiServerRefused prepares accepted refused =>
    obtain ⟨hmem, read, hhead, opens⟩ := hprepared prepares hmem
    simp only [List.mem_cons, List.not_mem_nil, or_false, Event.called.injEq] at hmem
    rcases hmem with hmem | hmem
    · exact ⟨_, _, _, read, hhead, opens, hmem.1⟩
    · exact absurd hmem.1 (hpointed _)
  | migrated prepares ingressAccepted apiServerAccepted refreshes =>
    obtain ⟨hmem, read, hhead, opens⟩ := hprepared prepares hmem
    simp only [List.mem_cons, Event.called.injEq] at hmem
    rcases hmem with hmem | hmem | hmem
    · exact ⟨_, _, _, read, hhead, opens, hmem.1⟩
    · exact absurd hmem.1 (hpointed _)
    · obtain ⟨-, _, _, heq, hrefreshes⟩ := refreshes.refreshes _ hmem
      cases heq
      refine absurd ?_ hrefreshes.url_not_decisive
      exact mem_decisiveUrls.2 ⟨ingressRef, by simp, change.ingressWrite_url token _⟩

/-- The ingress configuration is patched at most once. -/
theorem not_sendsPatch_around
    (h : InOrder (Permitted change token request) []
      (before ++ .called (change.ingressWrite token operations) outcome :: later)) :
    ¬ SendsPatch change.client ingressRef before ∧ ¬ SendsPatch change.client ingressRef later := by
  obtain ⟨hbefore, hlater⟩ := inOrder_append.1 h
  obtain ⟨hwrite, hlater⟩ := inOrder_cons.1 hlater
  constructor
  · rintro ⟨event, hevent, sent, hsent, hmethod, hurl⟩
    obtain ⟨earlier, hpermitted⟩ := hbefore.of_mem hevent
    obtain ⟨⟨other, outcome', hother⟩, -⟩ := hpermitted.ingress hsent hmethod hurl
    refine (hwrite.ingress (List.mem_singleton_self _) (change.ingressWrite_method ..)
      (change.ingressWrite_url ..)).2 ⟨other, outcome', ?_⟩
    exact List.mem_append_right _ (List.mem_singleton.1 hother ▸ hevent)
  · rintro ⟨event, hevent, sent, hsent, hmethod, hurl⟩
    obtain ⟨earlier, rest, rfl⟩ := List.append_of_mem hevent
    refine ((hlater earlier event rest rfl).ingress hsent hmethod hurl).2
      ⟨operations, outcome, ?_⟩
    simp

/-! ## What an accepted patch leaves -/

variable {σ : Type} {outside : Outside σ} {view : σ → Documents} {world after : World σ}
  {result : Except SetupError DomainChangeOutcome}

/-- A call of the patch that comes back accepted leaves the domain and the component routes that
it carried, however often it was tried. -/
theorem ofIngress_of_accepted {domain : String} {ingress : IngressConfig}
    {routes : List ComponentRoute} (stores : StoresDocuments change.client outside view)
    (hdomain : domain ≠ "") (readable : IngressConfig.Readable (view world.cluster).ingress)
    (hcall : world.call outside
      (change.ingressWrite token (ingressPatch ingress domain routes)) = some (outcome, after))
    (haccepted : Accepted outcome) :
    ∃ ingress, decodeValue? IngressConfig (view after.cluster).ingress = some ingress ∧
      ClusterDomainState.ofIngress ingress = ⟨some domain, routes⟩ := by
  refine (World.call_spec (P := fun cluster _ => IngressConfig.Readable (view cluster).ingress)
    (Q := fun outcome cluster => Accepted outcome →
      ∃ ingress, decodeValue? IngressConfig (view cluster).ingress = some ingress ∧
        ClusterDomainState.ofIngress ingress = ⟨some domain, routes⟩)
    (fun _ cluster _ hcluster => ⟨?_, fun hdone => ?_⟩) readable hcall).2 haccepted
  · have hstep := stores.step (change.ingressWrite token (ingressPatch ingress domain routes))
      cluster
    generalize view (outside.respond _ cluster).2 = next at *
    cases hstep with
    | kept unaccepted => exact hcluster
    | ingress method url applied =>
      rw [patched?_ingressWrite] at applied
      exact (hcluster.of_applyAll? hdomain applied).1
    | apiServer method url applied => exact hcluster
  · have hpatched := (stores.step _ cluster).ingress_of_accepted
      (change.ingressWrite_method ..) (change.ingressWrite_url ..) hdone
    rw [patched?_ingressWrite] at hpatched
    exact (hcluster.of_applyAll? hdomain hpatched).2

/-- A run whose patch of the ingress configuration was accepted leaves the domain of the suffix and
the component routes of the patch. -/
theorem ofIngress_of_run (stores : StoresDocuments change.client outside view)
    (asked : Asks request suffix) (hruns : (change.run token request).Runs events result)
    (h : World.Undergoes outside world events after)
    (written : IngressConfig.Written (view world.cluster).ingress)
    (accepted : change.IngressAccepted token events) :
    ∃ ingress read pairs, change.IngressRead token events read ∧
      decodeValue? IngressConfig (view after.cluster).ingress = some ingress ∧
        ClusterDomainState.ofIngress ingress = ⟨some (Dns.ingressDomain suffix),
          change.finalRoutes (.ofSuffix suffix) read pairs⟩ := by
  obtain ⟨operations, outcome, hmem, haccepted⟩ := accepted
  have horder := run_inOrder hruns
  obtain ⟨first, hevents, hcourse⟩ := run_course hruns
  have hfirst : .called (change.ingressWrite token operations) outcome ∈ first := by
    simpa [hevents] using hmem
  obtain ⟨domains, read, pairs, answered, hhead, opens, hwrite⟩ := hcourse.ingressWrite hfirst
  cases opens.named.symm.trans asked.requestedDomains
  replace hhead : events.head? = some (.called (change.ingressRead token) answered) := by
    rw [hevents, List.head?_append, hhead]
    rfl
  have hstored := stored_of_reads stores h hhead opens.reads
  obtain ⟨before, later, hsplit⟩ := List.append_of_mem hmem
  rw [hsplit] at h horder
  obtain ⟨hbefore, hlater⟩ := not_sendsPatch_around horder
  obtain ⟨middle, hundergoes, hrest⟩ := h.split
  have hmiddle := keeps_ingress stores hbefore hundergoes
  cases hrest with
  | called step rest =>
    rw [keeps_ingress stores hlater rest]
    rw [hwrite] at step
    have hdomain : Dns.ingressDomain suffix ≠ "" := by simp [Dns.ingressDomain]
    obtain ⟨ingress, hread, hstate⟩ := ofIngress_of_accepted stores hdomain
      ⟨hmiddle ▸ written, read, hmiddle ▸ hstored⟩ step haccepted
    exact ⟨ingress, read, pairs, ⟨answered, hhead, opens.reads⟩, hread, hstate⟩

end DomainChange

/-! ## The run after it -/

namespace StoredRun

open DomainChange

variable {client : Client} {suffix : String} {run : StoredRun}

/-- A patch of the ingress configuration was accepted. -/
def AcceptsIngress (client : Client) (run : StoredRun) : Prop :=
  ∃ sent outcome, .called sent outcome ∈ run.events ∧ sent.method = .patch ∧
    sent.url = client.url ingressRef.path ∧ Accepted outcome

/-- The run read the ingress configuration and did nothing else, and it reports that there is
nothing to change whenever the read was answered with a configuration. -/
def FindsNothing (client : Client) (run : StoredRun) : Prop :=
  ∃ token outcome,
    run.events = [.called (client.readRequest token ingressRef.path) outcome,
      .counted (.domainChanges (label run.result)) 1] ∧
    (run.result = .ok .unchanged ↔ ∃ ingress : IngressConfig, Reads outcome ingress)

theorem Completes.acceptsIngress (h : run.Completes client suffix) (hmigrated : run.Migrated) :
    run.AcceptsIngress client := by
  cases h with
  | intro same stores asked runs undergoes =>
    subst same
    obtain ⟨first, rfl, hcourse⟩ := run_course runs
    obtain ⟨operations, outcome, hmem, haccepted⟩ := (hcourse.migrated_iff.1 hmigrated).1
    exact ⟨_, outcome, List.mem_append_left _ hmem, DomainChange.ingressWrite_method ..,
      DomainChange.ingressWrite_url .., haccepted⟩

/-- Once its patch was accepted, a run leaves documents of the domain. -/
theorem Completes.inDomain_after (h : run.Completes client suffix)
    (written : IngressConfig.Written run.before.ingress) (accepts : run.AcceptsIngress client) :
    run.after.InDomain suffix := by
  obtain ⟨sent, outcome, hmem, hmethod, hurl, haccepted⟩ := accepts
  cases h with
  | @intro change token _ _ _ _ _ _ _ _ same stores asked runs undergoes =>
    subst same
    obtain ⟨earlier, hpermitted⟩ := (run_inOrder runs).of_mem hmem
    obtain ⟨⟨operations, answered, hwrite⟩, -⟩ :=
      hpermitted.ingress (List.mem_singleton_self _) hmethod hurl
    cases List.mem_singleton.1 hwrite
    obtain ⟨ingress, _, _, -, hstored, hstate⟩ :=
      ofIngress_of_run stores asked runs undergoes written ⟨operations, _, hmem, haccepted⟩
    exact Documents.inDomain_iff.2 ⟨ingress, hstored, by rw [hstate]⟩

/-- A run on documents of the domain finds nothing to change. -/
theorem Completes.findsNothing (h : run.Completes client suffix)
    (hdomain : run.before.InDomain suffix) : run.FindsNothing client := by
  obtain ⟨stored, hstored, hsame⟩ := Documents.inDomain_iff.1 hdomain
  cases h with
  | @intro change token _ _ _ _ _ _ events result same stores asked runs undergoes =>
    subst same
    obtain ⟨first, hevents, hcourse⟩ := run_course runs
    subst hevents
    have hread : ∀ {outcome ingress},
        first.head? = some (.called (change.ingressRead token) outcome) → Reads outcome ingress →
          ingress = stored := by
      intro outcome ingress hhead hreads
      have hfirst := stored_of_reads stores undergoes (by rw [List.head?_append, hhead]; rfl) hreads
      exact Option.some.inj (hfirst.symm.trans hstored)
    rcases hcourse.opens with
      ⟨hnone, -⟩ | ⟨-, outcome, rfl⟩ | ⟨other, ingress, outcome, asked', hhead, opens⟩
    · exact absurd asked (hnone _)
    · refine ⟨token, outcome, rfl, hcourse.unchanged_iff.trans ⟨?_, ?_⟩⟩
      · rintro ⟨_, ingress, -, ⟨_, ⟨⟩, hreads⟩, -⟩
        exact ⟨ingress, hreads⟩
      · rintro ⟨ingress, hreads⟩
        cases hread rfl hreads
        exact ⟨suffix, stored, asked, ⟨outcome, rfl, hreads⟩, hsame⟩
    · cases asked.unique asked'
      cases hread hhead opens.reads
      exact absurd hsame opens.differs

end StoredRun

/-! ## Patch and run together -/

open DomainChange StoredRun

/-- **The patch settles the ingress configuration**: worked out from a document that is written
with objects, it applies, keeps everything else and reads back as the domain and the component
routes that were written; and on a cluster that stores the document and accepts the patch of one
run, the next run for the same suffix finds nothing to change. -/
theorem ingressPatch_settles {document : Value} {ingress : IngressConfig} {domain : String}
    (written : IngressConfig.Written document)
    (decodes : decodeValue? IngressConfig document = some ingress) (nonempty : domain ≠ "")
    (routes : List ComponentRoute) :
    (∃ patched, RoundTrips document (ingressPatch ingress domain routes) domain routes patched) ∧
      ∀ (client : Client) (suffix : String) (first second : StoredRun),
        first.before.ingress = document → first.Completes client suffix →
          first.AcceptsIngress client → second.Completes client suffix →
            second.before = first.after → second.FindsNothing client := by
  refine ⟨ingressPatch_roundTrips written decodes nonempty routes, ?_⟩
  rintro client suffix first second rfl hfirst haccepts hsecond hfollows
  exact hsecond.findsNothing (hfollows ▸ hfirst.inDomain_after written haccepts)

/-- A change of the sample cluster to `new.io`, and the run after it. -/
theorem ingressPatch_settles_migrated :
    ∃ (ingress : IngressConfig) (first second : StoredRun),
      decodeValue? IngressConfig first.before.ingress = some ingress ∧
        (∃ patched, RoundTrips first.before.ingress (ingressPatch ingress "apps.new.io" [])
          "apps.new.io" [] patched) ∧
        first.Completes sample.client "new.io" ∧ first.AcceptsIngress sample.client ∧
          second.Completes sample.client "new.io" ∧ second.before = first.after ∧
            second.result = .ok .unchanged ∧ second.FindsNothing sample.client := by
  obtain ⟨events, events', hseries⟩ := exists_series playSample_migrated
  have hwritten : IngressConfig.Written sampleBefore.ingress :=
    .intro (List.pairwise_singleton ..) (.object (List.pairwise_singleton ..))
  obtain ⟨hroundTrip, hruns⟩ := ingressPatch_settles hwritten rfl
    (show "apps.new.io" ≠ "" by decide) []
  have hfirst := (Series.split (show Series _ _ _ ([] ++ _ :: [_]) _ from hseries)).2
  have hsecond := (Series.split (show Series _ _ _ ([_] ++ _ :: []) _ from hseries)).2
  have haccepts := hfirst.acceptsIngress ⟨_, rfl⟩
  exact ⟨_, _, _, rfl, hroundTrip, hfirst, haccepts, hsecond, rfl, rfl,
    hruns _ _ _ _ rfl hfirst haccepts hsecond rfl⟩

end EdgeSetup
