import EdgeSetup.Proofs.Cluster.Scripts
import EdgeSetup.Proofs.Dns.Nesting
import EdgeSetup.Proofs.DomainChange.Course
import EdgeSetup.Proofs.Json.Evaluation
import EdgeSetup.Proofs.Retry.OwnAnswers
import EdgeSetup.Proofs.Session.Counting
import Mathlib.Data.List.Forall2

/-!
# The step that moves the routes

The step lists all routes and patches side by side those whose host is the old domain or lies
under it. Each is patched once, at its own address and to its own new host (`MovesListed`).

**Main theorem (`routeStep_settles`).** In every history of the step the counts are of the patches
that were carried out and of all others (`MovesRoutes`), and the failure counter of every world
grows by the second. When each patch has answers of its own, it is settled by these, whatever the
latencies and so the order in which the patches are done.
-/

namespace EdgeSetup

open Json Http

variable {old new : String}

/-! ## Routes that move -/

/-- The new host of a route, if it moves. -/
def newHost? (old new : String) (route : Route) : Option String :=
  route.host?.bind fun host => Dns.rehost? host old new

/-- The routes that move are those whose host is the old domain or lies under it. -/
theorem isSome_newHost?_iff {route : Route} :
    (newHost? old new route).isSome = true ↔
      old ≠ "" ∧ old ≠ new ∧
        ∃ host, route.host? = some host ∧ (host = old ∨ Dns.IsUnder host old) := by
  simp only [newHost?, Option.isSome_iff_exists, Option.bind_eq_some_iff]
  constructor
  · rintro ⟨moved, host, hhost, hmoved⟩
    obtain ⟨hold, hne⟩ := Dns.domains_of_rehost? hmoved
    exact ⟨hold, hne, host, hhost,
      (Dns.isSome_rehost?_iff_isUnder hold hne).1 (Option.isSome_of_eq_some hmoved)⟩
  · rintro ⟨hold, hne, host, hhost, hunder⟩
    obtain ⟨moved, hmoved⟩ :=
      Option.isSome_iff_exists.1 ((Dns.isSome_rehost?_iff_isUnder hold hne).2 hunder)
    exact ⟨moved, host, hhost, hmoved⟩

/-- A route moves from its own address to its new host. -/
theorem routeMove?_eq (route : Route) :
    routeMove? old new route = (newHost? old new route).map fun host =>
      (.namespaced .route (route.metadata.inNamespace.getD "") (route.metadata.name.getD ""),
        host) := by
  unfold routeMove? newHost?
  cases route.host? with
  | none => rfl
  | some host =>
    cases hmoved : Dns.rehost? host old new with
    | none => simp [hmoved]
    | some moved => simp [hmoved]

/-- The routes that move, each with its new host, in the order of the list. -/
def movedRoutes (old new : String) (routes : List Route) : List (Route × String) :=
  routes.filterMap fun route => (newHost? old new route).map fun host => (route, host)

/-- The path of a route, by its namespace and its name; a missing one is empty. -/
def routePath (route : Route) : String :=
  "/apis/route.openshift.io/v1/namespaces/" ++ route.metadata.inNamespace.getD "" ++ "/routes/" ++
    route.metadata.name.getD ""

/-! ## The domain before -/

theorem ingressOfConsoleHost?_ne_empty {host domain : String}
    (h : Dns.ingressOfConsoleHost? host = some domain) : domain ≠ "" := by
  unfold Dns.ingressOfConsoleHost? at h
  split at h
  · cases h
    simp [← String.toList_inj]
  · cases h

/-- The domain that a cluster has now is not empty. -/
theorem ingressDomain_ne_empty {ingress : IngressConfig} {domain : String}
    (h : (ClusterDomainState.ofIngress ingress).ingressDomain = some domain) : domain ≠ "" := by
  unfold ClusterDomainState.ofIngress consoleDomain? at h
  rcases Option.or_eq_some_iff.1 h with hnamed | ⟨-, hconsole⟩
  · rintro rfl
    simpa using (Option.filter_eq_some_iff.1 hnamed).2
  · obtain ⟨route, -, hroute⟩ := List.exists_of_findSome?_eq_some hconsole
    exact ingressOfConsoleHost?_ne_empty hroute

namespace DomainChange

variable {change : DomainChange} {token : String} {events : List Event} {counts : RehostCounts}

/-! ## Patches -/

/-- The patch that gives a route a host, addressed by the namespace and the name of the route. -/
def hostPatch (change : DomainChange) (token : String) (route : Route) (host : String) : Request :=
  change.client.patchRequest token
    (.namespaced .route (route.metadata.inNamespace.getD "") (route.metadata.name.getD ""))
    (.operations [{ op := .replace, path := "/spec/host", value := .string host }])

/-- The request replaces the host of a route, at the path of the route, and nothing else. -/
def ReplacesHost (change : DomainChange) (move : Route × String) (sent : Request) : Prop :=
  change.client.Patches (routePath move.1) [⟨.replace, "/spec/host", .string move.2⟩] sent

/-- One patch for each listed route that moves, in the order of the list. -/
def hostPatches (change : DomainChange) (token old new : String) (routes : List Route) :
    List Request :=
  routes.filterMap fun route => (newHost? old new route).map (change.hostPatch token route)

theorem routeWrites_eq (routes : List Route) :
    (routes.filterMap (routeMove? old new)).map (change.routeWrite token) =
      change.hostPatches token old new routes := by
  rw [List.map_filterMap]
  refine List.filterMap_congr fun route _ => ?_
  rw [routeMove?_eq, Option.map_map]
  rfl

theorem hostPatches_eq_map (routes : List Route) :
    change.hostPatches token old new routes =
      (movedRoutes old new routes).map fun move => change.hostPatch token move.1 move.2 := by
  rw [movedRoutes, List.map_filterMap]
  refine List.filterMap_congr fun route _ => ?_
  rw [Option.map_map]
  rfl

theorem hostPatch_replacesHost (change : DomainChange) (token : String) (route : Route)
    (host : String) : change.ReplacesHost (route, host) (change.hostPatch token route host) := by
  have hpatches := change.client.patchRequest_patches token
    (.namespaced .route (route.metadata.inNamespace.getD "") (route.metadata.name.getD ""))
    [⟨.replace, "/spec/host", .string host⟩]
  rwa [ResourceRef.route_path] at hpatches

theorem hostPatches_length (change : DomainChange) (token : String) (routes : List Route) :
    (change.hostPatches token old new routes).length =
      routes.countP fun route => (newHost? old new route).isSome := by
  rw [hostPatches, List.length_filterMap_eq_countP]
  simp only [Option.isSome_map]

theorem method_of_mem_hostPatches {routes : List Route} {patch : Request}
    (h : patch ∈ change.hostPatches token old new routes) : patch.method = .patch := by
  obtain ⟨route, -, hroute⟩ := List.mem_filterMap.1 h
  obtain ⟨host, -, rfl⟩ := Option.map_eq_some_iff.1 hroute
  exact Client.patchRequest_method ..

/-! ## The step -/

/-- The step of a run that moves the routes. -/
def routeStep (change : DomainChange) (token : String) (old : Option String) (new : String) :
    Attempting RehostCounts :=
  DomainStep.rehostRoutes.take ⟨0, 0⟩ (change.rehostRoutes token old new)

/-- Of the listed routes each that moves was patched once, and the counts are those of the
outcomes. -/
structure MovesListed (change : DomainChange) (token old new : String) (routes : List Route)
    (exchanges : List (Request × Outcome)) (counts : RehostCounts) : Prop where
  patches : exchanges.map Prod.fst = change.hostPatches token old new routes
  /-- One by one, these replace the hosts of the routes that move, each at its path. -/
  replaces : List.Forall₂ (fun move exchange => change.ReplacesHost move exchange.1)
    (movedRoutes old new routes) exchanges
  moved : counts.moved = exchanges.countP fun exchange => isAccepted exchange.2
  failed : counts.failed = exchanges.countP fun exchange => !isAccepted exchange.2
  all : counts.moved + counts.failed = routes.countP fun route => (newHost? old new route).isSome

/-- What the step does, and the counts that it ends with. -/
inductive MovesRoutes (change : DomainChange) (token new : String) :
    Option String → List Event → RehostCounts → Prop where
  | skipped : MovesRoutes change token new none [] ⟨0, 0⟩
  | unlisted {old : String} {listing : Outcome}
      (unreadable : ∀ routes, ¬ Reads listing (⟨routes⟩ : ItemList Route)) :
      MovesRoutes change token new (some old) [.called (change.routeList token) listing] ⟨0, 0⟩
  | listed {old : String} {listing : Outcome} {routes : List Route}
      {exchanges : List (Request × Outcome)} {counts : RehostCounts}
      (reads : Reads listing (⟨routes⟩ : ItemList Route))
      (moves : MovesListed change token old new routes exchanges counts) :
      MovesRoutes change token new (some old)
        (.called (change.routeList token) listing :: .calledAll exchanges ::
          failureTally counts.failed) counts

/-- Exchanges of the patches replace the hosts of the routes that move. -/
theorem replaces_of_patches {routes : List Route} {exchanges : List (Request × Outcome)}
    (h : exchanges.map Prod.fst = change.hostPatches token old new routes) :
    List.Forall₂ (fun move exchange => change.ReplacesHost move exchange.1)
      (movedRoutes old new routes) exchanges := by
  have hsent : List.Forall₂ change.ReplacesHost (movedRoutes old new routes)
      (exchanges.map Prod.fst) := by
    rw [h, hostPatches_eq_map, List.forall₂_map_right_iff, List.forall₂_same]
    exact fun move _ => change.hostPatch_replacesHost token move.1 move.2
  exact List.forall₂_map_right_iff.1 hsent

/-- The counts of outcomes, one for each patch, are those of the patches with their outcomes. -/
theorem movesListed_zip {routes : List Route} {outcomes : List Outcome}
    (same : outcomes.length = (change.hostPatches token old new routes).length) :
    MovesListed change token old new routes
      ((change.hostPatches token old new routes).zip outcomes)
      ⟨outcomes.countP isAccepted, outcomes.length - outcomes.countP isAccepted⟩ := by
  have hsnd : ((change.hostPatches token old new routes).zip outcomes).map Prod.snd = outcomes :=
    List.map_snd_zip (Nat.le_of_eq same)
  have hcount : ∀ p : Outcome → Bool, outcomes.countP p =
      ((change.hostPatches token old new routes).zip outcomes).countP fun exchange =>
        p exchange.2 := by
    intro p
    conv_lhs => rw [← hsnd, List.countP_map]
    rfl
  have hsplit := List.length_eq_countP_add_countP isAccepted (l := outcomes)
  have hfailed : outcomes.length - outcomes.countP isAccepted =
      outcomes.countP fun outcome => !isAccepted outcome := by
    simp only [Bool.not_eq_true, Bool.decide_eq_false] at hsplit
    omega
  have hpatches := List.map_fst_zip (Nat.le_of_eq same.symm)
  refine ⟨hpatches, replaces_of_patches hpatches, hcount _, hfailed.trans (hcount _), ?_⟩
  rw [← change.hostPatches_length token, ← same]
  exact Nat.add_sub_cancel' List.countP_le_length

theorem Rehosts.movesRoutes {new : String} {current : Option String}
    (h : Rehosts change token new current events counts) :
    MovesRoutes change token new current events counts := by
  cases h with
  | skipped => exact .skipped
  | unlisted unreadable => exact .unlisted unreadable
  | @settled old _ routes outcomes _ _ listed same hmoved hfailed =>
    subst hmoved hfailed
    rw [← List.length_map (f := change.routeWrite token), routeWrites_eq] at same
    rw [routeWrites_eq]
    exact .listed listed (movesListed_zip same)

/-- Every history of the step ends with counts. -/
theorem routeStep_runs {current : Option String} {new : String}
    {result : Except SetupError RehostCounts}
    (h : Attempting.Runs (change.routeStep token current new) events result) :
    ∃ counts, result = .ok counts ∧ MovesRoutes change token new current events counts := by
  obtain ⟨counts, hresult, hrehosts⟩ := rehostStep_runs h
  exact ⟨counts, hresult, hrehosts.movesRoutes⟩

theorem tallied_failureTally (failed : Nat) :
    tallied .rehostFailures (failureTally failed) = failed := by
  unfold failureTally
  split
  · simp [tallied, Event.amount]
  · simp only [tallied]
    omega

/-- The step counts the routes that were not moved. -/
theorem MovesRoutes.tallied_eq {new : String} {current : Option String}
    (h : MovesRoutes change token new current events counts) :
    tallied .rehostFailures events = counts.failed := by
  cases h with
  | skipped => rfl
  | unlisted unreadable => rfl
  | listed reads moves => simp [tallied, Event.amount, tallied_failureTally]

/-! ## Given outcomes -/

theorem failureTally_of_value {α : Type} {failed : Nat} {value : α} :
    Attempting.Runs (if 0 < failed then do
        liftM (Session.tally .rehostFailures failed)
        pure value
      else pure value) (failureTally failed) (.ok value) := by
  unfold failureTally
  split
  · exact Attempting.runs_bind.2 (.inr ⟨_, [], (), rfl,
      Attempting.runs_lift.2 ⟨(), rfl, Session.runs_tally.2 rfl⟩,
      Attempting.runs_pure.2 ⟨rfl, rfl⟩⟩)
  · exact Attempting.runs_pure.2 ⟨rfl, rfl⟩

/-- A listing that reads and outcomes of the patches make a history of the step. -/
theorem routeStep_of_outcomes {listing : Outcome} {routes : List Route} {outcomes : List Outcome}
    (reads : Reads listing (⟨routes⟩ : ItemList Route))
    (same : outcomes.length = (change.hostPatches token old new routes).length) :
    ∃ counts,
      MovesListed change token old new routes
        ((change.hostPatches token old new routes).zip outcomes) counts ∧
      Attempting.Runs (change.routeStep token (some old) new)
        (.called (change.routeList token) listing ::
          .calledAll ((change.hostPatches token old new routes).zip outcomes) ::
            failureTally counts.failed) (.ok counts) := by
  refine ⟨_, movesListed_zip same, Session.runs_bind.2
    ⟨_, [], .ok _, (List.append_nil _).symm, ?_, Session.runs_done.2 ⟨rfl, rfl⟩⟩⟩
  refine Attempting.runs_bind.2
    (.inr ⟨[_], _, routes, rfl, Client.list_of_reads reads, ?_⟩)
  refine Attempting.runs_bind.2 (.inr ⟨[_], _, outcomes, rfl,
    Attempting.runs_lift.2 ⟨_, rfl, Session.runs_callAll.2 ⟨?_, ?_⟩⟩, ?_⟩)
  · rw [same, ← routeWrites_eq, List.length_map, List.length_map]
  · rw [← routeWrites_eq]
    rfl
  · exact failureTally_of_value

/-- Patches that are made side by side, each with answers of its own, come to what these settle
them with, and the step ends with the counts of that. -/
theorem routeStep_ownAnswers (policy : RetryPolicy) {answers : Nat → Nat → Answer}
    (hanswers : ∀ place i, (answers place i).latency ≠ none) (start : Nat) {listing : Outcome}
    {routes : List Route} (reads : Reads listing (⟨routes⟩ : ItemList Route)) :
    ∃ outcomes counts,
      outcomes = (change.hostPatches token old new routes).mapIdx (fun place _ =>
        settledOutcome (policy.namedRetries .patch) fun i => (answers place i).outcome) ∧
      (policy.runAll (RetryPolicy.ownCalls answers (change.hostPatches token old new routes)) start
        fun _ => 0).1.endings.map Ending.outcome? = outcomes.map some ∧
      MovesListed change token old new routes
        ((change.hostPatches token old new routes).zip outcomes) counts ∧
      Attempting.Runs (change.routeStep token (some old) new)
        (.called (change.routeList token) listing ::
          .calledAll ((change.hostPatches token old new routes).zip outcomes) ::
            failureTally counts.failed) (.ok counts) := by
  have hmethod : ∀ patch ∈ change.hostPatches token old new routes, patch.method = .patch :=
    fun _ hpatch => method_of_mem_hostPatches hpatch
  have hown := policy.runAll_own_of_method hanswers hmethod start
  obtain ⟨counts, hmoves, hruns⟩ := routeStep_of_outcomes reads List.length_mapIdx
  exact ⟨_, counts, rfl, hown, hmoves, hruns⟩

/-- **Every listed route that moves is patched once and counted by its outcome**, whatever is
answered and in whatever order, and no other route is patched. -/
theorem routeStep_settles (change : DomainChange) (token : String) (current : Option String)
    (new : String) :
    (∀ (events : List Event) (result : Except SetupError RehostCounts),
        Attempting.Runs (change.routeStep token current new) events result →
          ∃ counts, result = .ok counts ∧ MovesRoutes change token new current events counts) ∧
      (∀ (σ : Type) (outside : Outside σ) (world : World σ),
        (∀ request cluster, (outside.respond request cluster).1.latency ≠ none) →
          ∃ counts events after,
            (change.routeStep token current new).run.run outside world =
              some (.ok counts, after) ∧
            MovesRoutes change token new current events counts ∧
            World.Undergoes outside world events after ∧
            after.counts .rehostFailures = world.counts .rehostFailures + counts.failed) ∧
      (∀ (policy : RetryPolicy) (answers : Nat → Nat → Answer) (start : Nat) (old : String)
          (listing : Outcome) (routes : List Route),
        (∀ place i, (answers place i).latency ≠ none) → current = some old →
          Reads listing (⟨routes⟩ : ItemList Route) →
            ∃ outcomes counts,
              outcomes = (change.hostPatches token old new routes).mapIdx (fun place _ =>
                settledOutcome (policy.namedRetries .patch) fun i => (answers place i).outcome) ∧
              (policy.runAll (RetryPolicy.ownCalls answers
                (change.hostPatches token old new routes)) start fun _ => 0).1.endings.map
                  Ending.outcome? = outcomes.map some ∧
              MovesListed change token old new routes
                ((change.hostPatches token old new routes).zip outcomes) counts ∧
              Attempting.Runs (change.routeStep token current new)
                (.called (change.routeList token) listing ::
                  .calledAll ((change.hostPatches token old new routes).zip outcomes) ::
                    failureTally counts.failed) (.ok counts)) ∧
      (∀ (old : String) (route : Route), (newHost? old new route).isSome = true ↔
        old ≠ "" ∧ old ≠ new ∧
          ∃ host, route.host? = some host ∧ (host = old ∨ Dns.IsUnder host old)) ∧
      (∀ (request : DomainChangeRequest) (domains : Dns.ClusterDomains) (ingress : IngressConfig)
          (outcome : Outcome) (old : String), Opens request domains ingress outcome →
        (ClusterDomainState.ofIngress ingress).ingressDomain = some old →
          old ≠ "" ∧ old ≠ domains.ingress) := by
  refine ⟨fun events result => routeStep_runs, ?_, ?_, fun old route => isSome_newHost?_iff, ?_⟩
  · intro σ outside world hanswers
    obtain ⟨result, after, hrun⟩ := Session.exists_run hanswers
      (change.routeStep token current new).run world
    obtain ⟨events, hruns, hundergoes⟩ := Session.run_eq_some hrun
    obtain ⟨counts, rfl, hmoves⟩ := routeStep_runs hruns
    refine ⟨counts, events, after, hrun, hmoves, hundergoes, ?_⟩
    rw [hundergoes.counts (by decide) (by decide), hmoves.tallied_eq]
  · rintro policy answers start old listing routes hanswers rfl reads
    exact routeStep_ownAnswers policy hanswers start reads
  · intro request domains ingress outcome old opens hold
    refine ⟨ingressDomain_ne_empty hold, fun heq => opens.differs ?_⟩
    rw [hold, heq]

/-- The console's route is the only one listed. A compliant cluster moves it, and a patch that is
refused after seven milliseconds is counted. -/
theorem routeStep_settles_console :
    let route : Route :=
      ⟨⟨some "console", some "web", none⟩, some ⟨some "console.apps.old.io"⟩⟩
    let listing : Outcome := .ok ⟨200, [], (Script.consoleRouteList "apps.old.io").render⟩
    Reads listing (⟨[route]⟩ : ItemList Route) ∧
      (∃ counts events,
        MovesRoutes sample "token" "apps.new.io" (some "apps.old.io") events counts) ∧
      ∃ outcomes counts, outcomes = [.ok ⟨403, [], ""⟩] ∧
        MovesListed sample "token" "apps.old.io" "apps.new.io" [route]
          ((sample.hostPatches "token" "apps.old.io" "apps.new.io" [route]).zip outcomes)
          counts := by
  intro route listing
  have hreads : Reads listing (⟨[route]⟩ : ItemList Route) := by
    have hitems : (Response.json? (ItemList Route)
        ⟨200, [], (Script.consoleRouteList "apps.old.io").render⟩).map ItemList.items =
          some [route] := by
      rw [Response.json?, decodeText?_render]
      decide +kernel
    obtain ⟨⟨items⟩, hdecode, rfl⟩ := Option.map_eq_some_iff.1 hitems
    exact ⟨_, rfl, rfl, hdecode⟩
  obtain ⟨-, hplays, hown, -⟩ :=
    routeStep_settles sample "token" (some "apps.old.io") "apps.new.io"
  obtain ⟨counts, events, after, -, hmoves, -⟩ := hplays _
    ((Script.compliant "apps.old.io").outside Script.plainIssuer .standard)
    (.start Attempts.none)
    (fun request _ => Script.compliant_answered _ request.method request.url _)
  obtain ⟨outcomes, counts', houtcomes, -, hmoves', -⟩ :=
    hown .standard (fun _ _ => ⟨some 7, .ok ⟨403, [], ""⟩⟩) 0 "apps.old.io" listing [route] nofun
      rfl hreads
  refine ⟨hreads, ⟨counts, events, hmoves⟩, outcomes, counts', ?_, hmoves'⟩
  rw [houtcomes]
  rfl

end DomainChange

end EdgeSetup
