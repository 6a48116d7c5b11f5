import EdgeSetup.Proofs.DomainChange.LegalNames
import EdgeSetup.Proofs.DomainChange.MovingRoutes

/-!
# Moving routes once more

A run that fails after it moved the routes leaves the old domain in the ingress configuration, so
that a second run for the same suffix moves the routes of the old domain again. Whether these
include the ones that were moved depends on how the two domains lie to each other.

**Main theorem (`repeated_moves`)**. No host is moved twice exactly when neither domain lies under
the other, and then the second run patches just the routes that the first one did not move. When
one domain lies under the other, the hosts that are moved again are told by their starts.
-/

namespace EdgeSetup

open Json Http

/-- Neither domain lies under the other. -/
def SideBySide (old new : String) : Prop := ¬ Dns.IsUnder new old ∧ ¬ Dns.IsUnder old new

instance (old new : String) : Decidable (SideBySide old new) :=
  inferInstanceAs (Decidable (_ ∧ _))

namespace DomainChange

variable {change : DomainChange} {token token' suffix old new : String}
  {request request' : DomainChangeRequest} {events events' : List Event}
  {result result' : Except SetupError DomainChangeOutcome}

/-- The run read an ingress configuration of the old domain, and it listed the routes right before
it made the exchanges. -/
structure MovesFrom (change : DomainChange) (token : String) (events : List Event) (old : String)
    (routes : List Route) (exchanges : List (Request × Outcome)) : Prop where
  domain : ∃ ingress, change.IngressRead token events ingress ∧
    (ClusterDomainState.ofIngress ingress).ingressDomain = some old
  listing : ∃ listing, Reads listing (⟨routes⟩ : ItemList Route) ∧
    [.called (change.routeList token) listing, .calledAll exchanges] <:+: events

/-! ## The routes of a run -/

theorem MovesRoutes.movesListed {current : Option String} {counts : RehostCounts}
    (h : MovesRoutes change token new current events counts) {exchanges : List (Request × Outcome)}
    (hmem : .calledAll exchanges ∈ events) :
    ∃ old listing routes, current = some old ∧ Reads listing (⟨routes⟩ : ItemList Route) ∧
      [.called (change.routeList token) listing, .calledAll exchanges] <+: events ∧
      MovesListed change token old new routes exchanges counts := by
  cases h with
  | skipped => cases hmem
  | unlisted unreadable => simp at hmem
  | @listed old listing routes _ _ reads moves =>
    have htally : .calledAll exchanges ∉ failureTally counts.failed := by
      unfold failureTally
      split <;> simp
    simp only [List.mem_cons, reduceCtorEq, false_or, Event.calledAll.injEq, htally,
      or_false] at hmem
    subst hmem
    exact ⟨old, listing, routes, rfl, reads, List.prefix_append _ _, moves⟩

/-- Only the step that moves the routes makes exchanges, after all else was prepared. -/
theorem Course.prepares (h : Course change token request events result)
    {exchanges : List (Request × Outcome)} (hmem : .calledAll exchanges ∈ events) :
    ∃ domains ingress apiPair pairs counts preparing,
      Prepares change token request domains ingress apiPair pairs counts preparing ∧
        .calledAll exchanges ∈ preparing ∧ preparing <+: events := by
  cases h with
  | refused bad => cases hmem
  | unread named unreadable => simp at hmem
  | unchanged named reads same => simp at hmem
  | unsecured opens failed =>
    simp only [List.mem_cons, reduceCtorEq, false_or] at hmem
    exact absurd hmem (failed.not_calledAll exchanges)
  | ingressRefused prepares refused =>
    exact ⟨_, _, _, _, _, _, prepares, by simpa using hmem, List.prefix_append _ _⟩
  | apiServerRefused prepares accepted refused =>
    exact ⟨_, _, _, _, _, _, prepares, by simpa using hmem, List.prefix_append _ _⟩
  | migrated prepares ingressAccepted apiServerAccepted refreshes =>
    simp only [List.mem_append, List.mem_cons, reduceCtorEq, false_or] at hmem
    rcases hmem with hmem | hmem
    · exact ⟨_, _, _, _, _, _, prepares, hmem, List.prefix_append _ _⟩
    · obtain ⟨-, sent, outcome, heq, -⟩ := refreshes.refreshes _ hmem
      cases heq

/-- The exchanges of a run are the patches of the routes that move from the domain that it read. -/
theorem run_movesFrom (hsuffix : request.domain = some suffix)
    (h : (change.run token request).Runs events result) {exchanges : List (Request × Outcome)}
    (hmem : .calledAll exchanges ∈ events) :
    ∃ old routes counts, MovesFrom change token events old routes exchanges ∧
      MovesListed change token old (Dns.ingressDomain suffix) routes exchanges counts := by
  obtain ⟨first, rfl, hcourse⟩ := run_course h
  obtain ⟨domains, ingress, apiPair, pairs, counts, preparing, prepares, hpreparing, hprefix⟩ :=
    hcourse.prepares (by simpa using hmem)
  cases prepares with
  | @intro outcome securing moving opens secured rehosts =>
    obtain ⟨other, asked, rfl⟩ := requestedDomains_eq_ok.1 opens.named
    cases asked.domain.symm.trans hsuffix
    simp only [List.mem_cons, List.mem_append, reduceCtorEq, false_or,
      secured.not_calledAll exchanges] at hpreparing
    obtain ⟨old, listing, routes, hcurrent, reads, hmoving, moves⟩ :=
      rehosts.movesRoutes.movesListed hpreparing
    obtain ⟨rest, rfl⟩ := hprefix
    refine ⟨old, routes, counts, ⟨⟨ingress, ⟨outcome, rfl, opens.reads⟩, hcurrent⟩, listing, reads,
      ?_⟩, moves⟩
    have hlater : moving <:+: .called (change.ingressRead token) outcome :: (securing ++ moving) :=
      ⟨.called (change.ingressRead token) outcome :: securing, [], by simp⟩
    refine hmoving.isInfix.trans (hlater.trans ?_)
    rw [List.append_assoc]
    exact (List.prefix_append _ _).isInfix

/-- A run that moved routes made exchanges. -/
theorem exists_calledAll {counts : RehostCounts} (hmoved : counts.moved ≠ 0)
    (h : (change.run token request).Runs events (.ok (.migrated counts))) :
    ∃ exchanges, .calledAll exchanges ∈ events := by
  obtain ⟨first, rfl, hcourse⟩ := run_course h
  cases hcourse with
  | migrated prepares ingressAccepted apiServerAccepted refreshes =>
    cases prepares with
    | intro opens secured rehosts =>
      generalize (ClusterDomainState.ofIngress _).ingressDomain = current at rehosts
      cases rehosts with
      | skipped => exact absurd rfl hmoved
      | unlisted unreadable => exact absurd rfl hmoved
      | settled listed same hcounts hfailed =>
        exact ⟨_, List.mem_append_left _ <| List.mem_append_left _ <| List.mem_cons_of_mem _ <|
          List.mem_append_right _ <| List.mem_cons_of_mem _ <| List.mem_cons_self ..⟩

/-! ## Routes that were moved -/

/-- Whether the host of a route is one that the routes of an earlier list were moved to. -/
def wasMoved (old new : String) (earlier : List Route) (route : Route) : Bool :=
  route.host?.any (earlier.filterMap (newHost? old new)).contains

theorem newHost?_of_wasMoved {earlier : List Route} {route : Route} (hside : SideBySide old new)
    (h : wasMoved old new earlier route = true) : newHost? old new route = none := by
  obtain ⟨moved, hmoved, hcontains⟩ := (Option.any_eq_true ..).1 h
  obtain ⟨before, -, hbefore⟩ := List.mem_filterMap.1 (List.contains_iff_mem.1 hcontains)
  obtain ⟨host, -, hhost⟩ := Option.bind_eq_some_iff.1 hbefore
  rw [newHost?, hmoved]
  exact Dns.rehost?_of_moved hhost hside.1 hside.2

/-- Domains side by side: the routes that were moved count for nothing in a second move. -/
theorem hostPatches_filter (hside : SideBySide old new) (earlier routes : List Route) :
    change.hostPatches token old new routes =
      change.hostPatches token old new
        (routes.filter fun route => !wasMoved old new earlier route) := by
  unfold hostPatches
  rw [List.filterMap_filter]
  refine List.filterMap_congr fun route _ => ?_
  by_cases hmoved : wasMoved old new earlier route = true
  · simp [hmoved, newHost?_of_wasMoved hside hmoved]
  · simp [hmoved]

/-! ## The main theorem -/

/-- **No route is moved twice exactly when neither domain lies under the other.** -/
theorem repeated_moves (change : DomainChange) (old suffix : String) :
    ((∀ host moved, Dns.rehost? host old (Dns.ingressDomain suffix) = some moved →
        Dns.rehost? moved old (Dns.ingressDomain suffix) = none) ↔
      old = "" ∨ SideBySide old (Dns.ingressDomain suffix)) ∧
    (∀ host moved, Dns.rehost? host old (Dns.ingressDomain suffix) = some moved →
      Dns.IsUnder (Dns.ingressDomain suffix) old →
        (Dns.rehost? moved old (Dns.ingressDomain suffix)).isSome = true) ∧
    (∀ host moved rest, Dns.rehost? host old (Dns.ingressDomain suffix) = some moved →
      old = Dns.routeHost rest (Dns.ingressDomain suffix) →
        ((Dns.rehost? moved old (Dns.ingressDomain suffix)).isSome = true ↔
          ∃ start, start ≠ "" ∧ host = Dns.routeHost start old ∧
            (start = rest ∨ Dns.IsUnder start rest))) ∧
    (∀ (token token' : String) (request request' : DomainChangeRequest)
        (events events' : List Event) (result result' : Except SetupError DomainChangeOutcome)
        (exchanges exchanges' : List (Request × Outcome)),
      request.domain = some suffix → request'.domain = some suffix →
      (change.run token request).Runs events result →
      (change.run token' request').Runs events' result' →
      .calledAll exchanges ∈ events → .calledAll exchanges' ∈ events' →
        ∃ first routes second routes',
          MovesFrom change token events first routes exchanges ∧
          MovesFrom change token' events' second routes' exchanges' ∧
          exchanges.map Prod.fst =
            change.hostPatches token first (Dns.ingressDomain suffix) routes ∧
          (first = old → second = old → SideBySide old (Dns.ingressDomain suffix) →
            exchanges'.map Prod.fst =
              change.hostPatches token' old (Dns.ingressDomain suffix)
                (routes'.filter fun route =>
                  !wasMoved old (Dns.ingressDomain suffix) routes route))) := by
  refine ⟨?_, fun host moved => Dns.rehost?_again_of_isUnder, ?_, ?_⟩
  · by_cases hold : old = ""
    · simp [Dns.rehost?, hold]
    · rw [Dns.rehost?_moves_once_iff hold]
      simp [SideBySide, hold]
  · rintro host moved rest hmoved rfl
    exact Dns.rehost?_again_iff hmoved
  · intro token token' request request' events events' result result' exchanges exchanges'
      hsuffix hsuffix' hruns hruns' hmem hmem'
    obtain ⟨first, routes, counts, hfrom, hmoves⟩ := run_movesFrom hsuffix hruns hmem
    obtain ⟨second, routes', counts', hfrom', hmoves'⟩ := run_movesFrom hsuffix' hruns' hmem'
    refine ⟨first, routes, second, routes', hfrom, hfrom', hmoves.patches, ?_⟩
    rintro - rfl hside
    exact hmoves'.patches.trans (hostPatches_filter hside routes routes')

/-- A change of a compliant cluster reads the domain of the cluster. -/
theorem MovesFrom.compliant {domain : String} {after : World Attempts} {routes : List Route}
    {exchanges : List (Request × Outcome)}
    (h : MovesFrom sample "token" events domain routes exchanges)
    (hundergoes : World.Undergoes ((Script.compliant "apps.old.io").outside Script.plainIssuer
      .standard) (.start Attempts.none) events after) : domain = "apps.old.io" := by
  obtain ⟨⟨ingress, ⟨outcome, hhead, hreads⟩, hcurrent⟩, -⟩ := h
  have hcall : ((World.start Attempts.none).call ((Script.compliant "apps.old.io").outside
      Script.plainIssuer .standard) (sample.ingressRead "token")).map Prod.fst =
        some (.ok ⟨200, [], (wrap ["spec", "domain"] (.string "apps.old.io")).render⟩) := by
    decide +kernel
  have hshown : (Response.json? IngressConfig
      ⟨200, [], (wrap ["spec", "domain"] (.string "apps.old.io")).render⟩).map
        (fun ingress => (ClusterDomainState.ofIngress ingress).ingressDomain) =
          some (some "apps.old.io") := by
    rw [Response.json?, decodeText?_render]
    decide +kernel
  cases hundergoes with
  | called step rest =>
    cases hhead
    rw [step] at hcall
    cases hcall
    obtain ⟨_, ⟨⟩, -, hjson⟩ := hreads
    rw [hjson, Option.map_some, hcurrent] at hshown
    cases hshown
    rfl
  | nil => cases hhead
  | calledAll => cases hhead
  | issued => cases hhead
  | counted => cases hhead

/-- A change of a compliant cluster made twice, and domains that lie under each other either
way. -/
theorem repeated_moves_migrated :
    (∃ (events : List Event) (exchanges : List (Request × Outcome)) (routes routes' : List Route),
      (sample.run "token" ⟨some "new.io", .empty⟩).Runs events (.ok (.migrated ⟨1, 0⟩)) ∧
        .calledAll exchanges ∈ events ∧ SideBySide "apps.old.io" "apps.new.io" ∧
        MovesFrom sample "token" events "apps.old.io" routes exchanges ∧
        exchanges.map Prod.fst = sample.hostPatches "token" "apps.old.io" "apps.new.io"
          (routes'.filter fun route => !wasMoved "apps.old.io" "apps.new.io" routes route)) ∧
      (Dns.rehost? "grafana.apps.apps.old.io" "apps.old.io" "apps.apps.old.io").isSome = true ∧
      (Dns.rehost? "eu.apps.new.io" "eu.apps.new.io" "apps.new.io").isSome = true := by
  obtain ⟨⟨_, after⟩, hrun, rfl⟩ := Option.map_eq_some_iff.1 sample_migrates
  obtain ⟨events, hruns, hundergoes⟩ := Session.run_eq_some hrun
  obtain ⟨exchanges, hmem⟩ := exists_calledAll Nat.one_ne_zero hruns
  have hside : SideBySide "apps.old.io" "apps.new.io" := by decide
  refine ⟨?_, ?_, ?_⟩
  · obtain ⟨-, -, -, hrepeat⟩ := repeated_moves sample "apps.old.io" "new.io"
    obtain ⟨first, routes, second, routes', hfrom, hfrom', -, hpatches⟩ :=
      hrepeat _ _ _ _ _ _ _ _ _ _ rfl rfl hruns hruns hmem hmem
    obtain rfl := hfrom.compliant hundergoes
    exact ⟨events, exchanges, routes, routes', hruns, hmem, hside, hfrom,
      hpatches rfl (hfrom'.compliant hundergoes) hside⟩
  · obtain ⟨-, hunder, -, -⟩ := repeated_moves sample "apps.old.io" "apps.old.io"
    exact hunder "grafana.apps.old.io" "grafana.apps.apps.old.io" (by decide +kernel) (by decide)
  · obtain ⟨-, -, hover, -⟩ := repeated_moves sample "eu.apps.new.io" "new.io"
    exact (hover "eu.eu.apps.new.io" "eu.apps.new.io" "eu" (by decide +kernel) rfl).2
      ⟨"eu", by decide, rfl, .inl rfl⟩

/-- The suffix `apps.old.io` is valid, and its application domain lies under the domain
`apps.old.io`: a route that was moved there is moved once more. -/
theorem moved_twice_under_old :
    Dns.isValidName "apps.old.io" = true ∧ "apps.old.io" ≠ Dns.ingressDomain "apps.old.io" ∧
      Dns.rehost? "grafana.apps.old.io" "apps.old.io" (Dns.ingressDomain "apps.old.io") =
        some "grafana.apps.apps.old.io" ∧
      Dns.rehost? "grafana.apps.apps.old.io" "apps.old.io" (Dns.ingressDomain "apps.old.io") =
        some "grafana.apps.apps.apps.old.io" := by
  decide +kernel

end DomainChange

end EdgeSetup
