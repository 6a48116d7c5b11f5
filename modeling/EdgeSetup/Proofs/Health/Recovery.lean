import EdgeSetup.Proofs.Health.Histories
import EdgeSetup.Proofs.Json.Evaluation

/-!
# Readiness after a failed discovery

Beside a local front end, a failed discovery is remembered like a successful one. So a later probe
of the readiness fails although the API server answers its ping, the service is live again and the
cluster publishes its endpoints by then (`readiness_stuck`).

**Main theorem (`ready_iff_served`)**: a probe whose ping is answered, and that is served the
endpoints if it asks for them, finds the service ready exactly when no earlier discovery failed.
-/

namespace EdgeSetup

open Json Http

variable {monitor : HealthMonitor}

/-- The outcome is a document with an endpoint to log in at. -/
def ServesEndpoints (outcome : Outcome) : Prop :=
  ∃ endpoints : OAuthEndpoints, Reads outcome endpoints ∧ endpoints.authorization ≠ ""

/-- Every discovery of the probe was served. -/
def Probed.Served (monitor : HealthMonitor) (probed : Probed) : Prop :=
  ∀ outcome, .called monitor.discoveryRequest outcome ∈ probed.events → ServesEndpoints outcome

namespace Probed.Step

variable {probed : Probed} {outcome : Outcome} {endpoints : OAuthEndpoints}

/-- A probe that asks the cluster for the endpoints looks them up, and asks once. -/
theorem of_asked (h : probed.Step monitor)
    (hasked : .called monitor.discoveryRequest outcome ∈ probed.events) :
    probed.LooksUp ∧ ∀ other, .called monitor.discoveryRequest other ∈ probed.events →
      other = outcome := by
  have hping : ∀ {ping other : Outcome},
      Event.called monitor.discoveryRequest other ≠ .called monitor.pingRequest ping :=
    fun heq => monitor.pingRequest_ne_discoveryRequest (Event.called.inj heq).1.symm
  obtain ⟨ping, hevents | ⟨hlooks, -, discovery, hevents⟩⟩ := h.events
  · rw [hevents] at hasked
    exact absurd (List.mem_singleton.1 hasked) hping
  · have honly : ∀ other, .called monitor.discoveryRequest other ∈ probed.events →
        other = discovery := by
      intro other hother
      rw [hevents] at hother
      rcases List.mem_cons.1 hother with hother | hother
      · exact absurd hother hping
      · exact (Event.called.inj (List.mem_singleton.1 hother)).2
    exact ⟨hlooks, fun other hother => (honly other hother).trans (honly outcome hasked).symm⟩

/-- Beside a local front end, the endpoints that a probe found are those it was served. -/
theorem served_iff (h : probed.Step monitor) (isLocal : monitor.IsLocal) (hlooks : probed.LooksUp)
    (hfound : probed.after.endpoints = some endpoints) :
    probed.Served monitor ↔ endpoints.authorization ≠ "" := by
  cases h.finds endpoints hlooks hfound with
  | derived remote => exact absurd isLocal remote
  | @found outcome _ _ asked reads =>
    constructor
    · intro hserved
      obtain ⟨other, hother, hne⟩ := hserved outcome asked
      rwa [reads.unique hother]
    · intro hne other hother
      exact ⟨endpoints, (h.of_asked asked).2 other hother ▸ reads, hne⟩
  | @lost outcome _ asked unreadable =>
    refine iff_of_false (fun hserved => ?_) (fun hne => hne rfl)
    obtain ⟨other, hother, -⟩ := hserved outcome asked
    exact unreadable other hother

end Probed.Step

/-- Endpoints that came to be known were looked up by one of the probes. -/
theorem Watches.exists_looksUp {before last : Health} {probes : List Probed}
    {endpoints : OAuthEndpoints} (h : Watches monitor before probes last)
    (unknown : before.endpoints = none) (known : last.endpoints = some endpoints) :
    ∃ probed ∈ probes, probed.LooksUp ∧ probed.after.endpoints = some endpoints := by
  induction h with
  | nil health => cases unknown.symm.trans known
  | @cons probed probes last runs later ih =>
    cases hafter : probed.after.endpoints with
    | none =>
      obtain ⟨other, hmem, hother⟩ := ih hafter known
      exact ⟨other, List.mem_cons_of_mem _ hmem, hother⟩
    | some found =>
      cases (later.keeps_last hafter).symm.trans known
      exact ⟨probed, List.mem_cons_self .., ⟨unknown, by simp [hafter]⟩, hafter⟩

/-- **Readiness does not recover from a failed discovery**: beside a local front end, a probe whose
ping is answered, and that is served the endpoints if it asks for them, finds the service ready
exactly when every discovery of an earlier probe was served. -/
theorem ready_iff_served {earlier : List Probed} {probed : Probed} {last : Health}
    (isLocal : monitor.IsLocal) (h : Watches monitor .initial (earlier ++ [probed]) last)
    (readiness : probed.probe = .readiness) (answered : PingAnswered monitor probed.events)
    (served : probed.Served monitor) :
    probed.result = true ↔ ∀ other ∈ earlier, other.Served monitor := by
  have hstep := h.step probed (List.mem_append_right _ (List.mem_singleton_self _))
  have hsteps : ∀ other ∈ earlier, other.Step monitor :=
    fun other hother => h.step other (List.mem_append_left _ hother)
  -- What an earlier probe found is what this one starts from.
  have hpassed : ∀ other ∈ earlier, ∀ endpoints, other.after.endpoints = some endpoints →
      probed.before.endpoints = some endpoints := fun other hother endpoints hfound =>
    ((List.pairwise_append.1 h.memoized).2.2 other hother probed (List.mem_singleton_self _)
      endpoints hfound).1
  rw [hstep.ready readiness]
  cases hbefore : probed.before.endpoints with
  | none =>
    have hlooks := hstep.looksUp.2 ⟨readiness, answered, hbefore⟩
    obtain ⟨endpoints, hfound⟩ := Option.ne_none_iff_exists'.1 hlooks.2
    have hne := (hstep.served_iff isLocal hlooks hfound).1 served
    refine iff_of_true ⟨answered, endpoints, hfound, hne⟩ fun other hother outcome hasked => ?_
    obtain ⟨earlierEndpoints, hearlier⟩ :=
      Option.ne_none_iff_exists'.1 ((hsteps other hother).of_asked hasked).1.2
    cases hbefore.symm.trans (hpassed other hother earlierEndpoints hearlier)
  | some endpoints =>
    have hafter := hstep.keeps endpoints hbefore
    constructor
    · rintro ⟨-, found, hfound, hne⟩ other hother outcome hasked
      cases hafter.symm.trans hfound
      have hlooks := ((hsteps other hother).of_asked hasked).1
      obtain ⟨earlierEndpoints, hearlier⟩ := Option.ne_none_iff_exists'.1 hlooks.2
      cases hbefore.symm.trans (hpassed other hother earlierEndpoints hearlier)
      exact ((hsteps other hother).served_iff isLocal hlooks hearlier).2 hne outcome hasked
    · intro hserved
      obtain ⟨finder, hmem, hlooks, hfound⟩ := h.split.exists_looksUp rfl hbefore
      exact ⟨answered, endpoints, hafter,
        ((hsteps finder hmem).served_iff isLocal hlooks hfound).1 (hserved finder hmem)⟩

/-! ## A service that stays unready -/

/-- The outside of the cluster that publishes its endpoints late. -/
def lateOutside : Outside Attempts := Script.lateDiscovery.outside Script.plainIssuer .standard

/-- The first probe comes too early for the endpoints, and the second one does not ask again. -/
theorem play_stuck : ∃ world after : World Attempts,
    HealthMonitor.sample.play lateOutside [.readiness] .initial (.start .none) =
      some ([false], ⟨false, some .empty⟩, world) ∧
    world.cluster .get HealthMonitor.sample.discoveryRequest.url = 1 ∧
    HealthMonitor.sample.play lateOutside [.readiness] ⟨false, some .empty⟩ world =
      some ([false], ⟨true, some .empty⟩, after) := by
  have hfirst : (HealthMonitor.sample.play lateOutside [.readiness] .initial (.start .none)).map
      (fun played => (played.1, played.2.1,
        played.2.2.cluster .get HealthMonitor.sample.discoveryRequest.url)) =
      some ([false], ⟨false, some .empty⟩, 1) := by decide +kernel
  have hboth : ((HealthMonitor.sample.play lateOutside [.readiness] .initial (.start .none)).bind
      fun played => HealthMonitor.sample.play lateOutside [.readiness] played.2.1 played.2.2).map
      (fun played => (played.1, played.2.1)) =
      some ([false], ⟨true, some .empty⟩) := by decide +kernel
  obtain ⟨⟨results, health, world⟩, hplay, heq⟩ := Option.map_eq_some_iff.1 hfirst
  simp only [Prod.mk.injEq] at heq
  obtain ⟨rfl, rfl, hnumber⟩ := heq
  rw [hplay] at hboth
  obtain ⟨⟨again, last, after⟩, hagain, heq⟩ := Option.map_eq_some_iff.1 hboth
  simp only [Prod.mk.injEq] at heq
  obtain ⟨rfl, rfl⟩ := heq
  exact ⟨world, after, hplay, hnumber, hagain⟩

/-- Once the cluster publishes its endpoints, it serves them. -/
theorem lateDiscovery_serves {number : Nat} (h : number ≠ 0) :
    ServesEndpoints (Script.lateDiscovery .get HealthMonitor.sample.discoveryRequest.url
      number).outcome := by
  have hread : decodeText? OAuthEndpoints (encode sampleEndpoints).render =
      some sampleEndpoints := by
    rw [decodeText?_render]
    decide +kernel
  have hurl : HealthMonitor.sample.discoveryRequest.url ≠ "c/apis" := by decide +kernel
  simp only [Script.lateDiscovery, hurl, h, if_false]
  exact ⟨sampleEndpoints, ⟨_, rfl, rfl, hread⟩, by decide⟩

/-- A service beside a local front end is not ready although its ping is answered with 200, it is
live, and the cluster would serve its endpoints: an earlier probe came too early for them. -/
theorem readiness_stuck : ∃ world after : World Attempts,
    HealthMonitor.sample.IsLocal ∧
      HealthMonitor.sample.play lateOutside [.readiness] .initial (.start .none) =
        some ([false], ⟨false, some .empty⟩, world) ∧
      ((lateOutside.respond HealthMonitor.sample.pingRequest world.cluster).1.outcome.map
        Response.status).toOption = some 200 ∧
      ServesEndpoints
        (lateOutside.respond HealthMonitor.sample.discoveryRequest world.cluster).1.outcome ∧
      HealthMonitor.sample.play lateOutside [.readiness] ⟨false, some .empty⟩ world =
        some ([false], ⟨true, some .empty⟩, after) := by
  obtain ⟨world, after, hplay, hnumber, hagain⟩ := play_stuck
  refine ⟨world, after, by unfold HealthMonitor.IsLocal; decide +kernel, hplay, ?_, ?_, hagain⟩
  · rfl
  · refine lateDiscovery_serves ?_
    have hmethod : HealthMonitor.sample.discoveryRequest.method = .get :=
      Client.readRequest_method ..
    rw [hmethod, hnumber]
    decide

/-- The same service, as a history: the second probe is not ready because of the first one. -/
theorem ready_iff_served_stuck : ∃ first second : Probed, ∃ last,
    HealthMonitor.sample.IsLocal ∧ Watches .sample .initial ([first] ++ [second]) last ∧
      second.probe = .readiness ∧ PingAnswered .sample second.events ∧ second.Served .sample ∧
        (second.result = true ↔ ∀ other ∈ [first], other.Served .sample) ∧
          second.result = false := by
  obtain ⟨world, after, hplay, -, hagain⟩ := play_stuck
  obtain ⟨firsts, hfirst, hfirstKind, -⟩ := Watches.of_play hplay
  obtain ⟨seconds, hsecond, hsecondKind, hresult⟩ := Watches.of_play hagain
  obtain ⟨first, rfl, -⟩ := List.map_eq_singleton_iff.1 hfirstKind
  obtain ⟨second, rfl, hkind⟩ := List.map_eq_singleton_iff.1 hsecondKind
  have hlocal : HealthMonitor.sample.IsLocal := by unfold HealthMonitor.IsLocal; decide +kernel
  have hwatches := hfirst.append hsecond
  have hanswered : PingAnswered .sample second.events := by
    have hlive := hsecond.liveAfter
    rw [List.flatMap_singleton] at hlive
    exact hlive.answered
  have hserved : second.Served .sample := by
    intro outcome hasked
    have hstep := hsecond.step second (List.mem_singleton_self _)
    have hknown := (hsecond.keeps rfl second (List.mem_singleton_self _)).1
    cases hknown.symm.trans (hstep.of_asked hasked).1.1
  exact ⟨first, second, _, hlocal, hwatches, hkind, hanswered, hserved,
    ready_iff_served hlocal hwatches hkind hanswered hserved, by simpa using hresult⟩

end EdgeSetup
