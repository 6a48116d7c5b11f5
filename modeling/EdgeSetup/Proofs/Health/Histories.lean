import EdgeSetup.Proofs.Cluster.Scripts
import EdgeSetup.Proofs.Health.Probes
import EdgeSetup.Proofs.Session.Plays

/-!
# Histories of probes

Pings and probes made one after the other (`Watches`), each with any answers of the cluster. The
flag of the liveness is a matter of the last event that decides (`Decides`, `LiveAfter`), and the
endpoints are settled by the first probe that looks them up.

**Main theorem (`watches_watched`)**: what every history of probes of a service that just started
comes to (`Watched`).
-/

namespace EdgeSetup

open Json Http

/-! ## Probes one after the other -/

/-- The kinds of probe; a ping is one that nobody waits for. -/
inductive Probe where
  | ping
  | liveness
  | readiness
  deriving DecidableEq, Repr

/-- A probe of a kind. -/
def HealthMonitor.probe (monitor : HealthMonitor) : Probe → Watching Bool
  | .ping => monitor.ping
  | .liveness => monitor.isLive
  | .readiness => monitor.isReady

/-- A probe that was made. -/
structure Probed where
  probe : Probe
  before : Health
  events : List Event
  result : Bool
  after : Health

/-- The probes follow each other: each starts with the health that the one before it left. -/
inductive Watches (monitor : HealthMonitor) : Health → List Probed → Health → Prop where
  | nil (health : Health) : Watches monitor health [] health
  | cons {probed : Probed} {probes : List Probed} {last : Health}
      (runs : ((monitor.probe probed.probe).run probed.before).Runs probed.events
        (probed.result, probed.after))
      (later : Watches monitor probed.after probes last) :
      Watches monitor probed.before (probed :: probes) last

variable {monitor : HealthMonitor}

/-! ## The flag of the liveness -/

/-- What an event decides about the liveness. -/
inductive Decides (monitor : HealthMonitor) : Event → Bool → Prop where
  | answered (response : Response) :
      Decides monitor (.called monitor.pingRequest (.ok response)) (response.status == 200)
  | down {failure : Failure} (isDown : failure.IsDown) :
      Decides monitor (.called monitor.pingRequest (.error failure)) false
  | lost {outcome : Outcome}
      (unreadable : ∀ endpoints : OAuthEndpoints, ¬ Reads outcome endpoints) :
      Decides monitor (.called monitor.discoveryRequest outcome) false

/-- The flag after the events: as the last event that decides says, or as it was before. -/
def LiveAfter (monitor : HealthMonitor) (before : Bool) (events : List Event) (live : Bool) :
    Prop :=
  (∃ earlier event later, events = earlier ++ event :: later ∧ Decides monitor event live ∧
      ∀ other ∈ later, ∀ verdict, ¬ Decides monitor other verdict) ∨
    live = before ∧ ∀ event ∈ events, ∀ verdict, ¬ Decides monitor event verdict

namespace LiveAfter

variable {before middle live : Bool} {events more : List Event} {event : Event}

theorem nil : LiveAfter monitor before [] before := .inr ⟨rfl, nofun⟩

theorem decided (h : Decides monitor event live) : LiveAfter monitor before [event] live :=
  .inl ⟨[], event, [], rfl, h, nofun⟩

theorem undecided (h : ∀ verdict, ¬ Decides monitor event verdict) :
    LiveAfter monitor before [event] before :=
  .inr ⟨rfl, fun _ hother => List.mem_singleton.1 hother ▸ h⟩

theorem append (h : LiveAfter monitor before events middle)
    (h' : LiveAfter monitor middle more live) :
    LiveAfter monitor before (events ++ more) live := by
  rcases h' with ⟨earlier, event, later, rfl, hdecides, hlater⟩ | ⟨rfl, hmore⟩
  · exact .inl ⟨events ++ earlier, event, later, by simp, hdecides, hlater⟩
  · rcases h with ⟨earlier, event, later, rfl, hdecides, hlater⟩ | ⟨rfl, hevents⟩
    · refine .inl ⟨earlier, event, later ++ more, by simp, hdecides, fun other hother => ?_⟩
      exact (List.mem_append.1 hother).elim (hlater other) (hmore other)
    · exact .inr ⟨rfl, fun event hevent => (List.mem_append.1 hevent).elim (hevents event)
        (hmore event)⟩

end LiveAfter

/-- A failed ping decides only when it means that the API server is down. -/
theorem Decides.isDown {failure : Failure} {live : Bool}
    (h : Decides monitor (.called monitor.pingRequest (.error failure)) live) : failure.IsDown := by
  generalize hevent : Event.called monitor.pingRequest (.error failure) = event at h
  cases h with
  | answered response => cases hevent
  | down isDown =>
    cases hevent
    exact isDown
  | lost unreadable =>
    exact absurd (Event.called.inj hevent).1 monitor.pingRequest_ne_discoveryRequest

/-- A discovery decides only when it failed. -/
theorem Decides.unreadable {outcome : Outcome} {live : Bool}
    (h : Decides monitor (.called monitor.discoveryRequest outcome) live) :
    ∀ endpoints : OAuthEndpoints, ¬ Reads outcome endpoints := by
  generalize hevent : Event.called monitor.discoveryRequest outcome = event at h
  cases h with
  | answered response =>
    exact absurd (Event.called.inj hevent).1.symm monitor.pingRequest_ne_discoveryRequest
  | down isDown =>
    exact absurd (Event.called.inj hevent).1.symm monitor.pingRequest_ne_discoveryRequest
  | lost unreadable => exact (Event.called.inj hevent).2 ▸ unreadable

/-! ## One probe -/

/-- The ping among the events was answered with 200. -/
def PingAnswered (monitor : HealthMonitor) (events : List Event) : Prop :=
  ∃ response, .called monitor.pingRequest (.ok response) ∈ events ∧ response.status = 200

/-- Only a ping that was answered with 200 brings the service back. -/
theorem LiveAfter.answered {events : List Event} (h : LiveAfter monitor false events true) :
    PingAnswered monitor events := by
  obtain ⟨earlier, event, later, rfl, hdecides, -⟩ := h.resolve_right fun hkept => nomatch hkept.1
  generalize hlive : true = live at hdecides
  cases hdecides with
  | answered response =>
    exact ⟨response, List.mem_append_right _ (List.mem_cons_self ..), beq_iff_eq.1 hlive.symm⟩
  | down isDown => cases hlive
  | lost unreadable => cases hlive

namespace Pinged

variable {before after : Health} {events : List Event} {up : Bool}

theorem events_eq (h : Pinged monitor before events up after) :
    ∃ outcome, events = [.called monitor.pingRequest outcome] := by
  cases h <;> exact ⟨_, rfl⟩

theorem answered_iff (h : Pinged monitor before events up after) :
    up = true ↔ PingAnswered monitor events := by
  cases h with
  | @answered response live same =>
    rw [same, beq_iff_eq]
    refine ⟨fun hstatus => ⟨response, List.mem_singleton_self _, hstatus⟩, ?_⟩
    rintro ⟨other, hother, hstatus⟩
    cases List.mem_singleton.1 hother
    exact hstatus
  | down isDown | undecided notDown =>
    refine ⟨nofun, ?_⟩
    rintro ⟨other, hother, -⟩
    cases List.mem_singleton.1 hother

theorem liveAfter (h : Pinged monitor before events up after) :
    LiveAfter monitor before.live events after.live := by
  cases h with
  | answered same =>
    subst same
    exact .decided (.answered _)
  | down isDown => exact .decided (.down isDown)
  | undecided notDown => exact .undecided fun verdict h => notDown h.isDown

end Pinged

/-- The discovery after a ping is none of the answers to it. -/
theorem pingAnswered_append {events : List Event} {outcome : Outcome} :
    PingAnswered monitor (events ++ [.called monitor.discoveryRequest outcome]) ↔
      PingAnswered monitor events := by
  constructor
  · rintro ⟨response, hmem, hstatus⟩
    rcases List.mem_append.1 hmem with hmem | hmem
    · exact ⟨response, hmem, hstatus⟩
    · exact absurd (Event.called.inj (List.mem_singleton.1 hmem)).1
        monitor.pingRequest_ne_discoveryRequest
  · rintro ⟨response, hmem, hstatus⟩
    exact ⟨response, List.mem_append_left _ hmem, hstatus⟩

namespace Probed

/-- The probe looks the endpoints up: they are known after it, and were not before. -/
def LooksUp (probed : Probed) : Prop :=
  probed.before.endpoints = none ∧ probed.after.endpoints ≠ none

/-- What a probe finds when it looks the endpoints up. Beside a local front end it reads them from
the answer of the cluster, and without a readable one they are empty; otherwise they follow from
the URL of the front end. -/
inductive Finds (monitor : HealthMonitor) (probed : Probed) : OAuthEndpoints → Prop where
  | derived (remote : ¬ monitor.IsLocal)
      (alone : ∀ outcome, .called monitor.discoveryRequest outcome ∉ probed.events) :
      Finds monitor probed (.ofFrontendUrl monitor.frontendUrl)
  | found {outcome : Outcome} {endpoints : OAuthEndpoints} (isLocal : monitor.IsLocal)
      (asked : .called monitor.discoveryRequest outcome ∈ probed.events)
      (reads : Reads outcome endpoints) : Finds monitor probed endpoints
  | lost {outcome : Outcome} (isLocal : monitor.IsLocal)
      (asked : .called monitor.discoveryRequest outcome ∈ probed.events)
      (unreadable : ∀ endpoints : OAuthEndpoints, ¬ Reads outcome endpoints) :
      Finds monitor probed .empty

/-- What a single probe comes to. -/
structure Step (monitor : HealthMonitor) (probed : Probed) : Prop where
  /-- The probe pings once, first of all. It asks the cluster for the endpoints at most once after
  that, and only when it looks them up beside a local front end. -/
  events : ∃ ping, probed.events = [.called monitor.pingRequest ping] ∨
    probed.LooksUp ∧ monitor.IsLocal ∧ ∃ discovery, probed.events =
      [.called monitor.pingRequest ping, .called monitor.discoveryRequest discovery]
  live : LiveAfter monitor probed.before.live probed.events probed.after.live
  /-- The result of a ping or of a probe of the liveness is whether the ping was answered. -/
  pinged : probed.probe ≠ .readiness → (probed.result = true ↔ PingAnswered monitor probed.events)
  /-- A service is ready when, beside this, the endpoints that are known then are not empty. -/
  ready : probed.probe = .readiness → (probed.result = true ↔
    PingAnswered monitor probed.events ∧
      ∃ endpoints, probed.after.endpoints = some endpoints ∧ endpoints.authorization ≠ "")
  /-- The endpoints are looked up by a probe of the readiness whose ping was answered. -/
  looksUp : probed.LooksUp ↔ probed.probe = .readiness ∧ PingAnswered monitor probed.events ∧
    probed.before.endpoints = none
  finds : ∀ endpoints, probed.LooksUp → probed.after.endpoints = some endpoints →
    probed.Finds monitor endpoints
  /-- Endpoints that are known stay. -/
  keeps : ∀ endpoints, probed.before.endpoints = some endpoints →
    probed.after.endpoints = some endpoints

variable {probe : Probe} {before after : Health} {events : List Event} {result up : Bool}

/-- What a probe that only pings comes to. -/
theorem Step.of_pinged (hprobe : probe ≠ .readiness)
    (h : Pinged monitor before events result after) :
    Step monitor ⟨probe, before, events, result, after⟩ where
  events := by
    obtain ⟨ping, hping⟩ := h.events_eq
    exact ⟨ping, .inl hping⟩
  live := h.liveAfter
  pinged := fun _ => h.answered_iff
  ready := fun hready => absurd hready hprobe
  looksUp := by
    refine ⟨fun hlooks => ?_, fun hready => absurd hready.1 hprobe⟩
    exact absurd (h.endpoints.trans hlooks.1) hlooks.2
  finds := fun _ hlooks => absurd (h.endpoints.trans hlooks.1) hlooks.2
  keeps := fun _ hknown => h.endpoints.trans hknown

theorem isEmpty_not_iff {text : String} : (!text.isEmpty) = true ↔ text ≠ "" := by simp

/-- What a probe of the readiness comes to that does not look the endpoints up. -/
theorem Step.of_kept (h : Pinged monitor before events up after)
    (hknown : up = true → ∃ endpoints, before.endpoints = some endpoints ∧
      result = !endpoints.authorization.isEmpty)
    (hdown : up = false → result = false) :
    Step monitor ⟨.readiness, before, events, result, after⟩ where
  events := by
    obtain ⟨ping, hping⟩ := h.events_eq
    exact ⟨ping, .inl hping⟩
  live := h.liveAfter
  pinged := fun hne => absurd rfl hne
  ready := by
    rintro -
    show result = true ↔ PingAnswered monitor events ∧
      ∃ endpoints, after.endpoints = some endpoints ∧ endpoints.authorization ≠ ""
    rw [← h.answered_iff, h.endpoints]
    cases up with
    | false => simp [hdown rfl]
    | true =>
      obtain ⟨endpoints, hbefore, hresult⟩ := hknown rfl
      rw [hresult, hbefore, isEmpty_not_iff]
      simp
  looksUp := by
    refine ⟨fun hlooks => absurd (h.endpoints.trans hlooks.1) hlooks.2, ?_⟩
    rintro ⟨-, hanswered, hunknown⟩
    obtain ⟨endpoints, hbefore, -⟩ := hknown (h.answered_iff.2 hanswered)
    cases hbefore.symm.trans hunknown
  finds := fun _ hlooks => absurd (h.endpoints.trans hlooks.1) hlooks.2
  keeps := fun _ hknown => h.endpoints.trans hknown

/-- What a probe of the readiness comes to that looks the endpoints up, with or without a question
to the cluster. -/
theorem Step.of_lookup {middle : Health} {asking : List Event} {endpoints : OAuthEndpoints}
    (h : Pinged monitor before events true middle) (unknown : before.endpoints = none)
    (hasking : asking = [] ∨ monitor.IsLocal ∧ ∃ discovery,
      asking = [.called monitor.discoveryRequest discovery])
    (hlive : LiveAfter monitor true asking after.live)
    (hafter : after.endpoints = some endpoints)
    (hresult : result = !endpoints.authorization.isEmpty)
    (hfinds : Finds monitor ⟨.readiness, before, events ++ asking, result, after⟩ endpoints) :
    Step monitor ⟨.readiness, before, events ++ asking, result, after⟩ := by
  have hlooks : LooksUp ⟨.readiness, before, events ++ asking, result, after⟩ :=
    ⟨unknown, by simp [hafter]⟩
  have hanswered : PingAnswered monitor (events ++ asking) := by
    rcases hasking with rfl | ⟨-, discovery, rfl⟩
    · rw [List.append_nil]
      exact h.answered_iff.1 rfl
    · exact pingAnswered_append.2 (h.answered_iff.1 rfl)
  constructor
  case events =>
    obtain ⟨ping, rfl⟩ := h.events_eq
    rcases hasking with rfl | ⟨hlocal, discovery, rfl⟩
    · exact ⟨ping, .inl rfl⟩
    · exact ⟨ping, .inr ⟨hlooks, hlocal, discovery, rfl⟩⟩
  case live => exact h.liveAfter.append (h.live.symm ▸ hlive)
  case pinged => exact fun hne => absurd rfl hne
  case ready =>
    rintro -
    refine ⟨fun hready => ⟨hanswered, endpoints, hafter, ?_⟩, ?_⟩
    · exact isEmpty_not_iff.1 (hresult ▸ hready)
    · rintro ⟨-, other, hother, hne⟩
      cases hafter.symm.trans hother
      exact hresult.trans (isEmpty_not_iff.2 hne)
  case looksUp => exact ⟨fun _ => ⟨rfl, hanswered, unknown⟩, fun _ => hlooks⟩
  case finds =>
    intro other _ hother
    cases hafter.symm.trans hother
    exact hfinds
  case keeps => exact fun _ hknown => nomatch unknown.symm.trans hknown

theorem Step.of_readied (h : Readied monitor before events result after) :
    Step monitor ⟨.readiness, before, events, result, after⟩ := by
  cases h with
  | unpinged pinged => exact .of_kept pinged nofun fun _ => rfl
  | known pinged known => exact .of_kept pinged (fun _ => ⟨_, known, rfl⟩) nofun
  | @derived events middle pinged unknown remote =>
    rw [← List.append_nil events]
    refine .of_lookup pinged unknown (.inl rfl) (pinged.live ▸ .nil) rfl rfl (.derived remote ?_)
    intro outcome hmem
    obtain ⟨ping, rfl⟩ := pinged.events_eq
    have hsame := (Event.called.inj (List.mem_singleton.1 hmem)).1
    exact monitor.pingRequest_ne_discoveryRequest hsame.symm
  | found pinged unknown isLocal reads =>
    refine .of_lookup pinged unknown (.inr ⟨isLocal, _, rfl⟩) ?_ rfl rfl
      (.found isLocal (List.mem_append_right _ (List.mem_singleton_self _)) reads)
    rw [pinged.live]
    exact .undecided fun verdict h => h.unreadable _ reads
  | lost pinged unknown isLocal unreadable =>
    exact .of_lookup pinged unknown (.inr ⟨isLocal, _, rfl⟩) (.decided (.lost unreadable)) rfl rfl
      (.lost isLocal (List.mem_append_right _ (List.mem_singleton_self _)) unreadable)

theorem step_of_runs {probed : Probed}
    (h : ((monitor.probe probed.probe).run probed.before).Runs probed.events
      (probed.result, probed.after)) : Step monitor probed := by
  obtain ⟨probe, before, events, result, after⟩ := probed
  cases probe with
  | ping => exact .of_pinged nofun (HealthMonitor.ping_runs h)
  | liveness => exact .of_pinged nofun (HealthMonitor.isLive_runs h)
  | readiness => exact .of_readied (HealthMonitor.isReady_runs h)

end Probed

/-! ## A whole history -/

namespace Watches

variable {before last : Health} {probes : List Probed}

theorem step (h : Watches monitor before probes last) :
    ∀ probed ∈ probes, probed.Step monitor := by
  induction h with
  | nil health => exact nofun
  | cons runs later ih =>
    intro other hmem
    rcases List.mem_cons.1 hmem with rfl | hmem
    · exact Probed.step_of_runs runs
    · exact ih other hmem

/-- The flag is decided by the events of all probes together. -/
theorem liveAfter (h : Watches monitor before probes last) :
    LiveAfter monitor before.live (probes.flatMap Probed.events) last.live := by
  induction h with
  | nil health => exact .nil
  | cons runs later ih =>
    rw [List.flatMap_cons]
    exact (Probed.step_of_runs runs).live.append ih

/-- Endpoints that are known stay through all later probes. -/
theorem keeps (h : Watches monitor before probes last) {endpoints : OAuthEndpoints}
    (hknown : before.endpoints = some endpoints) :
    ∀ probed ∈ probes, probed.before.endpoints = some endpoints ∧
      probed.after.endpoints = some endpoints := by
  induction h with
  | nil health => exact nofun
  | cons runs later ih =>
    have hafter := (Probed.step_of_runs runs).keeps endpoints hknown
    intro other hmem
    rcases List.mem_cons.1 hmem with rfl | hmem
    · exact ⟨hknown, hafter⟩
    · exact ih hafter other hmem

/-- So they are known in the end. -/
theorem keeps_last (h : Watches monitor before probes last) {endpoints : OAuthEndpoints}
    (hknown : before.endpoints = some endpoints) : last.endpoints = some endpoints := by
  induction h with
  | nil health => exact hknown
  | cons runs later ih => exact ih ((Probed.step_of_runs runs).keeps endpoints hknown)

theorem append {middle : Health} {more : List Probed} (h : Watches monitor before probes middle)
    (h' : Watches monitor middle more last) : Watches monitor before (probes ++ more) last := by
  induction h with
  | nil health => exact h'
  | cons runs later ih => exact .cons runs (ih h')

theorem split {earlier later : List Probed} {probed : Probed}
    (h : Watches monitor before (earlier ++ probed :: later) last) :
    Watches monitor before earlier probed.before := by
  induction earlier generalizing before with
  | nil =>
    cases h with
    | cons runs later => exact .nil _
  | cons other earlier ih =>
    cases h with
    | cons runs later => exact .cons runs (ih later)

/-- What a probe leaves of the endpoints, later probes find and leave. -/
theorem memoized (h : Watches monitor before probes last) :
    probes.Pairwise fun earlier later => ∀ endpoints,
      earlier.after.endpoints = some endpoints → later.before.endpoints = some endpoints ∧
        later.after.endpoints = some endpoints := by
  induction h with
  | nil health => exact .nil
  | cons runs later ih =>
    exact List.pairwise_cons.2 ⟨fun other hmem _ hafter => later.keeps hafter other hmem, ih⟩

end Watches

/-- Plays probes one after the other; the results are in their order. -/
def HealthMonitor.play {σ : Type} (monitor : HealthMonitor) (outside : Outside σ) :
    List Probe → Health → World σ → Option (List Bool × Health × World σ)
  | [], health, world => some ([], health, world)
  | probe :: probes, health, world =>
    (((monitor.probe probe).run health).run outside world).bind fun ((result, health), world) =>
      (monitor.play outside probes health world).map fun (results, last) =>
        (result :: results, last)

/-- Every play of probes is a history. -/
theorem Watches.of_play {σ : Type} {outside : Outside σ} {kinds : List Probe}
    {before last : Health} {world after : World σ} {results : List Bool}
    (h : monitor.play outside kinds before world = some (results, last, after)) :
    ∃ probes, Watches monitor before probes last ∧ probes.map Probed.probe = kinds ∧
      probes.map Probed.result = results := by
  induction kinds generalizing before world results with
  | nil =>
    cases h
    exact ⟨[], .nil _, rfl, rfl⟩
  | cons kind kinds ih =>
    obtain ⟨⟨⟨result, health⟩, middle⟩, hprobe, hrest⟩ := Option.bind_eq_some_iff.1 h
    obtain ⟨⟨later, rest⟩, hplay, heq⟩ := Option.map_eq_some_iff.1 hrest
    cases heq
    obtain ⟨events, hruns, -⟩ := Session.run_eq_some hprobe
    obtain ⟨probes, hwatches, rfl, rfl⟩ := ih hplay
    let probed : Probed := ⟨kind, before, events, result, health⟩
    exact ⟨probed :: probes, @Watches.cons monitor probed probes last hruns hwatches, rfl, rfl⟩

/-! ## A cluster that publishes its endpoints late -/

/-- The endpoints that the sample cluster publishes. -/
def sampleEndpoints : OAuthEndpoints := ⟨"https://o/authorize", "https://o/token"⟩

/-- A cluster at the URL `c` that answers pings, and publishes its endpoints from the second read
on. -/
def Script.lateDiscovery : Script := fun _ url number =>
  if url = "c/apis" then Script.answer 200 .null
  else if number = 0 then Script.answer 404 .null
  else Script.answer 200 (encode sampleEndpoints)

/-- The monitor of a service beside a local front end. -/
def HealthMonitor.sample : HealthMonitor := ⟨⟨"c"⟩, ⟨"service"⟩, "https://localhost:9000"⟩

theorem play_lateDiscovery :
    (HealthMonitor.sample.play (Script.lateDiscovery.outside Script.plainIssuer .standard)
      [.readiness, .liveness, .readiness] .initial (.start .none)).map
        (fun played => (played.1, played.2.1)) =
      some ([false, true, false], ⟨true, some .empty⟩) := by
  decide +kernel

/-! ## What a history comes to -/

/-- What a history of probes comes to. -/
structure Watched (monitor : HealthMonitor) (probes : List Probed) (last : Health) : Prop where
  /-- The service is live as the last event that decides says, and as long as there was none. -/
  live : LiveAfter monitor true (probes.flatMap Probed.events) last.live
  steps : ∀ probed ∈ probes, probed.Step monitor
  /-- The endpoints are looked up at most once. -/
  once : probes.Pairwise fun earlier later => ¬ (earlier.LooksUp ∧ later.LooksUp)
  /-- All later probes use the endpoints that were found then. -/
  memoized : probes.Pairwise fun earlier later => ∀ endpoints,
    earlier.after.endpoints = some endpoints → later.before.endpoints = some endpoints ∧
      later.after.endpoints = some endpoints

/-- **The health over a history of probes**: whatever the cluster answers, the flag of the liveness
is decided by the last event that decides, and the endpoints by the first probe of the readiness
whose ping was answered. -/
theorem watches_watched {probes : List Probed} {last : Health}
    (h : Watches monitor .initial probes last) : Watched monitor probes last where
  live := h.liveAfter
  steps := h.step
  once := h.memoized.imp fun hkept hboth => by
    obtain ⟨endpoints, hfound⟩ := Option.ne_none_iff_exists'.1 hboth.1.2
    cases hboth.2.1.symm.trans (hkept endpoints hfound).1
  memoized := h.memoized

/-- A service beside a local front end, whose cluster publishes its endpoints late: it is live
again after a failed discovery, but never ready. -/
theorem watches_watched_late :
    ∃ probes last, Watches .sample .initial probes last ∧
      probes.map Probed.probe = [.readiness, .liveness, .readiness] ∧
        probes.map Probed.result = [false, true, false] ∧
          last = ⟨true, some .empty⟩ ∧ Watched .sample probes last := by
  obtain ⟨⟨results, last, after⟩, hplay, heq⟩ := Option.map_eq_some_iff.1 play_lateDiscovery
  obtain ⟨probes, hwatches, hkinds, hresults⟩ := Watches.of_play hplay
  cases heq
  exact ⟨probes, _, hwatches, hkinds, hresults, rfl, watches_watched hwatches⟩

end EdgeSetup
