import EdgeSetup.Health.Probe
import EdgeSetup.Proofs.Cluster.Addresses
import EdgeSetup.Proofs.Cluster.Calls

/-!
# What one probe can do

A probe pings the API server once and draws its conclusions from the answer (`Pinged`); a probe of
the readiness may then look for the OAuth endpoints (`Readied`). Every history of a probe is one of
these (`HealthMonitor.ping_runs`, `isLive_runs`, `isReady_runs`), so nothing below opens the
definitions of the probes again.
-/

namespace EdgeSetup

open Json Http

/-! ## The ping of the client -/

/-- A ping is one event, and its result is the status of the answer. -/
theorem Client.ping_runs {client : Client} {token : String} {events : List Event}
    {result : Except SetupError Nat} (h : Attempting.Runs (client.ping token) events result) :
    ∃ outcome, events = [.called (client.readRequest token Client.pingPath) outcome] ∧
      result = (outcome.mapError .transport).map Response.status := by
  rcases Attempting.runs_bind.1 h with
    ⟨error, rfl, hcall⟩ | ⟨first, rest, response, rfl, hcall, hrest⟩
  · obtain ⟨outcome, rfl, hresult⟩ := Client.exchange_result hcall
    exact ⟨outcome, rfl, by rw [← hresult]; rfl⟩
  · obtain ⟨outcome, rfl, hresult⟩ := Client.exchange_result hcall
    obtain ⟨rfl, rfl⟩ := Attempting.runs_pure.1 hrest
    exact ⟨outcome, rfl, by rw [← hresult]; rfl⟩

/-! ## Requests of the probes -/

namespace HealthMonitor

variable (monitor : HealthMonitor)

/-- The ping of the API server. -/
def pingRequest : Request :=
  monitor.client.readRequest monitor.serviceToken.expose Client.pingPath

/-- The read of the document with the OAuth endpoints. -/
def discoveryRequest : Request := monitor.client.readRequest "" discoveryPath

/-- The OAuth endpoints are looked up in the cluster. -/
def IsLocal : Prop := Text.startsWith localFrontend monitor.frontendUrl = true

theorem pingRequest_ne_discoveryRequest : monitor.pingRequest ≠ monitor.discoveryRequest := by
  intro h
  have hurl := congrArg Request.url h
  rw [pingRequest, discoveryRequest, Client.readRequest_url, Client.readRequest_url,
    Client.url_inj] at hurl
  exact absurd hurl (by decide)

end HealthMonitor

/-! ## Pings -/

/-- The failure means that the API server is down. -/
def Http.Failure.IsDown (failure : Failure) : Prop :=
  failure.kind = .networkError ∨ failure.kind = .notFound

/-- What a ping can do: an answer decides whether the service is live, and so does a failure that
means that the API server is down; other failures leave the health as it was. -/
inductive Pinged (monitor : HealthMonitor) (before : Health) :
    List Event → Bool → Health → Prop where
  | answered {response : Response} {live : Bool} (same : live = (response.status == 200)) :
      Pinged monitor before [.called monitor.pingRequest (.ok response)] live { before with live }
  | down {failure : Failure} (isDown : failure.IsDown) :
      Pinged monitor before [.called monitor.pingRequest (.error failure)] false
        { before with live := false }
  | undecided {failure : Failure} (notDown : ¬ failure.IsDown) :
      Pinged monitor before [.called monitor.pingRequest (.error failure)] false before

/-- After a ping that was answered with 200 the service is live. -/
theorem Pinged.live {monitor : HealthMonitor} {before after : Health} {events : List Event}
    (h : Pinged monitor before events true after) : after.live = true := by
  cases h with
  | answered same => rfl

namespace HealthMonitor

variable {monitor : HealthMonitor} {before after : Health} {events : List Event} {result : Bool}

/-- A ping is one call and what its verdict makes of the health. -/
theorem ping_run (monitor : HealthMonitor) (before : Health) :
    monitor.ping.run before =
      (monitor.client.ping monitor.serviceToken.expose).run.bind fun status =>
        .done (verdict? status == some true,
          (verdict? status).elim before fun live => { before with live }) := by
  show Session.bind (Session.bind _ _) _ = _
  rw [Session.bind_assoc]
  refine congrArg _ (funext fun status => ?_)
  simp only [Session.pure_eq, Session.bind]
  generalize verdict? status = verdict
  cases verdict <;> rfl

/-- What the outcome of a ping makes of the health is one of the things that a ping can do. -/
theorem pinged_outcome (monitor : HealthMonitor) (before : Health) (outcome : Outcome) :
    Pinged monitor before [.called monitor.pingRequest outcome]
      (verdict? ((outcome.mapError .transport).map Response.status) == some true)
      ((verdict? ((outcome.mapError .transport).map Response.status)).elim before
        fun live => { before with live }) := by
  cases outcome with
  | ok response =>
    have hverdict : verdict? (.ok response.status) = some (response.status == 200) := rfl
    show Pinged _ _ _ (verdict? (.ok response.status) == some true)
      ((verdict? (.ok response.status)).elim before fun live => { before with live })
    rw [hverdict]
    have hsame : (some (response.status == 200) == some true) = (response.status == 200) := by
      cases response.status == 200 <;> rfl
    rw [hsame]
    exact .answered rfl
  | error failure =>
    show Pinged _ _ _ (verdict? (.error (.transport failure)) == some true)
      ((verdict? (.error (.transport failure))).elim before fun live => { before with live })
    by_cases hdown : failure.kind = .networkError ∨ failure.kind = .notFound
    · have hverdict : verdict? (.error (.transport failure)) = some false := by
        rcases hdown with hkind | hkind <;> simp [verdict?, hkind]
      rw [hverdict]
      exact .down hdown
    · have hverdict : verdict? (.error (.transport failure)) = none := by
        simpa [verdict?] using hdown
      rw [hverdict]
      exact .undecided hdown

theorem ping_runs (h : (monitor.ping.run before).Runs events (result, after)) :
    Pinged monitor before events result after := by
  rw [ping_run] at h
  obtain ⟨first, rest, status, rfl, hping, hrest⟩ := Session.runs_bind.1 h
  obtain ⟨outcome, rfl, rfl⟩ := Client.ping_runs hping
  obtain ⟨rfl, hresult⟩ := Session.runs_done.1 hrest
  cases hresult
  exact pinged_outcome monitor before outcome

theorem isLive_run (monitor : HealthMonitor) (before : Health) :
    monitor.isLive.run before = (monitor.ping.run before).bind fun pinged =>
      .done (pinged.1 && pinged.2.live, pinged.2) := by
  show Session.bind _ _ = _
  refine congrArg _ (funext fun pinged => ?_)
  obtain ⟨up, health⟩ := pinged
  cases up <;> rfl

theorem isLive_runs (h : (monitor.isLive.run before).Runs events (result, after)) :
    Pinged monitor before events result after := by
  rw [isLive_run] at h
  obtain ⟨first, rest, ⟨up, health⟩, rfl, hping, hrest⟩ := Session.runs_bind.1 h
  obtain ⟨rfl, hresult⟩ := Session.runs_done.1 hrest
  have hpinged := ping_runs hping
  cases hresult
  rw [List.append_nil]
  cases up with
  | false => exact hpinged
  | true =>
    show Pinged monitor before first health.live health
    rw [hpinged.live]
    exact hpinged

/-! ## The OAuth endpoints -/

theorem discover_run (monitor : HealthMonitor) (before : Health) :
    (monitor.discover monitor.frontendUrl).run before =
      if Text.startsWith localFrontend monitor.frontendUrl then
        (monitor.client.getPath OAuthEndpoints "" discoveryPath).run.bind fun found =>
          match found with
          | .ok endpoints => .done (endpoints, before)
          | .error _ => .done (.empty, { before with live := false })
      else .done (.ofFrontendUrl monitor.frontendUrl, before) := by
  unfold discover
  split
  · show Session.bind (Session.bind _ _) _ = _
    rw [Session.bind_assoc]
    refine congrArg _ (funext fun found => ?_)
    cases found <;> rfl
  · rfl

theorem endpoints_run (monitor : HealthMonitor) (before : Health) :
    (monitor.endpoints monitor.frontendUrl).run before =
      match before.endpoints with
      | some known => .done (known, before)
      | none => ((monitor.discover monitor.frontendUrl).run before).bind fun found =>
          .done (found.1, { found.2 with endpoints := some found.1 }) := by
  obtain ⟨live, endpoints⟩ := before
  cases endpoints with
  | some known => rfl
  | none => rfl

theorem isReady_run (monitor : HealthMonitor) (before : Health) :
    monitor.isReady.run before = (monitor.isLive.run before).bind fun pinged =>
      if pinged.1 then
        ((monitor.endpoints monitor.frontendUrl).run pinged.2).bind fun found =>
          .done (!found.1.authorization.isEmpty, found.2)
      else .done (false, pinged.2) := by
  show Session.bind _ _ = _
  refine congrArg _ (funext fun ⟨up, health⟩ => ?_)
  cases up <;> rfl

end HealthMonitor

/-- What a probe of the readiness can do: after a ping that was answered with 200, the endpoints
are looked up when they are not known yet. Beside a local front end the cluster is asked, and when
that fails, the endpoints are taken to be empty. -/
inductive Readied (monitor : HealthMonitor) (before : Health) :
    List Event → Bool → Health → Prop where
  | unpinged {events : List Event} {after : Health}
      (pinged : Pinged monitor before events false after) :
      Readied monitor before events false after
  | known {events : List Event} {after : Health} {endpoints : OAuthEndpoints}
      (pinged : Pinged monitor before events true after)
      (known : before.endpoints = some endpoints) :
      Readied monitor before events (!endpoints.authorization.isEmpty) after
  | derived {events : List Event} {after : Health}
      (pinged : Pinged monitor before events true after) (unknown : before.endpoints = none)
      (remote : ¬ monitor.IsLocal) :
      Readied monitor before events
        (!(OAuthEndpoints.ofFrontendUrl monitor.frontendUrl).authorization.isEmpty)
        { after with endpoints := some (.ofFrontendUrl monitor.frontendUrl) }
  | found {events : List Event} {after : Health} {outcome : Outcome} {endpoints : OAuthEndpoints}
      (pinged : Pinged monitor before events true after) (unknown : before.endpoints = none)
      (isLocal : monitor.IsLocal) (reads : Reads outcome endpoints) :
      Readied monitor before (events ++ [.called monitor.discoveryRequest outcome])
        (!endpoints.authorization.isEmpty) { after with endpoints := some endpoints }
  | lost {events : List Event} {after : Health} {outcome : Outcome}
      (pinged : Pinged monitor before events true after) (unknown : before.endpoints = none)
      (isLocal : monitor.IsLocal)
      (unreadable : ∀ endpoints : OAuthEndpoints, ¬ Reads outcome endpoints) :
      Readied monitor before (events ++ [.called monitor.discoveryRequest outcome]) false
        ⟨false, some .empty⟩

/-- A ping leaves the endpoints. -/
theorem Pinged.endpoints {monitor : HealthMonitor} {before after : Health} {events : List Event}
    {up : Bool} (h : Pinged monitor before events up after) :
    after.endpoints = before.endpoints := by
  cases h <;> rfl

namespace HealthMonitor

variable {monitor : HealthMonitor} {before after : Health} {events : List Event} {result : Bool}

/-- Looking the endpoints up takes a call beside a local front end, and none otherwise. -/
theorem discover_runs {endpoints : OAuthEndpoints}
    (h : ((monitor.discover monitor.frontendUrl).run before).Runs events (endpoints, after)) :
    (¬ monitor.IsLocal ∧ events = [] ∧ endpoints = .ofFrontendUrl monitor.frontendUrl ∧
        after = before) ∨
      monitor.IsLocal ∧ ∃ outcome, events = [.called monitor.discoveryRequest outcome] ∧
        (Reads outcome endpoints ∧ after = before ∨
          (∀ endpoints : OAuthEndpoints, ¬ Reads outcome endpoints) ∧ endpoints = .empty ∧
            after = { before with live := false }) := by
  rw [discover_run] at h
  split at h
  · next hlocal =>
    obtain ⟨first, rest, found, rfl, hread, hrest⟩ := Session.runs_bind.1 h
    obtain ⟨outcome, rfl, hfound⟩ := Client.getPath_runs hread
    refine .inr ⟨hlocal, outcome, ?_⟩
    cases found with
    | ok read =>
      obtain ⟨rfl, hresult⟩ := Session.runs_done.1 hrest
      cases hresult
      exact ⟨rfl, .inl ⟨(hfound _).1 rfl, rfl⟩⟩
    | error error =>
      obtain ⟨rfl, hresult⟩ := Session.runs_done.1 hrest
      cases hresult
      refine ⟨rfl, .inr ⟨fun endpoints hreads => ?_, rfl, rfl⟩⟩
      cases (hfound endpoints).2 hreads
  · next hremote =>
    obtain ⟨rfl, hresult⟩ := Session.runs_done.1 h
    cases hresult
    exact .inl ⟨hremote, rfl, rfl, rfl⟩

theorem isReady_runs (h : (monitor.isReady.run before).Runs events (result, after)) :
    Readied monitor before events result after := by
  rw [isReady_run] at h
  obtain ⟨first, rest, ⟨up, middle⟩, rfl, hlive, hrest⟩ := Session.runs_bind.1 h
  have hpinged := isLive_runs hlive
  cases up with
  | false =>
    obtain ⟨rfl, hresult⟩ := Session.runs_done.1 hrest
    cases hresult
    rw [List.append_nil]
    exact .unpinged hpinged
  | true =>
    obtain ⟨looking, last, ⟨endpoints, found⟩, rfl, hfound, hlast⟩ := Session.runs_bind.1 hrest
    obtain ⟨rfl, hresult⟩ := Session.runs_done.1 hlast
    cases hresult
    rw [endpoints_run] at hfound
    rw [List.append_nil]
    cases hknown : middle.endpoints with
    | some known =>
      rw [hknown] at hfound
      obtain ⟨rfl, hresult⟩ := Session.runs_done.1 hfound
      cases hresult
      rw [List.append_nil]
      exact .known hpinged (hpinged.endpoints ▸ hknown)
    | none =>
      rw [hknown] at hfound
      have hunknown : before.endpoints = none := hpinged.endpoints ▸ hknown
      obtain ⟨asking, closing, ⟨read, health⟩, rfl, hdiscover, hclosing⟩ :=
        Session.runs_bind.1 hfound
      obtain ⟨rfl, hresult⟩ := Session.runs_done.1 hclosing
      cases hresult
      rw [List.append_nil]
      rcases discover_runs hdiscover with ⟨hremote, rfl, rfl, rfl⟩ |
        ⟨hlocal, outcome, rfl, ⟨hreads, rfl⟩ | ⟨hunreadable, rfl, rfl⟩⟩
      · rw [List.append_nil]
        exact .derived hpinged hunknown hremote
      · exact .found hpinged hunknown hlocal hreads
      · exact .lost hpinged hunknown hlocal hunreadable

end HealthMonitor

end EdgeSetup
