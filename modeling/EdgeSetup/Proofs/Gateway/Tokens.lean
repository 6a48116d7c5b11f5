import EdgeSetup.Proofs.Cluster.Scripts
import EdgeSetup.Proofs.DomainChange.Tokens
import EdgeSetup.Proofs.Gateway.Routes
import EdgeSetup.Proofs.Health.Histories
import EdgeSetup.Proofs.StaticIps.Tokens
import EdgeSetup.Proofs.Text.Pieces

/-!
# Whose token is sent

A token that is found in the headers of a request can be sent on (`extractToken?_sendable`): what is
read as a text has no character that a header may not hold, and a blank token is none.

**Main theorem (`serve_actsForCaller`).** A post to a protected endpoint does nothing without a
token. With one, all that it sends bears this token; under another token it would do the same but
for the token of its requests; and the token of the service has no part in it, for that is sent by
pings only.
-/

namespace EdgeSetup

open Json Http Http.Request

/-! ## Extracted tokens -/

theorem isLegalValue_append (first rest : String) :
    isLegalValue (first ++ rest) = (isLegalValue first && isLegalValue rest) := by
  rw [isLegalValue, String.toList_append, List.all_append]
  rfl

/-- What is cut out of a readable value may be sent in a value. -/
theorem isLegalValue_of_sublist {header : String} {chars : List Char}
    (hreadable : isReadableValue header = true) (h : chars.Sublist header.toList) :
    isLegalValue (String.ofList chars) = true := by
  rw [isLegalValue, String.toList_ofList, List.all_eq_true]
  intro c hc
  have hchar := List.all_eq_true.1 hreadable c (h.subset hc)
  simp only [Bool.or_eq_true, Bool.and_eq_true, decide_eq_true_eq] at hchar ⊢
  exact hchar.imp_right fun hprintable => by omega

theorem isSendable_of_nonBlank? {text : List Char} {header token : String}
    (hreadable : isReadableValue header = true) (hsublist : text.Sublist header.toList)
    (h : nonBlank? text = some token) : IsSendable token := by
  have hchars : (Text.trim text).Sublist header.toList := (Text.trim_sublist text).trans hsublist
  unfold nonBlank? at h
  cases htrim : Text.trim text with
  | nil =>
    rw [htrim] at h
    cases h
  | cons c chars =>
    rw [htrim] at h hchars
    cases h
    constructor
    case nonempty =>
      intro hempty
      simpa using congrArg String.toList hempty
    case legal =>
      rw [isLegalValue_append, isLegalValue_of_sublist hreadable hchars]
      rfl

theorem exists_header_of_mem_cookies {headers : List String} {cookie : List Char × List Char}
    (h : cookie ∈ cookies headers) : ∃ header ∈ headers, cookie.2.Sublist header.toList := by
  obtain ⟨header, hheader, hmem⟩ := List.mem_flatMap.1 h
  obtain ⟨piece, hpiece, hcookie⟩ := List.mem_filterMap.1 hmem
  have hcut : (Text.trim piece).Sublist header.toList :=
    (Text.trim_sublist piece).trans (Text.sublist_of_mem_splitOn hpiece)
  rw [Text.cutAt?_eq_some hcookie] at hcut
  exact ⟨header, hheader,
    ((List.sublist_cons_self _ _).trans (List.sublist_append_right _ _)).trans hcut⟩

/-- **A token that is found can be sent**, whatever the headers are. -/
theorem extractToken?_sendable {headers : Headers} {token : String}
    (h : extractToken? headers = some token) : IsSendable token := by
  rcases Option.or_eq_some_iff.1 h with hcookie | ⟨-, hbearer⟩
  · obtain ⟨cookie, hfind, hvalue⟩ := Option.bind_eq_some_iff.1 hcookie
    obtain ⟨header, hheader, hsublist⟩ :=
      exists_header_of_mem_cookies (List.mem_of_find?_eq_some hfind)
    exact isSendable_of_nonBlank? (List.mem_filter.1 hheader).2 hsublist hvalue
  · obtain ⟨header, hheader, hrest⟩ := Option.bind_eq_some_iff.1 hbearer
    obtain ⟨text, htext, hvalue⟩ := Option.bind_eq_some_iff.1 hrest
    have hsublist : text.Sublist header.toList := by
      rw [Text.stripStart?_eq_some_iff.1 htext]
      exact List.sublist_append_right _ _
    exact isSendable_of_nonBlank? (Option.filter_eq_some_iff.1 hheader).2 hsublist hvalue

/-! ## What the endpoints send -/

namespace Gateway

variable {gateway : Gateway} {timestamp token token' : String} {request request' : Incoming}
  {health : Health} {endpoint : Endpoint}

theorem withBody_alike {same : Request → Request → Prop} {α : Type} [Decode α]
    (hbody : request.body = request'.body) {next next' : α → Session Response}
    (hnext : ∀ body, Session.Alike same (next body) (next' body)) :
    Session.Alike same (withBody α request next) (withBody α request' next') := by
  unfold withBody
  rw [← hbody]
  split
  · exact .done _
  · cases decodeText? α request.body with
    | none => exact .done _
    | some body => exact hnext body

theorem changeDomain_alike (gateway : Gateway) (h : IsSendable token) (h' : IsSendable token')
    (hbody : request.body = request'.body) :
    Session.Alike (SameButToken token token') (gateway.changeDomain token request)
      (gateway.changeDomain token' request') :=
  withBody_alike hbody fun body =>
    (gateway.domainChange.run_alike h h' body).bind fun result => .done (ofDomainChange result)

theorem changeStaticIps_alike (gateway : Gateway) (h : IsSendable token)
    (h' : IsSendable token') (hbody : request.body = request'.body) :
    Session.Alike (SameButToken token token') (gateway.changeStaticIps token request)
      (gateway.changeStaticIps token' request') :=
  withBody_alike hbody fun body =>
    Session.Alike.bind (StaticIps.run_alike h h' gateway.domainChange.client body.hosts)
      fun result => .done (ofStaticIps result)

/-- The session of a protected endpoint. It does not depend on the monitor of the health. -/
structure Acts (gateway : Gateway) (endpoint : Endpoint)
    (act : String → Incoming → Session Response) : Prop where
  serves : ∀ monitor timestamp token request,
    { gateway with monitor }.serveEndpoint timestamp token request endpoint =
      StateT.lift (act token request)
  alike : ∀ {token token' : String}, IsSendable token → IsSendable token' →
    ∀ {request request' : Incoming}, request.body = request'.body →
      Session.Alike (SameButToken token token') (act token request) (act token' request')

theorem exists_acts (gateway : Gateway) (hprotected : endpoint.isProtected = true) :
    ∃ act, gateway.Acts endpoint act := by
  cases endpoint with
  | changeDomain =>
    exact ⟨gateway.changeDomain, fun _ _ _ _ => rfl, fun h h' _ _ hbody =>
      gateway.changeDomain_alike h h' hbody⟩
  | changeStaticIps =>
    exact ⟨gateway.changeStaticIps, fun _ _ _ _ => rfl, fun h h' _ _ hbody =>
      gateway.changeStaticIps_alike h h' hbody⟩
  | _ => cases hprotected

theorem Acts.onlySends {act : String → Incoming → Session Response}
    (hacts : gateway.Acts endpoint act) (h : IsSendable token) (request : Incoming) :
    (act token request).OnlySends (Bears token) :=
  (hacts.alike h h (rfl : request.body = request.body)).onlySends.mono fun _ ⟨_, hsame⟩ =>
    hsame.bears

/-! ## The token of the caller -/

/-- What it means that the service acts for the caller of a request. -/
structure ActsForCaller (gateway : Gateway) (timestamp : String) (health : Health)
    (request : Incoming) : Prop where
  /-- Without a token the request is turned away, and nothing is asked of the cluster or of the
  issuer. -/
  refused : extractToken? request.headers = none → ∃ response : Response,
    response.status = 401 ∧
      (gateway.serve timestamp request).run health = .done (response, health)
  /-- Every request that is sent has one Authorization header, which holds the token. -/
  bears : ∀ {token}, extractToken? request.headers = some token →
    ((gateway.serve timestamp request).run health).OnlySends (Bears token)
  /-- Under another token the same is done, but for the token of the requests, when the cluster
  answers alike. -/
  alike : ∀ (request' : Incoming) {token token' : String}, request.method = request'.method →
    request.path = request'.path → request.body = request'.body →
    extractToken? request.headers = some token → extractToken? request'.headers = some token' →
    ∀ {σ τ : Type} {R : σ → τ → Prop} {outside : Outside σ} {outside' : Outside τ},
      outside.Alike (SameButToken token token') R outside' →
      ∀ {world : World σ} {world' : World τ},
        World.Alike (SameButToken token token') R world world' →
        Option.Rel (fun p q => p.1 = q.1 ∧ World.Alike (SameButToken token token') R p.2 q.2)
          (((gateway.serve timestamp request).run health).run outside world)
          (((gateway.serve timestamp request').run health).run outside' world')
  /-- The monitor of the health, and so the token of the service, has no part in it. -/
  independent : ∀ monitor, ({ gateway with monitor }.serve timestamp request).run health =
    (gateway.serve timestamp request).run health

/-- A post to a protected endpoint acts for its caller. -/
theorem actsForCaller_of_isProtected (gateway : Gateway) (timestamp : String) (health : Health)
    (hmethod : request.method = .post)
    (hendpoint : Endpoint.ofPath? request.path = some endpoint)
    (hprotected : endpoint.isProtected = true) :
    gateway.ActsForCaller timestamp health request := by
  obtain ⟨act, hacts⟩ := gateway.exists_acts hprotected
  have hserve : ∀ monitor {request : Incoming} {token}, request.method = .post →
      Endpoint.ofPath? request.path = some endpoint →
      extractToken? request.headers = some token →
      ({ gateway with monitor }.serve timestamp request).run health =
        (act token request).bind fun response => .done (gateway.allowing response, health) :=
    fun monitor _ _ hmethod hendpoint htoken =>
      serve_post hmethod hendpoint hprotected htoken (hacts.serves monitor _ _ _)
  constructor
  case refused =>
    intro htoken
    exact ⟨_, allowing_status _, serve_refused hmethod hendpoint hprotected htoken⟩
  case bears =>
    intro token htoken
    rw [hserve gateway.monitor hmethod hendpoint htoken]
    exact (hacts.onlySends (extractToken?_sendable htoken) request).bind fun _ => .done _
  case alike =>
    intro request' token token' hmethods hpaths hbodies htoken htoken' σ τ R outside outside'
      houtside world world' hworld
    rw [hserve gateway.monitor hmethod hendpoint htoken,
      hserve gateway.monitor (hmethods ▸ hmethod) (hpaths ▸ hendpoint) htoken']
    have halike := hacts.alike (extractToken?_sendable htoken) (extractToken?_sendable htoken')
      hbodies
    exact (halike.bind fun response => .done (gateway.allowing response, health)).run houtside
      (fun hsame => hsame.method) hworld
  case independent =>
    intro monitor
    cases htoken : extractToken? request.headers with
    | none =>
      rw [serve_refused hmethod hendpoint hprotected htoken,
        serve_refused hmethod hendpoint hprotected htoken]
      rfl
    | some token =>
      rw [hserve monitor hmethod hendpoint htoken, hserve gateway.monitor hmethod hendpoint htoken]

/-! ## The token of the service -/

/-- What it means that the token of the service is sent by pings only. -/
structure KeepsServiceToken (gateway : Gateway) : Prop where
  /-- Pings are sent with the token of the service. -/
  pings : IsSendable gateway.monitor.serviceToken.expose →
    gateway.monitor.pingRequest.Bears gateway.monitor.serviceToken.expose
  /-- What a probe sends beside its ping has no token. -/
  probes : ∀ probe health, ((gateway.monitor.probe probe).run health).OnlySends fun sent =>
    sent = gateway.monitor.pingRequest ∨ sent.IsAnonymous
  /-- What is sent for a request beside a ping has no token, or it has the token of the caller. -/
  served : ∀ timestamp request health,
    ((gateway.serve timestamp request).run health).OnlySends fun sent =>
      sent = gateway.monitor.pingRequest ∨ sent.IsAnonymous ∨
        ∃ token, extractToken? request.headers = some token ∧ sent.Bears token

theorem probe_onlySends (monitor : HealthMonitor) (probe : Probe) (health : Health) :
    ((monitor.probe probe).run health).OnlySends fun sent =>
      sent = monitor.pingRequest ∨ sent.IsAnonymous := by
  rintro events ⟨result, after⟩ hruns event hevent sent hsent
  have hstep : Probed.Step monitor ⟨probe, health, events, result, after⟩ :=
    Probed.step_of_runs hruns
  obtain ⟨ping, rfl | ⟨-, -, discovery, rfl⟩⟩ := hstep.events
  · rw [List.mem_singleton.1 hevent] at hsent
    exact .inl (List.mem_singleton.1 hsent)
  · rcases List.mem_pair.1 hevent with rfl | rfl
    · exact .inl (List.mem_singleton.1 hsent)
    · rw [List.mem_singleton.1 hsent]
      exact .inr (monitor.client.readRequest_anonymous _)

theorem served_onlySends (gateway : Gateway) (timestamp : String) (request : Incoming)
    (health : Health) :
    ((gateway.serve timestamp request).run health).OnlySends fun sent =>
      sent = gateway.monitor.pingRequest ∨ sent.IsAnonymous ∨
        ∃ token, extractToken? request.headers = some token ∧ sent.Bears token := by
  have hprobe : ∀ probe, (((ofHealth <$> gateway.monitor.probe probe :
      Watching Response)).run health).OnlySends fun sent =>
        sent = gateway.monitor.pingRequest ∨ sent.IsAnonymous := fun probe =>
    (probe_onlySends gateway.monitor probe health).bind fun _ => .done _
  have hanswers := gateway.serve_answers timestamp request health
  generalize (gateway.serve timestamp request).run health = session at *
  cases hanswers with
  | atOnce response => exact .done _
  | @byEndpoint endpoint token finish found shown =>
    refine Session.OnlySends.bind ?_ fun _ => .done _
    by_cases hprotected : endpoint.isProtected = true
    · obtain ⟨act, hacts⟩ := gateway.exists_acts hprotected
      have hsendable := extractToken?_sendable (shown hprotected)
      have hbears := (hacts.onlySends hsendable request).bind fun response =>
        .done (response, health)
      rw [hacts.serves gateway.monitor]
      exact hbears.mono fun sent hsent => .inr (.inr ⟨token, shown hprotected, hsent⟩)
    · cases endpoint with
      | ping => exact .done _
      | liveness => exact (hprobe .liveness).mono fun sent hsent => hsent.imp_right .inl
      | readiness => exact (hprobe .readiness).mono fun sent hsent => hsent.imp_right .inl
      | _ => exact absurd rfl hprotected

theorem keepsServiceToken (gateway : Gateway) : gateway.KeepsServiceToken where
  pings := bears_bearer
  probes := probe_onlySends gateway.monitor
  served := gateway.served_onlySends

/-- **Whose token is sent.** -/
theorem serve_actsForCaller (gateway : Gateway) (timestamp : String) (health : Health)
    (hmethod : request.method = .post)
    (hpath : request.path = "/changeDomain" ∨ request.path = "/changeStaticIps") :
    gateway.ActsForCaller timestamp health request ∧ gateway.KeepsServiceToken := by
  refine ⟨?_, gateway.keepsServiceToken⟩
  rcases hpath with hpath | hpath
  · have hendpoint : Endpoint.ofPath? request.path = some .changeDomain := by
      rw [hpath]
      rfl
    exact gateway.actsForCaller_of_isProtected timestamp health hmethod hendpoint rfl
  · have hendpoint : Endpoint.ofPath? request.path = some .changeStaticIps := by
      rw [hpath]
      rfl
    exact gateway.actsForCaller_of_isProtected timestamp health hmethod hendpoint rfl

/-- A scripted cluster does not look at tokens. -/
theorem outside_alike (script : Script) (issuer : String → Except SetupError CertificateBundle)
    (policy : RetryPolicy) :
    (script.outside issuer policy).Alike (SameButToken token token') Eq
      (script.outside issuer policy) :=
  script.outside_alike (fun hsame => ⟨hsame.method, hsame.url⟩) issuer policy

/-- A request for a new domain. -/
def domainRequest (headers : Headers) : Incoming :=
  ⟨.post, "/changeDomain", headers, (Value.object [("domain", .string "new.io")]).render⟩

/-- Two callers change the domain of a compliant cluster, one with a cookie, one with a header. -/
theorem serve_actsForCaller_compliant :
    let gateway : Gateway := ⟨none, .sample, .sample⟩
    let outside := (Script.compliant "apps.old.io").outside Script.plainIssuer .standard
    let request := domainRequest [("cookie", "theme=dark; k8s-access-token-cookie=alice")]
    let request' := domainRequest [("authorization", "Bearer bob")]
    gateway.ActsForCaller "now" .initial request ∧ gateway.KeepsServiceToken ∧
      ∃ response after after', response.status = 200 ∧ after.log.length = 17 ∧
        ((gateway.serve "now" request).run .initial).run outside (.start Attempts.none) =
          some ((response, .initial), after) ∧
        ((gateway.serve "now" request').run .initial).run outside (.start Attempts.none) =
          some ((response, .initial), after') ∧
        World.Alike (SameButToken "alice" "bob") Eq after after' := by
  intro gateway outside request request'
  have hpath : request.path = "/changeDomain" := by decide +kernel
  obtain ⟨hacts, hkeeps⟩ := serve_actsForCaller gateway "now" .initial rfl (.inl hpath)
  refine ⟨hacts, hkeeps, ?_⟩
  have hplay : (((gateway.serve "now" request).run .initial).run outside
      (.start Attempts.none)).map (fun served => (served.1.1.status, served.1.2,
        served.2.log.length)) = some (200, .initial, 17) := by decide +kernel
  have htoken : extractToken? request.headers = some "alice" := by decide +kernel
  have htoken' : extractToken? request'.headers = some "bob" := by decide +kernel
  have hbody : request.body = request'.body := rfl
  have houtside : outside.Alike (SameButToken "alice" "bob") Eq outside := outside_alike _ _ _
  have hworld : World.Alike (SameButToken "alice" "bob") Eq (.start Attempts.none)
      (.start Attempts.none) := .start rfl
  have halike := hacts.alike request' rfl rfl hbody htoken htoken' houtside hworld
  obtain ⟨⟨⟨response, health⟩, after⟩, hrun, hends⟩ := Option.map_eq_some_iff.1 hplay
  obtain ⟨hstatus, rfl, hlog⟩ : response.status = 200 ∧ health = .initial ∧
      after.log.length = 17 := by simpa using hends
  rw [hrun] at halike
  generalize ((gateway.serve "now" request').run .initial).run outside _ = run' at *
  cases halike with
  | @some _ reached' hsame =>
    obtain ⟨⟨_, _⟩, after'⟩ := reached'
    obtain ⟨hvalue, hafter⟩ := hsame
    cases hvalue
    exact ⟨response, after, after', hstatus, hlog, hrun, rfl, hafter⟩

end Gateway

end EdgeSetup
