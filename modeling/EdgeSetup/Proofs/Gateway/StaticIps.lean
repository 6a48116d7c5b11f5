import EdgeSetup.Proofs.Cluster.Scripts
import EdgeSetup.Proofs.Gateway.Routes
import EdgeSetup.Proofs.Host.DesiredStates
import EdgeSetup.Proofs.Host.Requests
import EdgeSetup.Proofs.Retry.Settling

/-!
# Setting static addresses, end to end

**Main theorem (`serve_static_ips`).** A request with a token that submits values is answered when
its calls end. If its text repeats the member of the values, it is turned down and nothing is sent.
Otherwise there is a host for each value, and the batch of them takes its course: one request for
each host up to the first that is turned down or not written, and none after it. The status is that
of the course, so it is that of success exactly when there are hosts and all are written.
-/

namespace EdgeSetup

open Json Http

namespace Gateway

variable {gateway : Gateway} {timestamp token : String} {request : Incoming} {values : List Value}

theorem ofStaticIps_status (result : Except SetupError StaticIpOutcome) :
    (ofStaticIps result).status = StaticIps.statusOf result := by
  cases result <;> rfl

/-- A post with a token reaches the endpoint. -/
theorem serve_changeStaticIps {health : Health} (hmethod : request.method = .post)
    (hpath : request.path = "/changeStaticIps")
    (htoken : extractToken? request.headers = some token) :
    (gateway.serve timestamp request).run health =
      (gateway.changeStaticIps token request).bind fun response =>
        .done (gateway.allowing response, health) :=
  serve_post hmethod (by rw [hpath]; rfl) rfl htoken rfl

/-- The endpoint sets the addresses of the submitted hosts. -/
theorem changeStaticIps_of_submits (hlength : request.body.utf8ByteSize ≤ bodyLimit)
    (hsubmits : Submits request.body values) (hrepeats : ¬ RepeatsMember request.body) :
    gateway.changeStaticIps token request =
      (StaticIps.run gateway.domainChange.client token (values.map Host.ofValue)).run.bind
        fun result => .done (ofStaticIps result) := by
  rw [changeStaticIps, withBody, if_neg (Nat.not_lt.2 hlength), hsubmits.decodeText? hrepeats]
  rfl

/-- Values in a text that repeats their member are turned down, and nothing is done. -/
theorem serve_repeated (hmethod : request.method = .post)
    (hpath : request.path = "/changeStaticIps")
    (htoken : extractToken? request.headers = some token)
    (hlength : request.body.utf8ByteSize ≤ bodyLimit) (hsubmits : Submits request.body values)
    (hrepeats : RepeatsMember request.body) {σ : Type} (outside : Outside σ) (health : Health)
    (world : World σ) :
    ((gateway.serve timestamp request).run health).run outside world =
      some ((gateway.allowing (bare 422), health), world) := by
  have hbody : gateway.changeStaticIps token request = .done (bare 422) := by
    rw [changeStaticIps, withBody, if_neg (Nat.not_lt.2 hlength),
      hsubmits.decodeText?_of_repeats hrepeats]
    rfl
  rw [serve_changeStaticIps hmethod hpath htoken, hbody]
  rfl

/-- Values in a text without repeats are hosts, and the batch of these takes its course. -/
theorem serve_submitted (hmethod : request.method = .post)
    (hpath : request.path = "/changeStaticIps")
    (htoken : extractToken? request.headers = some token)
    (hlength : request.body.utf8ByteSize ≤ bodyLimit) (hsubmits : Submits request.body values)
    (hrepeats : ¬ RepeatsMember request.body) {σ : Type} {outside : Outside σ}
    (hends : ∀ value ∈ values, ∀ world : World σ, ∃ outcome after,
      world.call outside (StaticIps.hostWrite gateway.domainChange.client token
        (Host.ofValue value)) = some (outcome, after)) (health : Health) (world : World σ) :
    ∃ response events after,
      ((gateway.serve timestamp request).run health).run outside world =
          some ((response, health), after) ∧
        World.Undergoes outside world events after ∧
        (values = [] → events = [] ∧ response.status = 422) ∧
        (values ≠ [] → StaticIps.Course gateway.domainChange.client token
          (values.map Host.ofValue) events response.status) ∧
        (response.status = 200 ↔ values ≠ [] ∧
          StaticIps.WritesAll gateway.domainChange.client token (values.map Host.ofValue)
            events) := by
  have hdecides : ∀ events result, Session.Runs
      (StaticIps.run gateway.domainChange.client token (values.map Host.ofValue)).run events
      result → ∀ event ∈ events, Event.Decides (fun sent => ∀ world : World σ,
        ∃ outcome after, world.call outside sent = some (outcome, after)) event :=
    fun events result => StaticIps.run_decides (List.forall_mem_map.2 hends)
  obtain ⟨result, after, hrun⟩ :=
    Session.exists_run_of_decisive (fun hsent => hsent) hdecides world
  obtain ⟨events, hruns, hundergoes⟩ := Session.run_eq_some hrun
  obtain ⟨hempty, hcourse⟩ := StaticIps.run_runs hruns
  simp only [List.map_eq_nil_iff, ne_eq] at hempty hcourse
  have hstatus : (gateway.allowing (ofStaticIps result)).status = StaticIps.statusOf result := by
    rw [allowing_status, ofStaticIps_status]
  refine ⟨gateway.allowing (ofStaticIps result), events, after, ?run, hundergoes, ?empty, ?course,
    ?success⟩
  case run =>
    rw [serve_changeStaticIps hmethod hpath htoken,
      changeStaticIps_of_submits hlength hsubmits hrepeats, Session.run_bind, Session.run_bind,
      hrun]
    rfl
  case empty => rwa [hstatus]
  case course => rwa [hstatus]
  case success =>
    rw [hstatus]
    by_cases hvalues : values = []
    · rw [(hempty hvalues).2]
      exact iff_of_false (by decide) fun h => h.1 hvalues
    · rw [(hcourse hvalues).status_eq_ok_iff]
      exact (and_iff_right hvalues).symm

/-- **A batch of hosts, end to end.** Values whose member is repeated are turned down as a whole.
Otherwise there is a host for each value, and these are written up to the first that fails. -/
theorem serve_static_ips (gateway : Gateway) (timestamp : String) (health : Health)
    (hmethod : request.method = .post) (hpath : request.path = "/changeStaticIps")
    (htoken : extractToken? request.headers = some token)
    (hlength : request.body.utf8ByteSize ≤ bodyLimit) (hsubmits : Submits request.body values)
    {σ : Type} {outside : Outside σ}
    (hends : ∀ value ∈ values, ∀ world : World σ, ∃ outcome after,
      world.call outside (StaticIps.hostWrite gateway.domainChange.client token
        (Host.ofValue value)) = some (outcome, after))
    (world : World σ) :
    (RepeatsMember request.body →
      decodeText? StaticIpsRequest request.body = none ∧
        ∃ response, response.status = 422 ∧
          ((gateway.serve timestamp request).run health).run outside world =
            some ((response, health), world)) ∧
      (¬ RepeatsMember request.body →
        decodeText? StaticIpsRequest request.body = some ⟨values.map Host.ofValue⟩ ∧
          (∀ value ∈ values, (Host.ofValue value).validate = .ok () → ∀ name,
            StaticIps.existingPolicy? (Host.ofValue value) = some name ↔
              value.part? "nncpName" 2 = some (.string name) ∧ name ≠ "") ∧
          (∀ value ∈ values, WritesHost gateway.domainChange.client (Host.ofValue value)
            (StaticIps.hostWrite gateway.domainChange.client token (Host.ofValue value))) ∧
          ∃ response events after,
            ((gateway.serve timestamp request).run health).run outside world =
                some ((response, health), after) ∧
              World.Undergoes outside world events after ∧
              (values = [] → events = [] ∧ response.status = 422) ∧
              (values ≠ [] → StaticIps.Course gateway.domainChange.client token
                (values.map Host.ofValue) events response.status) ∧
              (response.status = 200 ↔ values ≠ [] ∧
                StaticIps.WritesAll gateway.domainChange.client token (values.map Host.ofValue)
                  events)) := by
  constructor
  · intro hrepeats
    exact ⟨hsubmits.decodeText?_of_repeats hrepeats, gateway.allowing (bare 422), allowing_status _,
      serve_repeated hmethod hpath htoken hlength hsubmits hrepeats outside health world⟩
  · intro hrepeats
    exact ⟨hsubmits.decodeText? hrepeats, fun value _ hvalid name => existingPolicy?_ofValue hvalid,
      fun value _ => Host.hostWrite_writesHost _ _ _,
      serve_submitted hmethod hpath htoken hlength hsubmits hrepeats hends health world⟩

/-- Two hosts, the second with a policy of its own, and what is no host. -/
def sampleValues : List Value :=
  [ hostSample [.string "192.168.7.1"] 24 [],
    hostSample [.string "192.168.7.1"] 24 [("nncpName", .string "worker")], .string "garbage" ]

/-- The request that submits what is written. -/
def submission (written : Value) : Incoming :=
  ⟨.post, "/changeStaticIps", [("authorization", "Bearer token")], written.render⟩

/-- One host, then one whose policy can not be patched, then none. -/
theorem serve_static_ips_conflict :
    let gateway : Gateway := ⟨none, .sample, ⟨⟨"c"⟩, ⟨"secret"⟩, ""⟩⟩
    let request := submission (.object [("hosts", .array sampleValues)])
    let outside := Outside.playing (fun i => ⟨some 1, .ok ⟨if i = 0 then 201 else 409, [], ""⟩⟩)
      .standard
    extractToken? request.headers = some "token" ∧ Submits request.body sampleValues ∧
      ¬ RepeatsMember request.body ∧
      ∃ response events after,
        ((gateway.serve "now" request).run .initial).run outside (.start 0) =
            some ((response, .initial), after) ∧
          World.Undergoes outside (.start 0) events after ∧
          StaticIps.Course ⟨"c"⟩ "token" (sampleValues.map Host.ofValue) events
            response.status := by
  intro gateway request outside
  have hpath : request.path = "/changeStaticIps" := by decide +kernel
  have htoken : extractToken? request.headers = some "token" := by decide +kernel
  have hlength : request.body.utf8ByteSize ≤ bodyLimit := by decide +kernel
  have hsubmits : Submits request.body sampleValues := submits_render (by decide +kernel)
  have hkeys : (Document.ofChars? (Value.object [("hosts", .array sampleValues)]).chars).map
      Document.keys = some [some "hosts"] := by decide +kernel
  have hrepeats : ¬ RepeatsMember request.body := by
    rw [show request.body = Value.render _ from rfl, repeatsMember_render_iff hkeys]
    simp
  have hanswered : ∀ sent cluster, (outside.respond sent cluster).1.latency ≠ none :=
    fun _ _ => Option.some_ne_none _
  obtain ⟨-, hserves⟩ := serve_static_ips gateway "now" .initial rfl hpath htoken hlength hsubmits
    (fun value _ world => World.call_answered (hanswered _) world) (.start 0)
  obtain ⟨-, -, -, response, events, after, hrun, hundergoes, -, hcourse, -⟩ := hserves hrepeats
  exact ⟨htoken, hsubmits, hrepeats, response, events, after, hrun, hundergoes,
    hcourse (List.cons_ne_nil _ _)⟩

/-- A host that would be accepted and created, in a text that has the member twice. -/
theorem serve_repeated_hosts :
    let gateway : Gateway := ⟨none, .sample, ⟨⟨"c"⟩, ⟨"secret"⟩, ""⟩⟩
    let value := hostSample [.string "192.168.7.1"] 24 []
    let request := submission (.object [("hosts", .array []), ("hosts", .array [value])])
    let outside := Outside.playing (fun _ => ⟨some 1, .ok ⟨201, [], ""⟩⟩) .standard
    extractToken? request.headers = some "token" ∧ Submits request.body [value] ∧
      (Host.ofValue value).validate = .ok () ∧
      (∀ sent (world : World Nat), ∃ outcome after,
        world.call outside sent = some (outcome, after)) ∧
      decodeText? StaticIpsRequest request.body = none ∧
      ∃ response, response.status = 422 ∧
        ((gateway.serve "now" request).run .initial).run outside (.start 0) =
          some ((response, .initial), .start 0) := by
  intro gateway value request outside
  have hpath : request.path = "/changeStaticIps" := by decide +kernel
  have htoken : extractToken? request.headers = some "token" := by decide +kernel
  have hlength : request.body.utf8ByteSize ≤ bodyLimit := by decide +kernel
  have hsubmits : Submits request.body [value] := submits_render (by decide +kernel)
  have hkeys : (Document.ofChars?
      (Value.object [("hosts", .array []), ("hosts", .array [value])]).chars).map Document.keys =
        some [some "hosts", some "hosts"] := by decide +kernel
  have hrepeats : RepeatsMember request.body := by
    rw [show request.body = Value.render _ from rfl, repeatsMember_render_iff hkeys]
    simp
  have hanswered : ∀ sent cluster, (outside.respond sent cluster).1.latency ≠ none :=
    fun _ _ => Option.some_ne_none _
  exact ⟨htoken, hsubmits, by decide +kernel,
    fun sent world => World.call_answered (hanswered sent) world,
    hsubmits.decodeText?_of_repeats hrepeats, _, allowing_status _,
    serve_repeated rfl hpath htoken hlength hsubmits hrepeats outside .initial (.start 0)⟩

end Gateway

end EdgeSetup
