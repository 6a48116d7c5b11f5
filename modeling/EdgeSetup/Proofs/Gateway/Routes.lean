import EdgeSetup.Gateway.Serve

/-!
# Which session answers a request

The ways of a request through the service, without the content of the endpoints. A post to a
protected endpoint is turned away without a token (`serve_refused`), and is otherwise the session of
its endpoint (`serve_post`). Any request is answered at once, or is for an endpoint that it has the
token for (`serve_answers`).
-/

namespace EdgeSetup

open Http

namespace Gateway

variable {gateway : Gateway} {timestamp token : String} {request : Incoming} {health : Health}
  {endpoint : Endpoint}

/-- A response with what the gateway says of other origins. -/
def allowing (gateway : Gateway) (response : Response) : Response :=
  match gateway.cors with
  | none => response
  | some origin =>
    { response with headers := response.headers ++ CorsPolicy.responseHeaders origin }

@[simp] theorem allowing_status (response : Response) :
    (gateway.allowing response).status = response.status := by
  unfold allowing
  cases gateway.cors <;> rfl

/-- A request other than a preflight is answered by its route. -/
theorem serve_run (hmethod : request.method ≠ .options) :
    (gateway.serve timestamp request).run health =
      ((gateway.serveRoute timestamp request).run health).bind fun served =>
        .done (gateway.allowing served.1, served.2) := by
  unfold serve allowing
  cases gateway.cors with
  | none => exact (Session.bind_done _).symm
  | some origin =>
    simp only [if_neg hmethod]
    rfl

/-- A post with a token is the session of its endpoint. -/
theorem serve_post {session : Session Response} (hmethod : request.method = .post)
    (hendpoint : Endpoint.ofPath? request.path = some endpoint)
    (hprotected : endpoint.isProtected = true)
    (htoken : extractToken? request.headers = some token)
    (hsession : gateway.serveEndpoint timestamp token request endpoint = StateT.lift session) :
    (gateway.serve timestamp request).run health =
      session.bind fun response => .done (gateway.allowing response, health) := by
  have hroute : gateway.serveRoute timestamp request = StateT.lift session := by
    simp only [serveRoute, hendpoint, hprotected, htoken, if_true, serveMethod, Endpoint.accepts,
      hmethod, decide_true, hsession]
    exact bind_pure _
  rw [serve_run (by simp [hmethod]), hroute]
  show (session.bind _).bind _ = _
  rw [Session.bind_assoc]
  rfl

/-- A post without a token is turned away. -/
theorem serve_refused (hmethod : request.method = .post)
    (hendpoint : Endpoint.ofPath? request.path = some endpoint)
    (hprotected : endpoint.isProtected = true) (htoken : extractToken? request.headers = none) :
    (gateway.serve timestamp request).run health =
      .done (gateway.allowing (ofError .unauthorized), health) := by
  have hroute : gateway.serveRoute timestamp request = pure (ofError .unauthorized) := by
    simp only [serveRoute, hendpoint, hprotected, htoken, if_true]
  rw [serve_run (by simp [hmethod]), hroute]
  rfl

/-- The sessions that a request can come to: it is answered at once, or it is the session of an
endpoint that it has the token for. -/
inductive Answers (gateway : Gateway) (timestamp : String) (request : Incoming) (health : Health) :
    Session (Response × Health) → Prop where
  | atOnce (response : Response) :
      Answers gateway timestamp request health (.done (response, health))
  | byEndpoint {endpoint : Endpoint} {token : String} (finish : Response → Response)
      (found : Endpoint.ofPath? request.path = some endpoint)
      (shown : endpoint.isProtected = true → extractToken? request.headers = some token) :
      Answers gateway timestamp request health
        (((gateway.serveEndpoint timestamp token request endpoint).run health).bind fun served =>
          .done (finish served.1, served.2))

theorem Answers.map {session : Session (Response × Health)}
    (h : Answers gateway timestamp request health session) (f : Response → Response) :
    Answers gateway timestamp request health
      (session.bind fun served => .done (f served.1, served.2)) := by
  cases h with
  | atOnce response => exact .atOnce (f response)
  | byEndpoint finish found shown =>
    rw [Session.bind_assoc]
    exact .byEndpoint (f ∘ finish) found shown

theorem serveMethod_answers (found : Endpoint.ofPath? request.path = some endpoint)
    (shown : endpoint.isProtected = true → extractToken? request.headers = some token) :
    Answers gateway timestamp request health
      ((gateway.serveMethod timestamp token request endpoint).run health) := by
  unfold serveMethod
  split
  · exact .byEndpoint (fun response =>
      if request.method = .head then { response with body := "" } else response) found shown
  · exact .atOnce (bare 405)

theorem serveRoute_answers (gateway : Gateway) (timestamp : String) (request : Incoming)
    (health : Health) :
    Answers gateway timestamp request health
      ((gateway.serveRoute timestamp request).run health) := by
  unfold serveRoute
  cases found : Endpoint.ofPath? request.path with
  | none => exact .atOnce (bare 404)
  | some endpoint =>
    dsimp only
    split
    · cases shown : extractToken? request.headers with
      | none => exact .atOnce (ofError .unauthorized)
      | some token => exact serveMethod_answers found fun _ => shown
    · next hopen => exact serveMethod_answers found fun hprotected => absurd hprotected hopen

/-- **Every request** is answered at once, or is the session of an endpoint that it has the token
for. -/
theorem serve_answers (gateway : Gateway) (timestamp : String) (request : Incoming)
    (health : Health) :
    Answers gateway timestamp request health ((gateway.serve timestamp request).run health) := by
  have hroute := serveRoute_answers gateway timestamp request health
  unfold serve
  cases gateway.cors with
  | none => exact hroute
  | some origin =>
    dsimp only
    split
    · exact .atOnce _
    · exact hroute.map fun response =>
        { response with headers := response.headers ++ CorsPolicy.responseHeaders origin }

end Gateway

end EdgeSetup
