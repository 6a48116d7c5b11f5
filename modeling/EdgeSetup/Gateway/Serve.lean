import EdgeSetup.DomainChange.Run
import EdgeSetup.Gateway.Cors
import EdgeSetup.Gateway.Token
import EdgeSetup.Health.Probe
import EdgeSetup.Json.Writer
import EdgeSetup.StaticIps

/-!
# The HTTP interface

The endpoints of the service. A request to a protected endpoint is turned away before all else when
it shows no token; the token is what the service acts with.
-/

namespace EdgeSetup

open Json Http

/-- An endpoint. -/
inductive Endpoint where
  | ping
  | liveness
  | readiness
  | changeDomain
  | changeStaticIps
  deriving DecidableEq, Repr

namespace Endpoint

/-- The endpoint of a path. -/
def ofPath? : String → Option Endpoint
  | "/ping" => some ping
  | "/livenessProbe" => some liveness
  | "/readinessProbe" => some readiness
  | "/changeDomain" => some changeDomain
  | "/changeStaticIps" => some changeStaticIps
  | _ => none

/-- Whether an endpoint asks for a token. -/
def isProtected : Endpoint → Bool
  | changeDomain | changeStaticIps => true
  | _ => false

/-- Whether an endpoint answers a method: protected ones are posted to, the others are read. -/
def accepts (endpoint : Endpoint) (method : Method) : Bool :=
  if endpoint.isProtected then method = .post else method = .get || method = .head

end Endpoint

/-- A request to the service. -/
structure Incoming where
  method : Method
  /-- The path, with the query if there is one. -/
  target : String
  headers : Headers
  body : String

namespace Incoming

/-- The path of a request: its target up to a query or a fragment. -/
def path (request : Incoming) : String :=
  String.ofList (request.target.toList.takeWhile (fun c => c != '?' && c != '#'))

end Incoming

/-- The service. -/
structure Gateway where
  cors : Option String
  domainChange : DomainChange
  monitor : HealthMonitor

namespace Gateway

/-- The longest request body, in bytes. -/
def bodyLimit : Nat := 2097152

/-! ## Responses -/

/-- A response without a body. -/
def bare (status : Nat) : Response := ⟨status, [], ""⟩

/-- A response with a text. -/
def plain (status : Nat) (text : String) : Response :=
  ⟨status, [("content-type", "text/plain; charset=utf-8")], text⟩

/-- A response with a document. -/
def document (value : Value) : Response :=
  ⟨200, [("content-type", ContentType.json.name)], value.render⟩

/-- The response that reports an error. -/
def ofError (error : SetupError) : Response := plain error.httpStatus error.message

/-- A response that is good or bad without a word. -/
def ofHealth (healthy : Bool) : Response := bare (if healthy then 200 else 500)

/-- The response to a ping. -/
def pong (timestamp : String) : Response :=
  document <| .object
    [("service", .string "setup-node"), ("status", .string "ok"),
      ("timestamp", .string timestamp)]

/-- The response to a change of the domain. -/
def ofDomainChange : Except SetupError DomainChangeOutcome → Response
  | .ok .unchanged => bare 200
  | .ok (.migrated routes) =>
    document <| .object
      [("routesFailed", .ofNat routes.failed), ("routesRehosted", .ofNat routes.moved)]
  | .error error => ofError error

/-- The response to setting static addresses. -/
def ofStaticIps : Except SetupError StaticIpOutcome → Response
  | .ok _ => bare 200
  | .error error => ofError error

/-! ## Requests -/

/-- Reads the body of a request and goes on with it, unless it is too long or not of the form. -/
def withBody (α : Type) [Decode α] (request : Incoming) (next : α → Session Response) :
    Session Response :=
  if bodyLimit < request.body.utf8ByteSize then
    return plain 413 "Failed to buffer the request body: length limit exceeded"
  else
    match decodeText? α request.body with
    | none => return bare 422
    | some body => next body

/-- Changes the domain. -/
def changeDomain (gateway : Gateway) (token : String) (request : Incoming) : Session Response :=
  withBody DomainChangeRequest request fun body =>
    ofDomainChange <$> gateway.domainChange.run token body

/-- Sets static addresses. -/
def changeStaticIps (gateway : Gateway) (token : String) (request : Incoming) : Session Response :=
  withBody StaticIpsRequest request fun body =>
    ofStaticIps <$> (StaticIps.run gateway.domainChange.client token body.hosts).run

/-- Answers a request for an endpoint that accepts its method. -/
def serveEndpoint (gateway : Gateway) (timestamp token : String) (request : Incoming) :
    Endpoint → Watching Response
  | .ping => return pong timestamp
  | .liveness => ofHealth <$> gateway.monitor.isLive
  | .readiness => ofHealth <$> gateway.monitor.isReady
  | .changeDomain => gateway.changeDomain token request
  | .changeStaticIps => gateway.changeStaticIps token request

/-- Answers a request for an endpoint; the answer to a HEAD request has no body. -/
def serveMethod (gateway : Gateway) (timestamp token : String) (request : Incoming)
    (endpoint : Endpoint) : Watching Response := do
  if endpoint.accepts request.method then
    let response ← gateway.serveEndpoint timestamp token request endpoint
    return if request.method = .head then { response with body := "" } else response
  else return bare 405

/-- Answers a request, other origins aside. -/
def serveRoute (gateway : Gateway) (timestamp : String) (request : Incoming) :
    Watching Response :=
  match Endpoint.ofPath? request.path with
  | none => return bare 404
  | some endpoint =>
    if endpoint.isProtected then
      match extractToken? request.headers with
      | none => return ofError .unauthorized
      | some token => gateway.serveMethod timestamp token request endpoint
    else gateway.serveMethod timestamp "" request endpoint

/-- Answers a request. When another origin is allowed, preflight requests go no further, and every
response says what is allowed. -/
def serve (gateway : Gateway) (timestamp : String) (request : Incoming) : Watching Response :=
  match gateway.cors with
  | none => gateway.serveRoute timestamp request
  | some origin =>
    if request.method = .options then
      return ⟨200, CorsPolicy.responseHeaders origin ++ CorsPolicy.preflightHeaders, ""⟩
    else do
      let response ← gateway.serveRoute timestamp request
      return { response with headers := response.headers ++ CorsPolicy.responseHeaders origin }

/-- The service for a configured origin; `none` when it can not be started. -/
def new? (origin : Option String) (domainChange : DomainChange) (monitor : HealthMonitor) :
    Option Gateway :=
  match CorsPolicy.ofOrigin origin with
  | .off => some ⟨none, domainChange, monitor⟩
  | .allow allowed => some ⟨some allowed, domainChange, monitor⟩
  | .invalid => none

end Gateway

end EdgeSetup
