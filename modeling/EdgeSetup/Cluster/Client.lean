import EdgeSetup.Cluster.Objects
import EdgeSetup.Cluster.Resource
import EdgeSetup.Json.Patch
import EdgeSetup.Session.Basic

/-!
# The client of the cluster API

Typed reads and writes as sessions. A read fails when the cluster refuses it or when its answer
does not decode; a write hands back the status, and its caller decides what counts as success.
-/

namespace EdgeSetup

open Json Http

/-- A client of the API at a URL. -/
structure Client where
  apiUrl : String
  deriving DecidableEq, Repr

/-- The status and the decoded body of a write. -/
structure WriteResult where
  status : Nat
  body : Option Value

namespace WriteResult

/-- The result that a response stands for. -/
def ofResponse (response : Response) : WriteResult := ⟨response.status, response.json? Value⟩

/-- Whether the write was carried out. -/
def isSuccess (result : WriteResult) : Bool := 200 ≤ result.status && result.status < 300

/-- The message of the cluster, empty if there is none. -/
def message (result : WriteResult) : String := statusMessage result.body

/-- The name of the object in the answer. -/
def objectName? (result : WriteResult) : Option String :=
  (result.body.bind (·.at? ["metadata", "name"])).bind Value.string?

end WriteResult

/-- The body of a patch. -/
inductive PatchBody where
  | operations (list : List PatchOp)
  | merge (value : Value)

namespace PatchBody

/-- The content type of a body. -/
def contentType : PatchBody → ContentType
  | operations _ => .jsonPatch
  | merge _ => .mergePatch

/-- The document of a body. -/
def document : PatchBody → Value
  | operations list => encode list
  | merge value => value

end PatchBody

namespace Client

variable {α : Type}

/-- The most items that a list answer may have. -/
def listLimit : Nat := 50000

/-- A client for a URL; slashes at its end do not count. -/
def ofUrl (url : String) : Client :=
  ⟨String.ofList (Text.trimEndWhile (· == '/') url.toList)⟩

/-- The URL of a path. -/
def url (client : Client) (path : String) : String := client.apiUrl ++ path

/-- Makes a call; a transport failure is an error of the session. -/
def exchange (request : Request) : Attempting Response := do
  match ← Session.call request with
  | .ok response => return response
  | .error failure => throw (.transport failure)

/-- What a read makes of its response. -/
def readResponse (α : Type) [Decode α] (response : Response) : Except SetupError α :=
  if response.isSuccess then
    match response.json? α with
    | some value => .ok value
    | none => .error (.serialization "the answer is not of the expected form")
  else .error (.remote response.status (statusMessage (response.json? Value)))

/-- The request that reads a path. -/
def readRequest (client : Client) (token path : String) : Request :=
  (Request.new .get (client.url path)).bearer token

/-- Reads a path. -/
def getPath (α : Type) [Decode α] (client : Client) (token path : String) : Attempting α := do
  let response ← exchange (client.readRequest token path)
  readResponse α response

/-- Reads a resource. -/
def get (α : Type) [Decode α] (client : Client) (token : String) (ref : ResourceRef) :
    Attempting α :=
  client.getPath α token ref.path

/-- The path that lists a kind across all namespaces. -/
def listPath (kind : ResourceKind) : String :=
  (ResourceRef.collection kind none).path ++ "?limit=" ++ toString listLimit

/-- Lists a kind across all namespaces. -/
def list (α : Type) [Decode α] (client : Client) (token : String) (kind : ResourceKind) :
    Attempting (List α) := do
  let answer ← client.getPath (ItemList α) token (listPath kind)
  return answer.items

/-- The request that patches a resource. -/
def patchRequest (client : Client) (token : String) (ref : ResourceRef) (body : PatchBody) :
    Request :=
  ((Request.new .patch (client.url ref.path)).bearer token).withBody body.contentType
    body.document

/-- Patches a resource. -/
def patch (client : Client) (token : String) (ref : ResourceRef) (body : PatchBody) :
    Attempting WriteResult := do
  let response ← exchange (client.patchRequest token ref body)
  return .ofResponse response

/-- The request that posts an object to a collection. -/
def postRequest (client : Client) (token : String) (collection : ResourceRef) (object : Value) :
    Request :=
  ((Request.new .post (client.url collection.path)).bearer token).withBody .json object

/-- Posts an object to a collection. -/
def post (client : Client) (token : String) (collection : ResourceRef) (object : Value) :
    Attempting WriteResult := do
  let response ← exchange (client.postRequest token collection object)
  return .ofResponse response

/-- The path that a ping reads. -/
def pingPath : String := "/apis"

/-- Reads the status of the API. -/
def ping (client : Client) (token : String) : Attempting Nat := do
  let response ← exchange (client.readRequest token pingPath)
  return response.status

end Client

end EdgeSetup
