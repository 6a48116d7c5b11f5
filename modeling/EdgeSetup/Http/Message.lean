import EdgeSetup.Http.Header
import EdgeSetup.Json.Codec

/-!
# Requests and responses

What is sent to the cluster API and what comes back. A request body is always a JSON document; a
response body is a text that may or may not be one.
-/

namespace EdgeSetup.Http

open Json

/-- A request method. -/
inductive Method where
  | get
  | head
  | post
  | put
  | patch
  | delete
  | options
  | other (name : String)
  deriving DecidableEq, Repr, Inhabited

namespace Method

/-- The written name of a method. -/
def name : Method → String
  | get => "GET"
  | head => "HEAD"
  | post => "POST"
  | put => "PUT"
  | patch => "PATCH"
  | delete => "DELETE"
  | options => "OPTIONS"
  | other name => name

/-- The method of a written name. -/
def ofName : String → Method
  | "GET" => get
  | "HEAD" => head
  | "POST" => post
  | "PUT" => put
  | "PATCH" => patch
  | "DELETE" => delete
  | "OPTIONS" => options
  | name => other name

end Method

/-- The content type of a JSON body. -/
inductive ContentType where
  | json
  /-- A list of patch operations. -/
  | jsonPatch
  /-- A document to merge. -/
  | mergePatch
  deriving DecidableEq, Repr

/-- The written name of a content type. -/
def ContentType.name : ContentType → String
  | json => "application/json"
  | jsonPatch => "application/json-patch+json"
  | mergePatch => "application/merge-patch+json"

/-- A request to the cluster API. -/
structure Request where
  method : Method
  url : String
  headers : Headers
  body : Option Value
  deriving Repr, Inhabited

namespace Request

/-- A request that accepts JSON. -/
def new (method : Method) (url : String) : Request :=
  ⟨method, url, [("accept", ContentType.json.name)], none⟩

/-- Adds a bearer token. An empty token leaves the request anonymous, and so does one that can not
be sent in a header. -/
def bearer (request : Request) (token : String) : Request :=
  let value := "Bearer " ++ token
  if token.isEmpty || !isLegalValue value then request
  else { request with headers := request.headers.set "authorization" value }

/-- Adds a JSON body. -/
def withBody (request : Request) (contentType : ContentType) (body : Value) : Request :=
  { request with
    headers := request.headers.set "content-type" contentType.name
    body := some body }

end Request

/-- A response. -/
structure Response where
  status : Nat
  headers : Headers
  body : String
  deriving DecidableEq, Repr, Inhabited

namespace Response

/-- Whether the status says that the request was carried out. -/
def isSuccess (response : Response) : Bool := 200 ≤ response.status && response.status < 300

/-- The body as a typed value. -/
def json? (α : Type) [Decode α] (response : Response) : Option α := decodeText? α response.body

end Response

end EdgeSetup.Http
