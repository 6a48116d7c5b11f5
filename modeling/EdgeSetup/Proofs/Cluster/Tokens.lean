import EdgeSetup.Cluster.Client
import EdgeSetup.Proofs.Cluster.Addresses
import EdgeSetup.Proofs.Session.Alike

/-!
# The token of a request

A token that can be sent (`IsSendable`) is what a request bears (`Http.Request.Bears`): it has one
Authorization header, which holds the token. Requests under two tokens are the same but for that
header (`Http.Request.SameButToken`), and so the calls of the client are alike under both.
-/

namespace EdgeSetup

open Json Http

/-! ## Headers -/

namespace Http.Headers

/-- The headers of other names. -/
def without (headers : Headers) (name : String) : Headers :=
  headers.filter fun header => header.1 != lowerCase name

variable (headers : Headers) (name other value : String)

theorem set_eq : headers.set name value = headers.without name ++ [(lowerCase name, value)] := rfl

theorem getAll_append (headers' : Headers) :
    getAll (headers ++ headers') name = getAll headers name ++ getAll headers' name := by
  rw [getAll, List.filter_append, List.map_append]
  rfl

theorem getAll_without_self : (headers.without name).getAll name = [] := by
  simp [getAll, without, List.filter_filter]

theorem getAll_set_self : (headers.set name value).getAll name = [value] := by
  rw [set_eq, getAll_append, getAll_without_self]
  simp [getAll]

theorem getAll_set_of_ne {name other : String} (h : lowerCase name ≠ lowerCase other) :
    (headers.set name value).getAll other = headers.getAll other := by
  rw [set_eq, getAll_append]
  have hrest : getAll [(lowerCase name, value)] other = [] := by simp [getAll, h]
  rw [hrest, List.append_nil, getAll, without, List.filter_filter]
  refine congrArg _ (List.filter_congr fun header _ => ?_)
  by_cases hname : header.1 = lowerCase other <;> simp [hname, h.symm]

theorem without_set_self : (headers.set name value).without name = headers.without name := by
  rw [set_eq, without, List.filter_append]
  simp [without, List.filter_filter]

theorem without_set_of_ne {name other : String} (h : lowerCase name ≠ lowerCase other) :
    (headers.set name value).without other = (headers.without other).set name value := by
  rw [set_eq, set_eq, without, List.filter_append]
  simp [without, h, List.filter_filter, Bool.and_comm]

end Http.Headers

/-! ## Requests -/

/-- The token can be sent in a header. -/
structure IsSendable (token : String) : Prop where
  nonempty : token ≠ ""
  legal : isLegalValue ("Bearer " ++ token) = true

namespace Http.Request

/-- The request has one Authorization header, which holds the token. -/
def Bears (token : String) (request : Request) : Prop :=
  request.headers.getAll "authorization" = ["Bearer " ++ token]

/-- The request has no Authorization header. -/
def IsAnonymous (request : Request) : Prop := request.headers.getAll "authorization" = []

/-- The requests bear each its token, and are the same in all else. -/
structure SameButToken (token token' : String) (request request' : Request) : Prop where
  method : request.method = request'.method
  url : request.url = request'.url
  body : request.body = request'.body
  headers : request.headers.without "authorization" = request'.headers.without "authorization"
  bears : request.Bears token
  bears' : request'.Bears token'

variable {token token' : String} {request request' : Request}

theorem bearer_headers (h : IsSendable token) :
    (request.bearer token).headers =
      request.headers.set "authorization" ("Bearer " ++ token) := by
  have hempty : token.isEmpty = false := by simpa using h.nonempty
  simp [bearer, hempty, h.legal]

theorem bears_bearer (h : IsSendable token) : (request.bearer token).Bears token := by
  rw [Bears, bearer_headers h, Headers.getAll_set_self]

theorem authorization_ne_contentType : lowerCase "content-type" ≠ lowerCase "authorization" := by
  decide

theorem Bears.withBody (h : request.Bears token) (contentType : ContentType) (body : Value) :
    (request.withBody contentType body).Bears token :=
  (Headers.getAll_set_of_ne _ _ authorization_ne_contentType).trans h

/-- A request is the same under two tokens but for the token. -/
theorem sameButToken_bearer (request : Request) (h : IsSendable token) (h' : IsSendable token') :
    SameButToken token token' (request.bearer token) (request.bearer token') where
  method := by simp
  url := by simp
  body := by simp
  headers := by
    rw [bearer_headers h, bearer_headers h', Headers.without_set_self, Headers.without_set_self]
  bears := bears_bearer h
  bears' := bears_bearer h'

theorem SameButToken.withBody (h : SameButToken token token' request request')
    (contentType : ContentType) (body : Value) :
    SameButToken token token' (request.withBody contentType body)
      (request'.withBody contentType body) where
  method := h.method
  url := h.url
  body := rfl
  headers := by
    have hne := authorization_ne_contentType
    simp only [Request.withBody, Headers.without_set_of_ne _ _ hne, h.headers]
  bears := h.bears.withBody contentType body
  bears' := h.bears'.withBody contentType body

end Http.Request

/-! ## Calls -/

namespace Client

open Request

variable {same : Request → Request → Prop} {α : Type} {token token' : String}

theorem exchange_alike {request request' : Request} (h : same request request') :
    Attempting.Alike same (exchange request) (exchange request') := by
  refine .bind (.lift (.send h fun outcome => .done outcome)) fun outcome => ?_
  cases outcome with
  | ok response => exact .pure response
  | error failure => exact .throw (.transport failure)

variable (client : Client) (h : IsSendable token) (h' : IsSendable token')
include h h'

theorem getPath_alike [Decode α] (path : String) :
    Attempting.Alike (SameButToken token token') (client.getPath α token path)
      (client.getPath α token' path) :=
  .bind (exchange_alike (sameButToken_bearer _ h h')) fun _ => .ofExcept _

theorem list_alike [Decode α] (kind : ResourceKind) :
    Attempting.Alike (SameButToken token token') (client.list α token kind)
      (client.list α token' kind) :=
  .bind (client.getPath_alike h h' _) fun answer => .pure answer.items

omit h h' in
theorem readRequest_anonymous (path : String) : (client.readRequest "" path).IsAnonymous := rfl

theorem patchRequest_same (ref : ResourceRef) (body : PatchBody) :
    SameButToken token token' (client.patchRequest token ref body)
      (client.patchRequest token' ref body) :=
  (sameButToken_bearer _ h h').withBody _ _

theorem patch_alike (ref : ResourceRef) (body : PatchBody) :
    Attempting.Alike (SameButToken token token') (client.patch token ref body)
      (client.patch token' ref body) :=
  .bind (exchange_alike (client.patchRequest_same h h' ref body)) fun _ => .pure _

theorem postRequest_same (collection : ResourceRef) (object : Value) :
    SameButToken token token' (client.postRequest token collection object)
      (client.postRequest token' collection object) :=
  (sameButToken_bearer _ h h').withBody _ _

theorem post_alike (collection : ResourceRef) (object : Value) :
    Attempting.Alike (SameButToken token token') (client.post token collection object)
      (client.post token' collection object) :=
  .bind (exchange_alike (client.postRequest_same h h' collection object)) fun _ => .pure _

end Client

end EdgeSetup
