import EdgeSetup.Cluster.Client

/-!
# Requests and their addresses

A request keeps its method and its URL when a token or a body is added, and a patch carries its
operations to the path of a resource (`Client.Patches`). Resources whose kinds
belong to different API groups have different URLs whatever their namespaces and names are, since
one character of the path already tells the groups apart (`Client.url_ne_of_mark_ne`).
-/

namespace EdgeSetup

open Json Http

/-! ## Parts of a request -/

namespace Http.Request

variable (request : Request) (token : String) (contentType : ContentType) (body : Json.Value)

@[simp] theorem bearer_method : (request.bearer token).method = request.method := by
  unfold bearer
  simp only
  split <;> rfl

@[simp] theorem bearer_url : (request.bearer token).url = request.url := by
  unfold bearer
  simp only
  split <;> rfl

@[simp] theorem bearer_body : (request.bearer token).body = request.body := by
  unfold bearer
  simp only
  split <;> rfl

@[simp] theorem withBody_method : (request.withBody contentType body).method = request.method :=
  rfl

@[simp] theorem withBody_url : (request.withBody contentType body).url = request.url := rfl

@[simp] theorem withBody_body : (request.withBody contentType body).body = some body := rfl

end Http.Request

namespace Client

variable (client : Client) (token path : String) (ref : ResourceRef) (body : PatchBody)
  (object : Json.Value)

@[simp] theorem readRequest_method : (client.readRequest token path).method = .get := by
  simp [readRequest, Request.new]

@[simp] theorem readRequest_url : (client.readRequest token path).url = client.url path := by
  simp [readRequest, Request.new]

@[simp] theorem patchRequest_method : (client.patchRequest token ref body).method = .patch := by
  simp [patchRequest, Request.new]

@[simp] theorem patchRequest_url :
    (client.patchRequest token ref body).url = client.url ref.path := by
  simp [patchRequest, Request.new]

@[simp] theorem patchRequest_body :
    (client.patchRequest token ref body).body = some body.document := rfl

@[simp] theorem postRequest_method : (client.postRequest token ref object).method = .post := by
  simp [postRequest, Request.new]

@[simp] theorem postRequest_url :
    (client.postRequest token ref object).url = client.url ref.path := by
  simp [postRequest, Request.new]

@[simp] theorem postRequest_body :
    (client.postRequest token ref object).body = some object := rfl

/-- The request patches what is at a path with operations. -/
structure Patches (client : Client) (path : String) (operations : List PatchOp) (sent : Request) :
    Prop where
  method : sent.method = .patch
  url : sent.url = client.url path
  body : sent.body = some (encode operations)

theorem patchRequest_patches (operations : List PatchOp) :
    client.Patches ref.path operations (client.patchRequest token ref (.operations operations)) :=
  ⟨patchRequest_method .., patchRequest_url .., patchRequest_body ..⟩

end Client

/-! ## Paths -/

namespace ResourceRef

variable (kind : ResourceKind) (inNamespace name : String)

/-- An object of the whole cluster is below the collection of its kind. -/
theorem cluster_path :
    (cluster kind name).path = (collection kind none).path ++ "/" ++ name := by
  simp [path, namespacePath, namePath, cluster, collection, String.append_assoc]

/-- An object in a namespace is below the collection of its kind in that namespace. -/
theorem namespaced_path :
    (namespaced kind inNamespace name).path =
      kind.groupPath ++ "/namespaces/" ++ inNamespace ++ "/" ++ kind.plural ++ "/" ++ name := by
  simp [path, namespacePath, namePath, namespaced, String.append_assoc]

theorem route_path :
    (namespaced .route inNamespace name).path =
      "/apis/route.openshift.io/v1/namespaces/" ++ inNamespace ++ "/routes/" ++ name := by
  rw [namespaced_path, ← String.toList_inj]
  simp [ResourceKind.groupPath, ResourceKind.plural]

theorem deployment_path :
    (namespaced .deployment inNamespace name).path =
      "/apis/apps/v1/namespaces/" ++ inNamespace ++ "/deployments/" ++ name := by
  rw [namespaced_path, ← String.toList_inj]
  simp [ResourceKind.groupPath, ResourceKind.plural]

end ResourceRef

/-! ## API groups -/

/-- The character after `/apis/` or `/api/v`, which tells the API groups apart. -/
def ResourceKind.mark : ResourceKind → Char
  | .ingress | .apiServer => 'c'
  | .oauthClient => 'o'
  | .route => 'r'
  | .secret => '1'
  | .deployment => 'a'
  | .nodePolicy => 'n'

theorem ResourceKind.groupPath_mark (kind : ResourceKind) :
    kind.groupPath.toList[6]? = some kind.mark := by
  cases kind <;> rfl

/-- The mark of the kind stands at its place in the path, whatever follows the path. -/
theorem ResourceRef.path_mark (ref : ResourceRef) (rest : String) :
    (ref.path ++ rest).toList[6]? = some ref.kind.mark := by
  have hmark := ref.kind.groupPath_mark
  obtain ⟨hlt, -⟩ := List.getElem?_eq_some_iff.1 hmark
  simp only [path, String.toList_append, List.append_assoc]
  rw [List.getElem?_append_left hlt, hmark]

namespace Client

theorem url_inj {client : Client} {a b : String} : client.url a = client.url b ↔ a = b :=
  String.append_right_inj client.apiUrl

/-- Kinds of different groups have no URL in common. -/
theorem url_ne_of_mark_ne {client : Client} {a b : ResourceRef} (h : a.kind.mark ≠ b.kind.mark)
    (rest : String) : client.url (a.path ++ rest) ≠ client.url b.path := by
  intro heq
  have hpath := url_inj.1 heq
  have ha := a.path_mark rest
  have hb := b.path_mark ""
  rw [String.append_empty] at hb
  rw [hpath, hb] at ha
  exact h (Option.some.inj ha).symm

end Client

end EdgeSetup
