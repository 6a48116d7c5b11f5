import EdgeSetup.Proofs.DomainChange.RedirectUris
import EdgeSetup.Proofs.DomainChange.StoredRun

/-!
# Clusters that store the OAuth client

A cluster that stores the document of an OAuth client at a URL (`StoresClient`): it reads the client
from the document, a patch that it accepts was applied, and nothing else changes the document. A
patch that it does not accept may have been applied all the same.

A call of the patch that appends a redirect URI may be tried several times. Applied once or more, it
leaves the same document (`StoresClient.call_append`).

`ClientStorage.outside` is such a cluster, one that can be run.
-/

namespace EdgeSetup

open Json Http

/-! ## A cluster that stores the client -/

/-- What an attempt at a request may do to the document that is stored at a URL. -/
inductive StoredStep (url : String) (request : Request) (outcome : Outcome) (document : Value) :
    Value → Prop where
  /-- This is no accepted patch of the document. -/
  | kept (unaccepted : Accepted outcome → request.method = .patch → request.url ≠ url) :
      StoredStep url request outcome document document
  | patched {next : Value} (method : request.method = .patch) (there : request.url = url)
      (applied : patched? request document = some next) :
      StoredStep url request outcome document next

/-- The cluster stores the document of an OAuth client at a URL, as the view of its state shows. -/
structure StoresClient {σ : Type} (url : String) (outside : Outside σ) (view : σ → Value) :
    Prop where
  /-- A read of the client gives the stored one. -/
  read : ∀ {request : Request} {state : σ} {oauth : OAuthClient}, request.method = .get →
    request.url = url → Reads (outside.respond request state).1.outcome oauth →
      decodeValue? OAuthClient (view state) = some oauth
  /-- An attempt does to the document what it may do. -/
  step : ∀ request state, StoredStep url request (outside.respond request state).1.outcome
    (view state) (view (outside.respond request state).2)

/-- A patch of a resource was sent and carried out. -/
def AcceptsPatch (client : Client) (ref : ResourceRef) (events : List Event) : Prop :=
  ∃ sent outcome, .called sent outcome ∈ events ∧ sent.method = .patch ∧
    sent.url = client.url ref.path ∧ Accepted outcome

theorem AcceptsPatch.sends {client : Client} {ref : ResourceRef} {events : List Event}
    (h : AcceptsPatch client ref events) : SendsPatch client ref events := by
  obtain ⟨sent, outcome, hmem, hmethod, hurl, -⟩ := h
  exact ⟨_, hmem, sent, List.mem_singleton_self sent, hmethod, hurl⟩

theorem sendsPatch_append {client : Client} {ref : ResourceRef} {before after : List Event} :
    SendsPatch client ref (before ++ after) ↔
      SendsPatch client ref before ∨ SendsPatch client ref after := by
  simp only [SendsPatch, List.mem_append, or_and_right, exists_or]

theorem not_sendsPatch_of_url {client : Client} {ref : ResourceRef} {events : List Event}
    (h : ∀ event ∈ events, ∀ sent ∈ event.requests, sent.url ≠ client.url ref.path) :
    ¬ SendsPatch client ref events := by
  rintro ⟨event, hevent, sent, hsent, -, hurl⟩
  exact h event hevent sent hsent hurl

namespace StoresClient

variable {σ : Type} {outside : Outside σ} {view : σ → Value} {world after : World σ}
  {client : Client} {ref : ResourceRef} {events : List Event} {outcome : Outcome}

/-- Events without a patch of the client leave it. -/
theorem keeps (stores : StoresClient (client.url ref.path) outside view)
    (hnone : ¬ SendsPatch client ref events) (h : World.Undergoes outside world events after) :
    view after.cluster = view world.cluster := by
  refine h.keeps (P := fun cluster => view cluster = view world.cluster)
    (fun event hevent sent hsent cluster hcluster => ?_) rfl
  have hstep := stores.step sent cluster
  generalize view (outside.respond sent cluster).2 = next at *
  cases hstep with
  | kept unaccepted => exact hcluster
  | patched method there applied => exact absurd ⟨event, hevent, sent, hsent, method, there⟩ hnone

/-- A call that reads the client leaves it, and gives the stored one. -/
theorem call_read {request : Request} (stores : StoresClient (client.url ref.path) outside view)
    (hmethod : request.method = .get) (hurl : request.url = client.url ref.path)
    (hcall : world.call outside request = some (outcome, after)) :
    view after.cluster = view world.cluster ∧ ∀ oauth, Reads outcome oauth →
      decodeValue? OAuthClient (view world.cluster) = some oauth := by
  refine World.call_spec (P := fun cluster _ => view cluster = view world.cluster)
    (Q := fun outcome _ => ∀ oauth, Reads outcome oauth →
      decodeValue? OAuthClient (view world.cluster) = some oauth)
    (fun _ cluster _ hcluster => ⟨?_, fun oauth hreads => ?_⟩) rfl hcall
  · have hstep := stores.step request cluster
    generalize view (outside.respond request cluster).2 = next at *
    cases hstep with
    | kept unaccepted => exact hcluster
    | patched method there applied => cases hmethod.symm.trans method
  · rw [← hcluster]
    exact stores.read hmethod hurl hreads

open OAuthClient

/-- A call of the patch that appends a URI leaves the document as it is or with the URI, however
often it is tried; when it comes back accepted, the URI is listed. -/
theorem call_append {change : DomainChange} {token uri : String} {oauth : OAuthClient}
    {members : List (String × Value)}
    (stores : StoresClient (change.client.url change.oauthClientRef.path) outside view)
    (sorted : Members.Sorted members)
    (hread : decodeValue? OAuthClient (.object members) = some oauth)
    (hworld : view world.cluster = .object members)
    (hcall : world.call outside (change.oauthClientWrite token [oauth.appendUri uri]) =
      some (outcome, after)) :
    (view after.cluster = .object members ∨
        view after.cluster = .object (withUris (oauth.uris ++ [uri]) members)) ∧
      (Accepted outcome →
        view after.cluster = .object (withUris (oauth.uris ++ [uri]) members)) := by
  have hfirst := appendUri_applyAll? uri (isSome_of_redirectUris sorted hread)
  have hagain : PatchOp.applyAll? [oauth.appendUri uri]
      (.object (withUris (oauth.uris ++ [uri]) members)) =
        some (.object (withUris (oauth.uris ++ [uri]) members)) := by
    rw [appendUri_applyAll? uri fun _ => by rw [get?_withUris]; rfl, withUris_withUris]
  refine World.call_spec
    (P := fun cluster _ => view cluster = .object members ∨
      view cluster = .object (withUris (oauth.uris ++ [uri]) members))
    (Q := fun outcome cluster => Accepted outcome →
      view cluster = .object (withUris (oauth.uris ++ [uri]) members))
    (fun _ cluster _ hcluster => ?_) (.inl hworld) hcall
  have hstep := stores.step (change.oauthClientWrite token [oauth.appendUri uri]) cluster
  generalize view (outside.respond _ cluster).2 = next at *
  cases hstep with
  | kept unaccepted =>
    exact ⟨hcluster, fun haccepted => absurd (change.oauthClientWrite_url token _)
      (unaccepted haccepted (Client.patchRequest_method ..))⟩
  | patched method there applied =>
    rw [DomainChange.oauthClientWrite, patched?_operations] at applied
    have hnext : next = .object (withUris (oauth.uris ++ [uri]) members) := by
      rcases hcluster with hcluster | hcluster
      · exact Option.some.inj (applied.symm.trans (hcluster ▸ hfirst))
      · exact Option.some.inj (applied.symm.trans (hcluster ▸ hagain))
    exact ⟨.inr hnext, fun _ => hnext⟩

end StoresClient

/-! ## A cluster that can be run -/

namespace ClientStorage

/-- Stores a client at a URL and shows one document of it; a script answers all other requests. -/
def respond (script : Script) (url : String) (shown : Value) (request : Request)
    (document : Value) : Answer × Value :=
  if request.url = url then
    if request.method = .patch then
      match patched? request document with
      | some next => (Script.answer 200 .null, next)
      | none => (Script.answer 422 .null, document)
    else if document = shown then (Script.answer 200 document, document)
    else (Script.answer 404 .null, document)
  else (script request.method request.url 0, document)

/-- The outside of a cluster that stores a client. -/
def outside (script : Script) (url : String) (shown : Value) : Outside Value :=
  ⟨respond script url shown, Script.plainIssuer, .standard⟩

/-- The cluster stores the client, if it shows it as it is. -/
theorem outside_storesClient (script : Script) (url : String) {shown : Value}
    (hshown : decodeText? OAuthClient shown.render = decodeValue? OAuthClient shown) :
    StoresClient url (outside script url shown) id where
  read := by
    intro request document oauth hmethod hurl hreads
    have hget : request.method ≠ .patch := by
      rw [hmethod]
      decide
    simp only [outside, respond, hurl, hget, if_true, if_false] at hreads
    split at hreads
    · next hsame =>
      obtain ⟨response, hresponse, -, hjson⟩ := hreads
      cases hresponse
      rw [id, hsame, ← hshown, ← hsame]
      exact hjson
    · obtain ⟨response, hresponse, hsuccess, -⟩ := hreads
      cases hresponse
      cases hsuccess
  step := by
    intro request document
    simp only [outside, respond, id]
    split
    · next hurl =>
      split
      · next hmethod =>
        split
        · next next hnext => exact .patched hmethod hurl hnext
        · exact .kept fun haccepted => absurd haccepted Documents.not_accepted_422
      · next hmethod =>
        split <;> exact .kept fun _ hpatch => absurd hpatch hmethod
    · next hurl => exact .kept fun _ _ => hurl

end ClientStorage

end EdgeSetup
