import EdgeSetup.Proofs.DomainChange.Steps
import EdgeSetup.Proofs.Json.Patches
import EdgeSetup.Proofs.Json.Reversible

/-!
# The redirect URIs of the setup UI

The login of the setup UI is an OAuth client whose document may list redirect URIs, list none, say
null or say nothing of them. An update adds a URI to the ones that were read, unless it is among
them.

**The patch applies** (`OAuthClient.appendsUri`). Whether it adds the list or replaces it depends on
the client that was read, and it always fits the document that the client was read from: a list that
was read is there to be replaced, and a member can be added over null.

**Once is enough** (`AppendsRedirect`). What the patch leaves reads as a client that lists the URI,
so an update of it sends no patch.
-/

namespace EdgeSetup

open Json Http

/-! ## Documents of OAuth clients -/

namespace OAuthClient

variable {client : OAuthClient} {members : List (String × Value)} {uri : String}

/-- The document of a client is written as an object. -/
inductive Written : Value → Prop where
  | intro {members : List (String × Value)} (sorted : Members.Sorted members) :
      Written (.object members)

/-- The redirect URIs that a client lists. -/
def uris (client : OAuthClient) : List String := client.redirectUris.getD []

/-- What a client reads of an object is its two members. -/
theorem decodeValue?_eq_some (sorted : Members.Sorted members) :
    decodeValue? OAuthClient (.object members) = some client ↔
      Members.readOr? members "metadata" ObjectMeta.empty = some client.metadata ∧
        Members.readOr? members "redirectURIs" none = some client.redirectUris := by
  have hobject : decodeValue? OAuthClient (.object members) =
      (Members.readOr? members "metadata" ObjectMeta.empty).bind fun metadata =>
        (Members.readOr? members "redirectURIs" none).bind fun uris => some ⟨metadata, uris⟩ :=
    Record.bind_pair_object sorted.nodup "metadata" "redirectURIs" ObjectMeta.empty none mk
  rw [hobject]
  constructor
  · intro h
    obtain ⟨metadata, hmetadata, hrest⟩ := Option.bind_eq_some_iff.1 h
    obtain ⟨uris, huris, hclient⟩ := Option.bind_eq_some_iff.1 hrest
    cases hclient
    exact ⟨hmetadata, huris⟩
  · rintro ⟨hmetadata, huris⟩
    rw [hmetadata, huris]
    rfl

/-- The members of a document that lists redirect URIs. -/
def withUris (uris : List String) (members : List (String × Value)) : List (String × Value) :=
  Members.insert "redirectURIs" (encode uris) members

@[simp] theorem withUris_withUris (uris others : List String) :
    withUris uris (withUris others members) = withUris uris members :=
  Members.insert_insert ..

@[simp] theorem get?_withUris (uris : List String) :
    Members.get? (withUris uris members) "redirectURIs" = some (encode uris) :=
  Members.get?_insert_self ..

theorem get?_withUris_of_ne {key : String} (h : key ≠ "redirectURIs") (uris : List String) :
    Members.get? (withUris uris members) key = Members.get? members key :=
  Members.get?_insert_of_ne h ..

theorem sorted_withUris (sorted : Members.Sorted members) (uris : List String) :
    Members.Sorted (withUris uris members) :=
  sorted.insert _ _

/-- A document that lists other redirect URIs reads as the client with these. -/
theorem decodeValue?_withUris (sorted : Members.Sorted members)
    (h : decodeValue? OAuthClient (.object members) = some client) (uris : List String) :
    decodeValue? OAuthClient (.object (withUris uris members)) =
      some { client with redirectUris := some uris } := by
  refine (decodeValue?_eq_some (sorted_withUris sorted uris)).2 ⟨?_, ?_⟩
  · rw [← ((decodeValue?_eq_some sorted).1 h).1, Members.readOr?, get?_withUris_of_ne (by decide)]
    rfl
  · simp only [Members.readOr?, get?_withUris]
    exact Reversible.decodeValue?_encode (some uris)

/-- A list that was read is there. -/
theorem isSome_of_redirectUris (sorted : Members.Sorted members)
    (h : decodeValue? OAuthClient (.object members) = some client)
    (hsome : client.redirectUris.isSome = true) :
    (Members.get? members "redirectURIs").isSome = true :=
  Members.isSome_of_readOr? ((decodeValue?_eq_some sorted).1 h).2 hsome

/-! ## The patch -/

/-- The operation that lists one more redirect URI. -/
def appendUri (client : OAuthClient) (uri : String) : PatchOp :=
  .upsert client.redirectUris.isSome "/redirectURIs" (encode (client.uris ++ [uri]))

theorem redirectPatch?_of_mem (h : uri ∈ client.uris) : redirectPatch? client uri = none :=
  if_pos (List.contains_iff_mem.2 h)

theorem redirectPatch?_of_not_mem (h : uri ∉ client.uris) :
    redirectPatch? client uri = some [client.appendUri uri] :=
  if_neg fun hcontains => h (List.contains_iff_mem.1 hcontains)

/-- The operation sets the list of any document that has a list if the client has one. -/
theorem appendUri_applyAll? (uri : String)
    (h : client.redirectUris.isSome = true →
      (Members.get? members "redirectURIs").isSome = true) :
    PatchOp.applyAll? [client.appendUri uri] (.object members) =
      some (.object (withUris (client.uris ++ [uri]) members)) := by
  have hpath : Pointer.parse? "/redirectURIs" = some ["redirectURIs"] := by decide +kernel
  rw [PatchOp.applyAll?, List.foldlM_cons, appendUri, PatchOp.upsert_applyTo?_member hpath h]
  rfl

/-- An operation adds a redirect URI to a document and keeps everything else. -/
structure AppendsUri (document : Value) (client : OAuthClient) (uri : String)
    (operation : PatchOp) (patched : Value) : Prop where
  applies : PatchOp.applyAll? [operation] document = some patched
  /-- The new URI follows the old ones, which stay in their order. -/
  uris : patched.get? "redirectURIs" = some (encode (client.uris ++ [uri]))
  beside : ∀ key, key ≠ "redirectURIs" → patched.get? key = document.get? key
  reads : decodeValue? OAuthClient patched =
    some { client with redirectUris := some (client.uris ++ [uri]) }

/-- The operation fits the document that the client was read from. -/
theorem appendsUri (sorted : Members.Sorted members)
    (h : decodeValue? OAuthClient (.object members) = some client) (uri : String) :
    AppendsUri (.object members) client uri (client.appendUri uri)
      (.object (withUris (client.uris ++ [uri]) members)) where
  applies := appendUri_applyAll? uri (isSome_of_redirectUris sorted h)
  uris := get?_withUris _
  beside _ hkey := get?_withUris_of_ne hkey _
  reads := decodeValue?_withUris sorted h _

end OAuthClient

/-! ## The update -/

namespace DomainChange

variable {change : DomainChange} {token uri : String} {events : List Event}

/-- Whatever the read of the OAuth client is answered with, the update goes on to an end. -/
theorem updateRedirect_ends (change : DomainChange) (token uri : String) (outcome : Outcome) :
    ∃ rest result, Attempting.Runs (change.updateRedirect token uri)
      (.called (change.oauthClientRead token) outcome :: rest) result :=
  Session.exists_runs_send rfl outcome

/-- An update that reads a client which lists the URI sends nothing more. -/
theorem UpdatesRedirect.of_mem {outcome : Outcome} {client : OAuthClient}
    {result : Except SetupError Unit}
    (h : UpdatesRedirect change token uri
      (.called (change.oauthClientRead token) outcome :: events) result)
    (hreads : Reads outcome client) (hmem : uri ∈ client.uris) : events = [] := by
  cases h with
  | unread _ => rfl
  | listed _ _ => rfl
  | patched reads missing _ =>
    rw [reads.unique hreads, OAuthClient.redirectPatch?_of_mem hmem] at missing
    cases missing

/-- An update that reads a client which does not list the URI sends one patch that lists it. -/
theorem UpdatesRedirect.of_not_mem {outcome : Outcome} {client : OAuthClient}
    {result : Except SetupError Unit}
    (h : UpdatesRedirect change token uri
      (.called (change.oauthClientRead token) outcome :: events) result)
    (hreads : Reads outcome client) (hmissing : uri ∉ client.uris) :
    ∃ written, events =
      [.called (change.oauthClientWrite token [client.appendUri uri]) written] := by
  have hpatch := OAuthClient.redirectPatch?_of_not_mem hmissing
  cases h with
  | unread unreadable => exact absurd hreads (unreadable client)
  | listed reads there =>
    rw [reads.unique hreads, hpatch] at there
    cases there
  | patched reads missing _ =>
    rw [reads.unique hreads, hpatch] at missing
    cases missing
    exact ⟨_, rfl⟩

/-- What an update does once it has read the client of a document. -/
inductive AppendsRedirect (change : DomainChange) (token uri : String) (document : Value)
    (client : OAuthClient) : List Event → Prop where
  /-- The URI is listed, and nothing is sent. -/
  | listed (there : uri ∈ client.uris) : AppendsRedirect change token uri document client []
  /-- One patch is sent, which applies to the document; an update of what it leaves sends none. -/
  | appended {operation : PatchOp} {patched : Value} {written : Outcome}
      (missing : uri ∉ client.uris)
      (appends : OAuthClient.AppendsUri document client uri operation patched)
      (again : ∀ {token' : String} {client' : OAuthClient} {outcome : Outcome}
        {rest : List Event} {result : Except SetupError Unit},
        Attempting.Runs (change.updateRedirect token' uri)
          (.called (change.oauthClientRead token') outcome :: rest) result →
        Reads outcome client' → decodeValue? OAuthClient patched = some client' → rest = []) :
      AppendsRedirect change token uri document client
        [.called (change.oauthClientWrite token [operation]) written]

/-- An update appends the URI to the document that it read, or finds it listed there. -/
theorem updateRedirect_appends {document : Value} {client : OAuthClient} {outcome : Outcome}
    {result : Except SetupError Unit} (written : OAuthClient.Written document)
    (decodes : decodeValue? OAuthClient document = some client)
    (h : Attempting.Runs (change.updateRedirect token uri)
      (.called (change.oauthClientRead token) outcome :: events) result)
    (hreads : Reads outcome client) :
    AppendsRedirect change token uri document client events := by
  obtain ⟨sorted⟩ := written
  by_cases hmem : uri ∈ client.uris
  · obtain rfl := (updateRedirect_runs h).of_mem hreads hmem
    exact .listed hmem
  · obtain ⟨written, rfl⟩ := (updateRedirect_runs h).of_not_mem hreads hmem
    have happends := OAuthClient.appendsUri sorted decodes uri
    refine .appended hmem happends fun {_ _ _ _ _} hagain hreads' hread => ?_
    obtain rfl := Option.some.inj (happends.reads.symm.trans hread)
    refine (updateRedirect_runs hagain).of_mem hreads' ?_
    exact List.mem_append_right _ (List.mem_singleton_self uri)

end DomainChange

end EdgeSetup
