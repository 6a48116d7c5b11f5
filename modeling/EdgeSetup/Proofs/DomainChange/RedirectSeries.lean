import EdgeSetup.Proofs.DomainChange.ClientStorage

/-!
# Redirect URIs over many domain changes

What becomes of the OAuth client of the setup UI on a cluster that stores it, over any number of
domain changes to any suffixes, each with answers and failures of its own.

**One run.** Only the update of the client can change it (`Course.redirect`), and what the update
worked out from its read is applied to the document that it read, however often the patch is tried
(`StoresClient.call_append`). So a run keeps the client as it is or appends its URI
(`StoredRedirect.Completes.grows`).

**All runs** (`redirects_appended`). URIs stay in their order, none is dropped, and none is listed
more often than it was, or than once. A URI that is listed is not sent again.
-/

namespace EdgeSetup

open Json Http

/-! ## The update within a run -/

namespace DomainChange

variable {change : DomainChange} {token suffix : String} {request : DomainChangeRequest}
  {events before : List Event}

theorem url_ne_oauthClientRef (change : DomainChange) (ref : ResourceRef)
    (h : ref.kind.mark ≠ 'o') :
    change.client.url ref.path ≠ change.client.url change.oauthClientRef.path := by
  have hmark : ref.kind.mark ≠ change.oauthClientRef.kind.mark := h
  have hne : change.client.url (ref.path ++ "") ≠ _ := Client.url_ne_of_mark_ne hmark ""
  rwa [String.append_empty] at hne

/-- Before the API server was patched, no patch of the OAuth client is sent. -/
theorem Permitted.not_sendsPatch {event : Event} (h : Permitted change token request before event)
    (hunaccepted : ¬ change.ApiServerAccepted token before) :
    ¬ SendsPatch change.client change.oauthClientRef [event] := by
  rintro ⟨_, hevent, sent, hsent, hmethod, hurl⟩
  rw [List.mem_singleton.1 hevent] at hsent
  cases h with
  | readIngress asked first =>
    rw [List.mem_singleton.1 hsent, ingressRead_method] at hmethod
    cases hmethod
  | obtainPair turn => cases hsent
  | storePair turn =>
    rw [List.mem_singleton.1 hsent, secretPost_method] at hmethod
    cases hmethod
  | listRoutes secured unpatched =>
    rw [List.mem_singleton.1 hsent, routeList_method] at hmethod
    cases hmethod
  | moveRoutes secured unpatched routes =>
    obtain ⟨exchange, hexchange, rfl⟩ := List.mem_map.1 hsent
    obtain ⟨inNamespace, name, host, hroute⟩ := routes exchange hexchange
    rw [hroute, routeWrite_url] at hurl
    exact change.url_ne_oauthClientRef (.namespaced .route inNamespace name)
      (show 'r' ≠ 'o' by decide) hurl
  | patchIngress secured unpatched =>
    rw [List.mem_singleton.1 hsent, ingressWrite_url] at hurl
    exact change.url_ne_oauthClientRef _ (by decide) hurl
  | patchApiServer asked accepted =>
    rw [List.mem_singleton.1 hsent, apiServerWrite_url] at hurl
    exact change.url_ne_oauthClientRef _ (by decide) hurl
  | refreshUi accepted enabled refreshes => exact hunaccepted accepted
  | count => cases hsent

theorem not_sendsPatch_of_inOrder (h : InOrder (Permitted change token request) [] events)
    (hunaccepted : ¬ change.ApiServerAccepted token events) :
    ¬ SendsPatch change.client change.oauthClientRef events := by
  rintro ⟨event, hevent, hsends⟩
  obtain ⟨earlier, later, rfl⟩ := List.append_of_mem hevent
  refine (h earlier event later rfl).not_sendsPatch (fun haccepted => ?_)
    ⟨event, List.mem_singleton_self event, hsends⟩
  exact hunaccepted (haccepted.append _)

/-- The update of the deployment sends no patch of the OAuth client. -/
theorem UpdatesDeployment.not_sendsPatch {host : String} {result : Except SetupError Unit}
    (h : UpdatesDeployment change token host events result) :
    ¬ SendsPatch change.client change.oauthClientRef events := by
  have hother := change.url_ne_oauthClientRef change.deploymentRef (show 'a' ≠ 'o' by decide)
  refine not_sendsPatch_of_url fun event hevent sent hsent => ?_
  cases h with
  | unread _ | unfit _ _ =>
    rw [List.mem_singleton.1 hevent] at hsent
    rwa [List.mem_singleton.1 hsent, deploymentRead_url]
  | patched _ _ _ =>
    simp only [List.mem_cons, List.not_mem_nil, or_false] at hevent
    rcases hevent with rfl | rfl
    · rwa [List.mem_singleton.1 hsent, deploymentRead_url]
    · rwa [List.mem_singleton.1 hsent, deploymentWrite_url]

/-- Neither do the patches of the configurations. -/
theorem Prepares.not_sendsPatch {domains : Dns.ClusterDomains} {ingress : IngressConfig}
    {apiPair : StoredPair} {pairs : List StoredPair} {counts : RehostCounts}
    {preparing : List Event} {written pointed : Outcome}
    (h : Prepares change token request domains ingress apiPair pairs counts preparing) :
    ¬ SendsPatch change.client change.oauthClientRef
      (preparing ++ [.called (change.finalIngressWrite token domains ingress pairs) written,
        .called (change.finalApiServerWrite token domains apiPair) pointed]) := by
  obtain ⟨horder, hunpatched, -⟩ := h.inOrder
  rw [sendsPatch_append, not_or]
  refine ⟨not_sendsPatch_of_inOrder horder hunpatched.not_apiServerAccepted,
    not_sendsPatch_of_url fun event hevent sent hsent => ?_⟩
  simp only [List.mem_cons, List.not_mem_nil, or_false] at hevent
  rcases hevent with rfl | rfl
  · rw [List.mem_singleton.1 hsent, finalIngressWrite, ingressWrite_url]
    exact change.url_ne_oauthClientRef ingressRef (show 'c' ≠ 'o' by decide)
  · rw [List.mem_singleton.1 hsent, finalApiServerWrite, apiServerWrite_url]
    exact change.url_ne_oauthClientRef apiServerRef (show 'c' ≠ 'o' by decide)

/-- A run updates the OAuth client at most once, with the URI of its suffix, and all else that it
sends is no patch of it. -/
theorem Course.redirect {result : Except SetupError DomainChangeOutcome}
    (h : Course change token request events result) (asked : Asks request suffix) :
    ∃ earlier redirect later, events = earlier ++ (redirect ++ later) ∧
      ¬ SendsPatch change.client change.oauthClientRef earlier ∧
      ¬ SendsPatch change.client change.oauthClientRef later ∧
        (redirect = [] ∨ ∃ updated, UpdatesRedirect change token
          (redirectUri (Dns.ClusterDomains.ofSuffix suffix).setupUi) redirect updated) := by
  have hnone : ¬ SendsPatch change.client change.oauthClientRef [] := not_sendsPatch_of_url nofun
  by_cases hmigrated : ∃ counts, result = .ok (.migrated counts)
  · obtain ⟨counts, rfl⟩ := hmigrated
    cases h with
    | @migrated _ ingress apiPair pairs _ preparing _ written pointed _ prepares _ _ refreshes =>
      obtain ⟨_, -, opens⟩ := prepares.reads
      cases opens.named.symm.trans asked.requestedDomains
      refine ⟨preparing ++
        [.called (change.finalIngressWrite token (.ofSuffix suffix) ingress pairs) written,
          .called (change.finalApiServerWrite token (.ofSuffix suffix) apiPair) pointed], ?_⟩
      cases refreshes with
      | off disabled =>
        exact ⟨[], [], (List.append_nil _).symm, prepares.not_sendsPatch, hnone, .inl rfl⟩
      | on enabled first rest =>
        refine ⟨_, _, ?_, prepares.not_sendsPatch, rest.not_sendsPatch, .inr ⟨_, first⟩⟩
        rw [List.append_assoc]
        rfl
  · have hunaccepted := mt h.apiServerAccepted_iff.1 hmigrated
    exact ⟨events, [], [], by simp, not_sendsPatch_of_inOrder h.inOrder hunaccepted, hnone,
      .inl rfl⟩

end DomainChange

/-! ## One run -/

/-- A run of a domain change on a cluster that stores the OAuth client of the setup UI. -/
structure StoredRedirect where
  /-- The redirect URI of the suffix that was asked for. -/
  uri : String
  events : List Event
  before : Value
  after : Value

/-- What events make of the document of a client: it stays as it is, or lists one more URI. -/
structure Appends (client : Client) (ref : ResourceRef) (uri : String) (events : List Event)
    (before : Value) (oauth : OAuthClient) (after : Value) (oauth' : OAuthClient) : Prop where
  written : OAuthClient.Written after
  reads : decodeValue? OAuthClient after = some oauth'
  uris : oauth'.uris = oauth.uris ∨ uri ∉ oauth.uris ∧ oauth'.uris = oauth.uris ++ [uri]
  beside : ∀ key, key ≠ "redirectURIs" → after.get? key = before.get? key
  /-- A URI that is listed is not sent. -/
  quiet : uri ∈ oauth.uris → ¬ SendsPatch client ref events
  /-- A URI that was sent and accepted is listed. -/
  listed : AcceptsPatch client ref events → uri ∈ oauth'.uris

namespace Appends

variable {client : Client} {ref : ResourceRef} {uri : String} {events earlier later : List Event}
  {before after : Value} {oauth oauth' : OAuthClient}

/-- Events without a patch of the client append nothing. -/
theorem of_not_sendsPatch (written : OAuthClient.Written before)
    (reads : decodeValue? OAuthClient before = some oauth)
    (hnone : ¬ SendsPatch client ref events) :
    Appends client ref uri events before oauth before oauth where
  written := written
  reads := reads
  uris := .inl rfl
  beside _ _ := rfl
  quiet _ := hnone
  listed haccepts := absurd haccepts.sends hnone

/-- Other events before and after make no difference. -/
theorem extend (h : Appends client ref uri events before oauth after oauth')
    (hearlier : ¬ SendsPatch client ref earlier) (hlater : ¬ SendsPatch client ref later) :
    Appends client ref uri (earlier ++ (events ++ later)) before oauth after oauth' where
  written := h.written
  reads := h.reads
  uris := h.uris
  beside := h.beside
  quiet hmem := by
    rw [sendsPatch_append, sendsPatch_append]
    exact not_or.2 ⟨hearlier, not_or.2 ⟨h.quiet hmem, hlater⟩⟩
  listed := by
    rintro ⟨sent, outcome, hmem, haccepts⟩
    have hsends : ∀ {others}, .called sent outcome ∈ others → SendsPatch client ref others :=
      fun hother => AcceptsPatch.sends ⟨sent, outcome, hother, haccepts⟩
    rcases List.mem_append.1 hmem with hmem | hmem
    · exact absurd (hsends hmem) hearlier
    rcases List.mem_append.1 hmem with hmem | hmem
    · exact h.listed ⟨sent, outcome, hmem, haccepts⟩
    · exact absurd (hsends hmem) hlater

end Appends

namespace DomainChange

variable {change : DomainChange} {token uri : String} {events : List Event} {σ : Type}
  {outside : Outside σ} {view : σ → Value} {world after : World σ} {oauth : OAuthClient}

/-- The patch of the client appends its URI, or nothing. -/
theorem appends_of_call {outcome : Outcome}
    (stores : StoresClient (change.client.url change.oauthClientRef.path) outside view)
    (written : OAuthClient.Written (view world.cluster))
    (reads : decodeValue? OAuthClient (view world.cluster) = some oauth)
    (hmissing : uri ∉ oauth.uris)
    (hcall : world.call outside (change.oauthClientWrite token [oauth.appendUri uri]) =
      some (outcome, after)) :
    ∃ oauth', Appends change.client change.oauthClientRef uri
      [.called (change.oauthClientWrite token [oauth.appendUri uri]) outcome]
      (view world.cluster) oauth (view after.cluster) oauth' := by
  generalize hworld : view world.cluster = document at *
  cases written with
  | @intro members sorted =>
    have happends := OAuthClient.appendsUri sorted reads uri
    obtain ⟨hafter, haccepted⟩ := stores.call_append sorted reads hworld hcall
    generalize view after.cluster = next at *
    generalize hdone : Value.object (OAuthClient.withUris (oauth.uris ++ [uri]) members) = done at *
    by_cases hnext : next = done
    · subst hnext hdone
      exact ⟨_,
        { written := .intro (OAuthClient.sorted_withUris sorted _)
          reads := happends.reads
          uris := .inr ⟨hmissing, rfl⟩
          beside := happends.beside
          quiet := fun hmem => absurd hmem hmissing
          listed := fun _ => List.mem_append_right _ (List.mem_singleton_self uri) }⟩
    · obtain rfl := hafter.resolve_right hnext
      refine ⟨oauth,
        { written := .intro sorted
          reads := reads
          uris := .inl rfl
          beside := fun _ _ => rfl
          quiet := fun hmem => absurd hmem hmissing
          listed := ?_ }⟩
      rintro ⟨sent, answered, hmem, -, -, haccepts⟩
      cases List.mem_singleton.1 hmem
      exact absurd (haccepted haccepts) hnext

/-- The update of the client appends its URI, or nothing. -/
theorem UpdatesRedirect.appends {result : Except SetupError Unit}
    (h : UpdatesRedirect change token uri events result)
    (stores : StoresClient (change.client.url change.oauthClientRef.path) outside view)
    (hundergoes : World.Undergoes outside world events after)
    (written : OAuthClient.Written (view world.cluster))
    (reads : decodeValue? OAuthClient (view world.cluster) = some oauth) :
    ∃ oauth', Appends change.client change.oauthClientRef uri events (view world.cluster) oauth
      (view after.cluster) oauth' := by
  have hread : ∀ {outcome middle}, world.call outside (change.oauthClientRead token) =
      some (outcome, middle) → view middle.cluster = view world.cluster ∧
        ∀ client, Reads outcome client → client = oauth := by
    intro outcome middle hcall
    obtain ⟨hkept, hstored⟩ := stores.call_read (Client.readRequest_method ..)
      (change.oauthClientRead_url token) hcall
    exact ⟨hkept, fun client hreads =>
      Option.some.inj ((hstored client hreads).symm.trans reads)⟩
  have hget : ∀ outcome, ¬ SendsPatch change.client change.oauthClientRef
      [.called (change.oauthClientRead token) outcome] := by
    rintro outcome ⟨_, hevent, sent, hsent, hmethod, -⟩
    rw [List.mem_singleton.1 hevent] at hsent
    rw [List.mem_singleton.1 hsent, oauthClientRead, Client.readRequest_method] at hmethod
    cases hmethod
  cases h with
  | unread _ | listed _ _ =>
    obtain ⟨_⟩ | ⟨step, ⟨⟩⟩ := hundergoes
    rw [(hread step).1]
    exact ⟨oauth, .of_not_sendsPatch written reads (hget _)⟩
  | patched answered missing _ =>
    obtain ⟨_⟩ | ⟨step, ⟨_⟩ | ⟨step', ⟨⟩⟩⟩ := hundergoes
    obtain ⟨hkept, hclient⟩ := hread step
    rw [hclient _ answered] at missing
    have hmissing : uri ∉ oauth.uris := fun hmem => by
      rw [OAuthClient.redirectPatch?_of_mem hmem] at missing
      cases missing
    rw [OAuthClient.redirectPatch?_of_not_mem hmissing] at missing
    cases missing
    rw [← hkept] at written reads ⊢
    obtain ⟨oauth', happends⟩ := appends_of_call stores written reads hmissing step'
    exact ⟨oauth', happends.extend (hget _) (not_sendsPatch_of_url nofun)⟩

end DomainChange

namespace Appends

variable {client : Client} {ref : ResourceRef} {uri : String} {events : List Event}
  {before after : Value} {oauth oauth' : OAuthClient}

theorem kept (h : Appends client ref uri events before oauth after oauth') :
    oauth.uris <+: oauth'.uris := by
  rcases h.uris with hsame | ⟨-, hmore⟩
  · exact hsame.symm ▸ List.prefix_rfl
  · rw [hmore]
    exact List.prefix_append ..

theorem of_mem (h : Appends client ref uri events before oauth after oauth') {other : String}
    (hmem : other ∈ oauth'.uris) : other ∈ oauth.uris ∨ uri = other := by
  rcases h.uris with hsame | ⟨-, hmore⟩
  · exact .inl (hsame ▸ hmem)
  · rw [hmore, List.mem_append, List.mem_singleton] at hmem
    exact hmem.imp_right Eq.symm

/-- A URI that is new is listed once. -/
theorem count_le (h : Appends client ref uri events before oauth after oauth') (other : String) :
    oauth'.uris.count other ≤ max (oauth.uris.count other) 1 := by
  rcases h.uris with hsame | ⟨hmissing, hmore⟩
  · rw [hsame]
    exact Nat.le_max_left ..
  · rw [hmore, List.count_append]
    by_cases hother : other = uri
    · rw [hother, List.count_eq_zero.2 hmissing]
      simp
    · have hnone : List.count other [uri] = 0 := List.count_eq_zero.2 (by simpa using hother)
      rw [hnone]
      exact Nat.le_max_left ..

end Appends

namespace StoredRedirect

/-- The run is one of a domain change whose setup UI has the OAuth client, with any answers of a
cluster that stores the client, and of any issuer. -/
inductive Completes (client : Client) (ref : ResourceRef) : StoredRedirect → Prop where
  | intro {change : DomainChange} {token suffix : String} {request : DomainChangeRequest} {σ : Type}
      {outside : Outside σ} {view : σ → Value} {world after : World σ} {events : List Event}
      {result : Except SetupError DomainChangeOutcome} (same : change.client = client)
      (named : change.oauthClientRef = ref)
      (stores : StoresClient (client.url ref.path) outside view)
      (asked : DomainChange.Asks request suffix)
      (runs : (change.run token request).Runs events result)
      (undergoes : World.Undergoes outside world events after) :
      Completes client ref ⟨redirectUri (Dns.ClusterDomains.ofSuffix suffix).setupUi, events,
        view world.cluster, view after.cluster⟩

/-- A run appends the URI of its suffix to the client, or nothing. -/
theorem Completes.appends {client : Client} {ref : ResourceRef} {run : StoredRedirect}
    {oauth : OAuthClient} (h : run.Completes client ref) (written : OAuthClient.Written run.before)
    (reads : decodeValue? OAuthClient run.before = some oauth) :
    ∃ oauth', Appends client ref run.uri run.events run.before oauth run.after oauth' := by
  cases h with
  | @intro change _ suffix _ _ _ view world after _ result same named stores asked runs undergoes =>
    subst same named
    obtain ⟨first, rfl, hcourse⟩ := DomainChange.run_course runs
    obtain ⟨earlier, redirect, later, rfl, hearlier, hlater, hredirect⟩ := hcourse.redirect asked
    -- the count of the result is one more event after the update
    have hlast : ¬ SendsPatch change.client change.oauthClientRef
        (later ++ [.counted (.domainChanges (DomainChange.label result)) 1]) := by
      rw [sendsPatch_append, not_or]
      refine ⟨hlater, not_sendsPatch_of_url fun event hevent sent hsent => ?_⟩
      rw [List.mem_singleton.1 hevent] at hsent
      cases hsent
    rw [List.append_assoc, List.append_assoc] at undergoes ⊢
    obtain ⟨start, hbefore, hrest⟩ := undergoes.split
    obtain ⟨finish, hupdate, hafter⟩ := hrest.split
    rw [stores.keeps hlast hafter, ← stores.keeps hearlier hbefore]
    rw [← stores.keeps hearlier hbefore] at written reads
    have happends : ∃ oauth', Appends change.client change.oauthClientRef
        (redirectUri (Dns.ClusterDomains.ofSuffix suffix).setupUi) redirect
        (view start.cluster) oauth (view finish.cluster) oauth' := by
      rcases hredirect with rfl | ⟨updated, hupdates⟩
      · cases hupdate
        exact ⟨oauth, .of_not_sendsPatch written reads (not_sendsPatch_of_url nofun)⟩
      · exact hupdates.appends stores hupdate written reads
    obtain ⟨oauth', happends⟩ := happends
    exact ⟨oauth', happends.extend hearlier hlast⟩

end StoredRedirect

/-! ## Any number of runs -/

/-- The runs follow each other: each starts with what the one before it left. -/
inductive RedirectSeries (client : Client) (ref : ResourceRef) :
    Value → List StoredRedirect → Value → Prop where
  | nil (document : Value) : RedirectSeries client ref document [] document
  | cons {run : StoredRedirect} {runs : List StoredRedirect} {last : Value}
      (completes : run.Completes client ref)
      (later : RedirectSeries client ref run.after runs last) :
      RedirectSeries client ref run.before (run :: runs) last

/-- What runs make of the document of a client. -/
structure Grows (client : Client) (ref : ResourceRef) (runs : List StoredRedirect) (first : Value)
    (oauth : OAuthClient) (last : Value) (oauth' : OAuthClient) : Prop where
  written : OAuthClient.Written last
  reads : decodeValue? OAuthClient last = some oauth'
  /-- The URIs that were listed stay, in their order and before all others. -/
  kept : oauth.uris <+: oauth'.uris
  /-- None is listed more often than it was, or than once. -/
  once : ∀ uri, oauth'.uris.count uri ≤ max (oauth.uris.count uri) 1
  /-- Those that are new were asked for. -/
  asked : ∀ uri ∈ oauth'.uris, uri ∈ oauth.uris ∨ ∃ run ∈ runs, run.uri = uri
  /-- Those that were sent and accepted are listed. -/
  listed : ∀ run ∈ runs, AcceptsPatch client ref run.events → run.uri ∈ oauth'.uris
  beside : ∀ key, key ≠ "redirectURIs" → last.get? key = first.get? key

section

variable {client : Client} {ref : ResourceRef} {first last : Value} {oauth oauth' : OAuthClient}
  {run : StoredRedirect} {runs earlier later : List StoredRedirect}

theorem Grows.nil (written : OAuthClient.Written first)
    (reads : decodeValue? OAuthClient first = some oauth) :
    Grows client ref [] first oauth first oauth where
  written := written
  reads := reads
  kept := List.prefix_rfl
  once _ := Nat.le_max_left ..
  asked _ hmem := .inl hmem
  listed := nofun
  beside _ _ := rfl

/-- One run before the others. -/
theorem Grows.cons {next : OAuthClient}
    (h : Appends client ref run.uri run.events run.before oauth run.after next)
    (hlater : Grows client ref runs run.after next last oauth') :
    Grows client ref (run :: runs) run.before oauth last oauth' where
  written := hlater.written
  reads := hlater.reads
  kept := h.kept.trans hlater.kept
  once uri := by
    have hfirst := h.count_le uri
    have hrest := hlater.once uri
    omega
  asked uri hmem := by
    rcases hlater.asked uri hmem with hmem | ⟨other, hother, huri⟩
    · refine (h.of_mem hmem).imp_right fun huri => ?_
      exact ⟨run, List.mem_cons_self .., huri⟩
    · exact .inr ⟨other, List.mem_cons_of_mem _ hother, huri⟩
  listed other hother haccepts := by
    rcases List.mem_cons.1 hother with rfl | hother
    · exact hlater.kept.subset (h.listed haccepts)
    · exact hlater.listed other hother haccepts
  beside key hkey := (hlater.beside key hkey).trans (h.beside key hkey)

theorem RedirectSeries.grows (h : RedirectSeries client ref first runs last)
    (written : OAuthClient.Written first) (reads : decodeValue? OAuthClient first = some oauth) :
    ∃ oauth', Grows client ref runs first oauth last oauth' := by
  induction h generalizing oauth with
  | nil document => exact ⟨oauth, .nil written reads⟩
  | cons completes later ih =>
    obtain ⟨next, happends⟩ := completes.appends written reads
    obtain ⟨oauth', hgrows⟩ := ih happends.written happends.reads
    exact ⟨oauth', .cons happends hgrows⟩

theorem RedirectSeries.split (h : RedirectSeries client ref first (earlier ++ run :: later) last) :
    RedirectSeries client ref first earlier run.before ∧ run.Completes client ref := by
  induction earlier generalizing first with
  | nil =>
    cases h with
    | cons completes later => exact ⟨.nil _, completes⟩
  | cons other earlier ih =>
    cases h with
    | cons completes later =>
      obtain ⟨hearlier, hrun⟩ := ih later
      exact ⟨.cons completes hearlier, hrun⟩

/-- A run whose URI is listed, or was sent and accepted before, sends no patch of the client. -/
theorem RedirectSeries.quiet (h : RedirectSeries client ref first (earlier ++ run :: later) last)
    (written : OAuthClient.Written first) (reads : decodeValue? OAuthClient first = some oauth)
    (hlisted : run.uri ∈ oauth.uris ∨
      ∃ other ∈ earlier, other.uri = run.uri ∧ AcceptsPatch client ref other.events) :
    ¬ SendsPatch client ref run.events := by
  obtain ⟨hearlier, hcompletes⟩ := h.split
  obtain ⟨next, hgrows⟩ := hearlier.grows written reads
  obtain ⟨_, happends⟩ := hcompletes.appends hgrows.written hgrows.reads
  refine happends.quiet ?_
  rcases hlisted with hmem | ⟨other, hother, huri, haccepts⟩
  · exact hgrows.kept.subset hmem
  · exact huri ▸ hgrows.listed other hother haccepts

end

/-- What an update of a client does, and what any number of domain changes do. -/
structure AppendsOnly (document : Value) (oauth : OAuthClient) : Prop where
  /-- An update goes on to an end whatever its read is answered with. -/
  ends : ∀ (change : DomainChange) (token uri : String) (outcome : Outcome),
    ∃ events result, Attempting.Runs (change.updateRedirect token uri)
      (.called (change.oauthClientRead token) outcome :: events) result
  /-- An update that read the client appends its URI, unless it is listed. -/
  update : ∀ {change : DomainChange} {token uri : String} {outcome : Outcome}
    {events : List Event} {result : Except SetupError Unit},
    Attempting.Runs (change.updateRedirect token uri)
      (.called (change.oauthClientRead token) outcome :: events) result →
    Reads outcome oauth → DomainChange.AppendsRedirect change token uri document oauth events
  /-- Domain changes drop no URI and list none twice. -/
  series : ∀ {client : Client} {ref : ResourceRef} {runs : List StoredRedirect} {last : Value},
    RedirectSeries client ref document runs last →
    ∃ oauth', Grows client ref runs document oauth last oauth'
  /-- A domain change whose URI is listed sends no patch of the client. -/
  quiet : ∀ {client : Client} {ref : ResourceRef} {earlier later : List StoredRedirect}
    {run : StoredRedirect} {last : Value},
    RedirectSeries client ref document (earlier ++ run :: later) last →
    (run.uri ∈ oauth.uris ∨
      ∃ other ∈ earlier, other.uri = run.uri ∧ AcceptsPatch client ref other.events) →
    ¬ SendsPatch client ref run.events

/-- **Redirect URIs are only ever appended**: one update appends its URI once to the document of a
client, whether that lists URIs, none, null or nothing; and so domain changes to any suffixes in any
order keep every URI and repeat none. -/
theorem redirects_appended {document : Value} {oauth : OAuthClient}
    (written : OAuthClient.Written document)
    (decodes : decodeValue? OAuthClient document = some oauth) : AppendsOnly document oauth where
  ends := DomainChange.updateRedirect_ends
  update hruns hreads := DomainChange.updateRedirect_appends written decodes hruns hreads
  series h := h.grows written decodes
  quiet h hlisted := h.quiet written decodes hlisted

/-! ## Three changes -/

namespace DomainChange

/-- The document of a client with redirect URIs, or null for none. -/
def sampleClient (uris : Option (List String)) : Value :=
  .object [("grantMethod", .string "auto"), ("redirectURIs", encode uris)]

/-- A compliant cluster that does not list its routes, which a change does without. -/
def withoutRoutes : Script :=
  (Script.compliant "apps.old.io").override (sample.routeList "token") (Script.answer 404 .null)

/-- The stored client after a change of the sample cluster to a suffix. -/
def playClient (suffix : String) (before : Value) : Option Value :=
  ((sample.run "token" ⟨some suffix, .empty⟩).run
    (ClientStorage.outside withoutRoutes (sample.client.url sample.oauthClientRef.path) before)
      (.start before)).map fun (_, world) => world.cluster

/-- A change of the sample cluster is a run on a cluster that stores the client. -/
theorem completes_of_playClient {suffix : String} {before after : Value}
    (valid : Dns.isValidName suffix = true)
    (hshown : decodeText? OAuthClient before.render = decodeValue? OAuthClient before)
    (hplay : playClient suffix before = some after) :
    ∃ events, StoredRedirect.Completes sample.client sample.oauthClientRef
      ⟨redirectUri (Dns.ClusterDomains.ofSuffix suffix).setupUi, events, before, after⟩ := by
  obtain ⟨⟨result, world⟩, hrun, rfl⟩ := Option.map_eq_some_iff.1 hplay
  obtain ⟨events, hruns, hundergoes⟩ := Session.run_eq_some hrun
  have asked : Asks ⟨some suffix, .empty⟩ suffix := ⟨rfl, valid⟩
  have stores := ClientStorage.outside_storesClient withoutRoutes
    (sample.client.url sample.oauthClientRef.path) hshown
  exact ⟨events, .intro rfl rfl stores asked hruns hundergoes⟩

end DomainChange

open DomainChange

/-- Changes to `a.io`, to `b.io` and to `a.io` again: each of the two has its URI once. -/
theorem redirects_appended_alternating :
    ∃ (oauth : OAuthClient) (one two three : StoredRedirect),
      RedirectSeries sample.client sample.oauthClientRef (sampleClient none) [one, two, three]
        (sampleClient (some [one.uri, two.uri])) ∧
      one.uri = three.uri ∧ one.uri ≠ two.uri ∧
      OAuthClient.Written (sampleClient none) ∧
      decodeValue? OAuthClient (sampleClient none) = some oauth ∧
      AppendsOnly (sampleClient none) oauth := by
  have written : OAuthClient.Written (sampleClient none) := .intro (by decide)
  have decodes : decodeValue? OAuthClient (sampleClient none) = some ⟨.empty, none⟩ := by
    decide +kernel
  let a := redirectUri (Dns.ClusterDomains.ofSuffix "a.io").setupUi
  let b := redirectUri (Dns.ClusterDomains.ofSuffix "b.io").setupUi
  obtain ⟨_, one⟩ := completes_of_playClient (by decide)
    (by rw [decodeText?_render]; decide +kernel)
    (show playClient "a.io" (sampleClient none) = some (sampleClient (some [a])) by
      decide +kernel)
  obtain ⟨_, two⟩ := completes_of_playClient (by decide)
    (by rw [decodeText?_render]; decide +kernel)
    (show playClient "b.io" (sampleClient (some [a])) = some (sampleClient (some [a, b])) by
      decide +kernel)
  obtain ⟨_, three⟩ := completes_of_playClient (by decide)
    (by rw [decodeText?_render]; decide +kernel)
    (show playClient "a.io" (sampleClient (some [a, b])) = some (sampleClient (some [a, b])) by
      decide +kernel)
  exact ⟨_, _, _, _, .cons one (.cons two (.cons three (.nil _))), rfl, show a ≠ b by decide,
    written, decodes, redirects_appended written decodes⟩

end EdgeSetup
