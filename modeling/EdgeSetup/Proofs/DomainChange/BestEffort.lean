import EdgeSetup.Proofs.DomainChange.Steps

/-!
# Events of the best-effort steps

Moving the routes lists them, patches them and counts the failures (`Rehosts.event`); refreshing
the setup UI exchanges its own requests only (`RefreshesUi.refreshes`). In both cases nothing but
best-effort requests is sent, and nothing is issued.
-/

namespace EdgeSetup

open Json Http

namespace DomainChange

variable {change : DomainChange} {token : String} {events : List Event}

/-! ## Routes -/

theorem routeMove_ref {old new : String} {route : Route} {move : ResourceRef × String}
    (h : routeMove? old new route = some move) :
    ∃ inNamespace name, move = (.namespaced .route inNamespace name, move.2) := by
  simp only [routeMove?, bind, Option.bind_eq_some_iff] at h
  obtain ⟨host, -, target, -, hmove⟩ := h
  cases hmove
  exact ⟨_, _, rfl⟩

/-- Moving the routes lists them, patches them, or counts. -/
theorem Rehosts.event {new : String} {old : Option String} {counts : RehostCounts}
    (h : Rehosts change token new old events counts) :
    ∀ event ∈ events,
      (∃ outcome, event = .called (change.routeList token) outcome) ∨
        (∃ exchanges, event = .calledAll exchanges ∧
          ∀ exchange ∈ exchanges, ∃ inNamespace name host,
            exchange.1 = change.routeWrite token (.namespaced .route inNamespace name, host)) ∨
        ∃ counter amount, event = .counted counter amount := by
  intro event hmem
  cases h with
  | skipped => cases hmem
  | unlisted unreadable => exact .inl ⟨_, List.mem_singleton.1 hmem⟩
  | settled listed same hmoved hfailed =>
    rcases List.mem_cons.1 hmem with rfl | hmem
    · exact .inl ⟨_, rfl⟩
    rcases List.mem_cons.1 hmem with rfl | hmem
    · refine .inr (.inl ⟨_, rfl, fun exchange hexchange => ?_⟩)
      obtain ⟨sent, hsent, heq⟩ := List.mem_map.1 (List.of_mem_zip hexchange).1
      obtain ⟨route, -, hmove⟩ := List.mem_filterMap.1 hsent
      obtain ⟨inNamespace, name, hname⟩ := routeMove_ref hmove
      exact ⟨inNamespace, name, sent.2, by rw [← heq, ← hname]⟩
    · unfold failureTally at hmem
      split at hmem
      · exact .inr (.inr ⟨_, _, List.mem_singleton.1 hmem⟩)
      · cases hmem

/-- The only request that is sent on its own is a read. -/
theorem Rehosts.called_method {new : String} {old : Option String} {counts : RehostCounts}
    (h : Rehosts change token new old events counts) {sent : Request} {outcome : Outcome}
    (hmem : .called sent outcome ∈ events) : sent.method = .get := by
  rcases h.event _ hmem with ⟨_, heq⟩ | ⟨_, heq, -⟩ | ⟨_, _, heq⟩
  · cases heq
    exact change.routeList_method token
  · cases heq
  · cases heq

theorem Rehosts.not_issued {new : String} {old : Option String} {counts : RehostCounts}
    (h : Rehosts change token new old events counts) (hostname : String)
    (result : Except SetupError CertificateBundle) : .issued hostname result ∉ events := by
  intro hmem
  rcases h.event _ hmem with ⟨_, heq⟩ | ⟨_, heq, -⟩ | ⟨_, _, heq⟩ <;> cases heq

/-! ## The setup UI -/

/-- The refresh of the setup UI sends nothing else, and nothing at all when it is off. -/
theorem RefreshesUi.refreshes {setupUiHost : String} {result : Except SetupError Unit}
    (h : RefreshesUi change token setupUiHost events result) :
    ∀ event ∈ events, change.setupUi.refresh = true ∧
      ∃ sent outcome, event = .called sent outcome ∧ Refreshes change token sent := by
  intro event hmem
  cases h with
  | off disabled => cases hmem
  | on enabled first rest =>
    refine ⟨enabled, ?_⟩
    rcases List.mem_append.1 hmem with hmem | hmem
    · cases first with
      | unread unreadable =>
        rw [List.mem_singleton.1 hmem]
        exact ⟨_, _, rfl, .readOAuthClient⟩
      | listed reads there =>
        rw [List.mem_singleton.1 hmem]
        exact ⟨_, _, rfl, .readOAuthClient⟩
      | patched reads missing settled =>
        simp only [List.mem_cons, List.not_mem_nil, or_false] at hmem
        rcases hmem with rfl | rfl
        · exact ⟨_, _, rfl, .readOAuthClient⟩
        · exact ⟨_, _, rfl, .patchOAuthClient _⟩
    · cases rest with
      | unread unreadable =>
        rw [List.mem_singleton.1 hmem]
        exact ⟨_, _, rfl, .readDeployment⟩
      | unfit reads nothing =>
        rw [List.mem_singleton.1 hmem]
        exact ⟨_, _, rfl, .readDeployment⟩
      | patched reads fits settled =>
        simp only [List.mem_cons, List.not_mem_nil, or_false] at hmem
        rcases hmem with rfl | rfl
        · exact ⟨_, _, rfl, .readDeployment⟩
        · exact ⟨_, _, rfl, .patchDeployment _⟩

end DomainChange

end EdgeSetup
