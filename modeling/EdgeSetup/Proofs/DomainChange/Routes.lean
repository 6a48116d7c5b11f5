import EdgeSetup.Proofs.DomainChange.Steps

/-!
# Component routes

Putting a route into a list of component routes works on the entries of its name as on a list of
their own (`namedRoutes_upsertRoute_self`), and leaves the entries of all other names as they are.
So after the secrets of several components were put in, the entries of each component are those it
had with its own secret put in (`namedRoutes_securedRoutes`).

An entry keeps the namespace that it had. The entry that is put in is there as it is only where no
entry of its name had another namespace first, or where it was there before (`mem_upsertRoute`).
-/

namespace EdgeSetup

/-! ## Routes of a name -/

/-- The first route of a name, which is the one that counts. -/
def firstNamed? (name : String) (routes : List ComponentRoute) : Option ComponentRoute :=
  routes.find? (fun route => route.name = name)

/-- All routes of a name. -/
def namedRoutes (name : String) (routes : List ComponentRoute) : List ComponentRoute :=
  routes.filter (fun route => route.name = name)

variable {name : String} {route existing : ComponentRoute} {routes rest : List ComponentRoute}

theorem firstNamed?_eq_head? : firstNamed? name routes = (namedRoutes name routes).head? :=
  List.head?_filter.symm

theorem mem_namedRoutes : route ∈ namedRoutes name routes ↔ route ∈ routes ∧ route.name = name := by
  simp [namedRoutes]

theorem namedRoutes_cons_of_eq (h : existing.name = name) :
    namedRoutes name (existing :: rest) = existing :: namedRoutes name rest :=
  List.filter_cons_of_pos (decide_eq_true h)

theorem namedRoutes_cons_of_ne (h : existing.name ≠ name) :
    namedRoutes name (existing :: rest) = namedRoutes name rest :=
  List.filter_cons_of_neg (by simpa using h)

/-! ## Putting in one route -/

theorem upsertRoute_cons_of_eq (h : existing.name = route.name) :
    upsertRoute route (existing :: rest) =
      { route with inNamespace := existing.inNamespace } :: rest := by
  rw [upsertRoute, if_pos h, h]

theorem namedRoutes_upsertRoute_self (route : ComponentRoute) (routes : List ComponentRoute) :
    namedRoutes route.name (upsertRoute route routes) =
      upsertRoute route (namedRoutes route.name routes) := by
  induction routes with
  | nil => exact namedRoutes_cons_of_eq rfl
  | cons existing rest ih =>
    by_cases h : existing.name = route.name
    · rw [upsertRoute_cons_of_eq h, namedRoutes_cons_of_eq h, upsertRoute_cons_of_eq h]
      exact namedRoutes_cons_of_eq rfl
    · rw [upsertRoute, if_neg h, namedRoutes_cons_of_ne h, namedRoutes_cons_of_ne h, ih]

theorem namedRoutes_upsertRoute_of_ne (hne : route.name ≠ name) (routes : List ComponentRoute) :
    namedRoutes name (upsertRoute route routes) = namedRoutes name routes := by
  induction routes with
  | nil => exact namedRoutes_cons_of_ne hne
  | cons existing rest ih =>
    by_cases h : existing.name = route.name
    · have hother : existing.name ≠ name := h ▸ hne
      rw [upsertRoute_cons_of_eq h, namedRoutes_cons_of_ne hother]
      exact namedRoutes_cons_of_ne hne
    · rw [upsertRoute, if_neg h]
      by_cases hname : existing.name = name
      · rw [namedRoutes_cons_of_eq hname, namedRoutes_cons_of_eq hname, ih]
      · rw [namedRoutes_cons_of_ne hname, namedRoutes_cons_of_ne hname, ih]

/-- The first entry of the name has the new host name and the new secret. -/
theorem head?_upsertRoute_named (route : ComponentRoute) (routes : List ComponentRoute) :
    ∃ updated, (upsertRoute route (namedRoutes route.name routes)).head? = some updated ∧
      updated.hostname = route.hostname ∧ updated.tlsSecret = route.tlsSecret := by
  cases hnamed : namedRoutes route.name routes with
  | nil => exact ⟨route, rfl, rfl, rfl⟩
  | cons existing rest =>
    have hname := (mem_namedRoutes.1 (hnamed ▸ List.mem_cons_self)).2
    rw [upsertRoute_cons_of_eq hname]
    exact ⟨_, rfl, rfl, rfl⟩

namespace DomainChange

/-! ## Putting in the secrets of components -/

theorem namedRoutes_securedRoutes_of_not_mem {components : List Component}
    {pairs : List StoredPair} (hnone : ∀ component ∈ components, component.name ≠ name)
    (routes : List ComponentRoute) :
    namedRoutes name (securedRoutes components pairs routes) = namedRoutes name routes := by
  induction components generalizing pairs routes with
  | nil => rw [securedRoutes]; exact nofun
  | cons component components ih =>
    cases pairs with
    | nil => rfl
    | cons pair pairs =>
      rw [securedRoutes, ih fun other hother => hnone other (List.mem_cons_of_mem _ hother)]
      exact namedRoutes_upsertRoute_of_ne (hnone component List.mem_cons_self) routes

/-- The entries of a component are those it had, with its own secret put in. -/
theorem namedRoutes_securedRoutes {components : List Component} {pairs : List StoredPair}
    (hnodup : (components.map Component.name).Nodup) (routes : List ComponentRoute)
    {component : Component} {pair : StoredPair} (hmem : (component, pair) ∈ components.zip pairs) :
    namedRoutes component.name (securedRoutes components pairs routes) =
      upsertRoute (component.route pair.secret) (namedRoutes component.name routes) := by
  induction components generalizing pairs routes with
  | nil => simp at hmem
  | cons first components ih =>
    cases pairs with
    | nil => simp at hmem
    | cons firstPair pairs =>
      rw [List.map_cons, List.nodup_cons] at hnodup
      rw [securedRoutes]
      rcases List.mem_cons.1 hmem with heq | hmem
      · cases heq
        have hnone : ∀ other ∈ components, other.name ≠ component.name := by
          intro other hother hname
          exact hnodup.1 (List.mem_map.2 ⟨other, hother, hname⟩)
        rw [namedRoutes_securedRoutes_of_not_mem hnone]
        exact namedRoutes_upsertRoute_self (component.route pair.secret) routes
      · have hne : first.name ≠ component.name := fun heq =>
          hnodup.1 (heq ▸ List.mem_map_of_mem (List.of_mem_zip hmem).1)
        rw [ih hnodup.2 _ hmem, namedRoutes_upsertRoute_of_ne hne]

/-- The first entry of each component has its host name and its secret. -/
theorem securedRoutes_named {components : List Component} {pairs : List StoredPair}
    (hnodup : (components.map Component.name).Nodup) (routes : List ComponentRoute)
    {component : Component} {pair : StoredPair} (hmem : (component, pair) ∈ components.zip pairs) :
    ∃ route, firstNamed? component.name (securedRoutes components pairs routes) = some route ∧
      route.hostname = component.hostname ∧ route.tlsSecret = ⟨pair.secret⟩ := by
  rw [firstNamed?_eq_head?, namedRoutes_securedRoutes hnodup routes hmem]
  exact head?_upsertRoute_named (component.route pair.secret) routes

end DomainChange

end EdgeSetup
