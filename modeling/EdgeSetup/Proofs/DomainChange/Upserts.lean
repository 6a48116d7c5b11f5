import EdgeSetup.Proofs.DomainChange.Routes
import EdgeSetup.Proofs.Lists.Growing

/-!
# Rows of upserts

Component routes are put into a list one after the other. Each works on the first entry of its name
or adds one, so a row of them acts on the entries of each name by itself
(`namedRoutes_upsertRoutes`), and on an entry that is there it comes down to the last update of the
name (`upsertRoutes_cons_of_named`). The names grow by the new ones (`map_name_upsertRoutes`), and
every entry stays at its place (`getElem?_upsertRoutes`).

**Main theorem (`upserted_upsertRoutes`)**: what a row of upserts makes of any list of routes.
-/

namespace EdgeSetup

variable {name : String} {route update existing : ComponentRoute}
  {routes updates rest : List ComponentRoute} {place : Nat}

/-! ## One upsert -/

theorem map_name_upsertRoute (route : ComponentRoute) (routes : List ComponentRoute) :
    (upsertRoute route routes).map ComponentRoute.name =
      addNew route.name (routes.map ComponentRoute.name) := by
  induction routes with
  | nil => rfl
  | cons existing rest ih =>
    by_cases h : existing.name = route.name
    · have hmem : route.name ∈ (existing :: rest).map ComponentRoute.name := by simp [h]
      rw [addNew, if_pos hmem, upsertRoute_cons_of_eq h, List.map_cons, List.map_cons, h]
    · rw [upsertRoute, if_neg h, List.map_cons, ih, List.map_cons]
      by_cases hmem : route.name ∈ rest.map ComponentRoute.name
      · rw [addNew, if_pos hmem, addNew, if_pos (List.mem_cons_of_mem _ hmem)]
      · have hnew : route.name ∉ existing.name :: rest.map ComponentRoute.name := by
          rw [List.mem_cons, not_or]
          exact ⟨Ne.symm h, hmem⟩
        rw [addNew, if_neg hmem, addNew, if_neg hnew, List.cons_append]

/-- Entries of names that a route does not have are not seen by it. -/
theorem filter_upsertRoute {keep : String → Bool} (h : keep route.name = false)
    (routes : List ComponentRoute) :
    (upsertRoute route routes).filter (fun entry => keep entry.name) =
      routes.filter (fun entry => keep entry.name) := by
  induction routes with
  | nil => simp [upsertRoute, h]
  | cons existing rest ih =>
    by_cases hname : existing.name = route.name
    · simp [upsertRoute, hname, h]
    · rw [upsertRoute, if_neg hname, List.filter_cons, List.filter_cons, ih]

/-- An entry stays at its place with its name and its namespace, and is changed only by a route of
its name. -/
theorem getElem?_upsertRoute (h : routes[place]? = some existing) (route : ComponentRoute) :
    ∃ kept, (upsertRoute route routes)[place]? = some kept ∧ kept.name = existing.name ∧
      kept.inNamespace = existing.inNamespace ∧ (existing.name ≠ route.name → kept = existing) := by
  induction routes generalizing place with
  | nil => cases h
  | cons first rest ih =>
    by_cases hname : first.name = route.name
    · rw [upsertRoute, if_pos hname]
      cases place with
      | zero =>
        cases h
        exact ⟨_, rfl, rfl, rfl, fun hne => absurd hname hne⟩
      | succ place => exact ⟨existing, h, rfl, rfl, fun _ => rfl⟩
    · rw [upsertRoute, if_neg hname]
      cases place with
      | zero =>
        cases h
        exact ⟨_, rfl, rfl, rfl, fun _ => rfl⟩
      | succ place => exact ih h

/-! ## A row of upserts -/

/-- The routes after a row of updates, each put into what the ones before it left. -/
def upsertRoutes (updates routes : List ComponentRoute) : List ComponentRoute :=
  updates.foldl (fun routes update => upsertRoute update routes) routes

/-- The names that a row of updates adds to a list of routes, in the order of their first update. -/
def newNames (updates routes : List ComponentRoute) : List String :=
  newItems (updates.map ComponentRoute.name) (routes.map ComponentRoute.name)

theorem upsertRoutes_cons (update : ComponentRoute) (updates routes : List ComponentRoute) :
    upsertRoutes (update :: updates) routes = upsertRoutes updates (upsertRoute update routes) :=
  rfl

theorem map_name_upsertRoutes (updates routes : List ComponentRoute) :
    (upsertRoutes updates routes).map ComponentRoute.name =
      routes.map ComponentRoute.name ++ newNames updates routes := by
  rw [newNames, ← foldl_addNew]
  induction updates generalizing routes with
  | nil => rfl
  | cons update updates ih =>
    rw [upsertRoutes_cons, ih, map_name_upsertRoute, List.map_cons, List.foldl_cons]

theorem filter_upsertRoutes (keep : String → Bool)
    (h : ∀ update ∈ updates, keep update.name = false) (routes : List ComponentRoute) :
    (upsertRoutes updates routes).filter (fun entry => keep entry.name) =
      routes.filter (fun entry => keep entry.name) := by
  induction updates generalizing routes with
  | nil => rfl
  | cons update updates ih =>
    rw [upsertRoutes_cons, ih fun other hother => h other (List.mem_cons_of_mem _ hother),
      filter_upsertRoute (h update List.mem_cons_self)]

theorem getElem?_upsertRoutes (h : routes[place]? = some existing)
    (updates : List ComponentRoute) :
    ∃ kept, (upsertRoutes updates routes)[place]? = some kept ∧ kept.name = existing.name ∧
      kept.inNamespace = existing.inNamespace ∧
      (existing.name ∉ updates.map ComponentRoute.name → kept = existing) := by
  induction updates generalizing routes existing with
  | nil => exact ⟨existing, h, rfl, rfl, fun _ => rfl⟩
  | cons update updates ih =>
    obtain ⟨middle, hmiddle, hname, hspace, hsame⟩ := getElem?_upsertRoute h update
    obtain ⟨kept, hkept, hname', hspace', hsame'⟩ := ih hmiddle
    refine ⟨kept, hkept, hname'.trans hname, hspace'.trans hspace, fun hnone => ?_⟩
    rw [List.map_cons, List.mem_cons, not_or] at hnone
    rw [hsame' (hname ▸ hnone.2), hsame hnone.1]

/-! ## The entries of one name -/

theorem name_of_mem_namedRoutes (name : String) (routes : List ComponentRoute) :
    ∀ route ∈ namedRoutes name routes, route.name = name :=
  fun _ hmem => (mem_namedRoutes.1 hmem).2

/-- A row of updates acts on the entries of a name as the updates of the name do. -/
theorem namedRoutes_upsertRoutes (name : String) (updates routes : List ComponentRoute) :
    namedRoutes name (upsertRoutes updates routes) =
      upsertRoutes (namedRoutes name updates) (namedRoutes name routes) := by
  induction updates generalizing routes with
  | nil => rfl
  | cons update updates ih =>
    rw [upsertRoutes_cons, ih]
    by_cases h : update.name = name
    · subst h
      rw [namedRoutes_cons_of_eq rfl, namedRoutes_upsertRoute_self, upsertRoutes_cons]
    · rw [namedRoutes_cons_of_ne h, namedRoutes_upsertRoute_of_ne h]

/-- An entry with the host name and the secret of the last of some updates. -/
def lastUpdated (existing : ComponentRoute) (updates : List ComponentRoute) : ComponentRoute :=
  match updates.getLast? with
  | none => existing
  | some last => { existing with hostname := last.hostname, tlsSecret := last.tlsSecret }

theorem lastUpdated_cons (existing update : ComponentRoute) (updates : List ComponentRoute) :
    lastUpdated existing (update :: updates) =
      lastUpdated { existing with hostname := update.hostname, tlsSecret := update.tlsSecret }
        updates := by
  unfold lastUpdated
  rw [List.getLast?_cons]
  cases updates.getLast? <;> rfl

/-- Updates of the name of the first entry come down to the last one, and leave the others. -/
theorem upsertRoutes_cons_of_named (h : ∀ update ∈ updates, update.name = existing.name)
    (rest : List ComponentRoute) :
    upsertRoutes updates (existing :: rest) = lastUpdated existing updates :: rest := by
  induction updates generalizing existing with
  | nil => rfl
  | cons update updates ih =>
    have hname := (h update List.mem_cons_self).symm
    rw [upsertRoutes_cons, upsertRoute, if_pos hname, lastUpdated_cons]
    exact ih fun other hother => h other (List.mem_cons_of_mem _ hother)

/-- Updates of one name leave the entries of the name behind the first one. -/
theorem upsertRoutes_of_named (hupdates : ∀ update ∈ updates, update.name = name)
    (hroutes : ∀ existing ∈ routes, existing.name = name) (hne : updates ≠ []) :
    ∃ existing, upsertRoutes updates routes = lastUpdated existing updates :: routes.tail := by
  cases routes with
  | nil =>
    -- The first update is added, and changes nothing when it is put in once more.
    obtain ⟨update, updates, rfl⟩ := List.exists_cons_of_ne_nil hne
    refine ⟨update, ?_⟩
    rw [lastUpdated_cons]
    refine upsertRoutes_cons_of_named (fun other hother => ?_) []
    rw [hupdates other (List.mem_cons_of_mem _ hother), hupdates update List.mem_cons_self]
  | cons existing rest =>
    have hname := hroutes existing List.mem_cons_self
    exact ⟨existing, upsertRoutes_cons_of_named (fun other hother =>
      (hupdates other hother).trans hname.symm) rest⟩

theorem tail_namedRoutes_upsertRoutes (name : String) (updates routes : List ComponentRoute) :
    (namedRoutes name (upsertRoutes updates routes)).tail = (namedRoutes name routes).tail := by
  rw [namedRoutes_upsertRoutes]
  by_cases hne : namedRoutes name updates = []
  · rw [hne]
    rfl
  · obtain ⟨existing, hentries⟩ := upsertRoutes_of_named (name_of_mem_namedRoutes name updates)
      (name_of_mem_namedRoutes name routes) hne
    rw [hentries, List.tail_cons]

theorem firstNamed?_upsertRoutes (h : update ∈ updates) (routes : List ComponentRoute) :
    ∃ last first, (namedRoutes update.name updates).getLast? = some last ∧
      firstNamed? update.name (upsertRoutes updates routes) = some first ∧
        first.hostname = last.hostname ∧ first.tlsSecret = last.tlsSecret := by
  have hne : namedRoutes update.name updates ≠ [] :=
    List.ne_nil_of_mem (mem_namedRoutes.2 ⟨h, rfl⟩)
  obtain ⟨existing, hentries⟩ := upsertRoutes_of_named
    (name_of_mem_namedRoutes update.name updates) (name_of_mem_namedRoutes update.name routes) hne
  refine ⟨_, lastUpdated existing (namedRoutes update.name updates),
    List.getLast?_eq_some_getLast hne, ?_, ?_⟩
  · rw [firstNamed?_eq_head?, namedRoutes_upsertRoutes, hentries, List.head?_cons]
  · rw [lastUpdated, List.getLast?_eq_some_getLast hne]
    exact ⟨rfl, rfl⟩

/-! ## What a row of upserts makes of a list -/

/-- What a row of updates made of a list of routes. -/
structure Upserted (updates before after : List ComponentRoute) : Prop where
  /-- Names that were distinct are so still. -/
  distinct : (before.map ComponentRoute.name).Nodup → (after.map ComponentRoute.name).Nodup
  /-- Each name that was put in is there, and its first entry has the host name and the secret of
  the last update of the name. -/
  last : ∀ update ∈ updates, ∃ last first,
    (namedRoutes update.name updates).getLast? = some last ∧
      firstNamed? update.name after = some first ∧
        first.hostname = last.hostname ∧ first.tlsSecret = last.tlsSecret
  /-- The entries behind the first one of a name are as they were. -/
  behind : ∀ name, (namedRoutes name after).tail = (namedRoutes name before).tail
  /-- The entries of all other names are as they were, and in the same order. -/
  others : after.filter (fun route => route.name ∉ updates.map ComponentRoute.name) =
    before.filter (fun route => route.name ∉ updates.map ComponentRoute.name)
  /-- An entry that was there keeps its place, its name and its namespace, and is the same if its
  name was not put in. -/
  kept : ∀ (place : Nat) (existing : ComponentRoute), before[place]? = some existing →
    ∃ route, after[place]? = some route ∧ route.name = existing.name ∧
      route.inNamespace = existing.inNamespace ∧
      (existing.name ∉ updates.map ComponentRoute.name → route = existing)
  /-- New names are added at the end, in the order of their first update. -/
  names : after.map ComponentRoute.name =
    before.map ComponentRoute.name ++ newNames updates before
  /-- Nothing else makes the list longer. -/
  length : after.length = before.length + (newNames updates before).length

/-- **A row of upserts** on any list of routes. -/
theorem upserted_upsertRoutes (updates routes : List ComponentRoute) :
    Upserted updates routes (upsertRoutes updates routes) := by
  have hnames := map_name_upsertRoutes updates routes
  constructor
  case distinct =>
    intro hdistinct
    rw [hnames]
    exact nodup_append_newItems _ hdistinct
  case last => exact fun update hmem => firstNamed?_upsertRoutes hmem routes
  case behind => exact fun name => tail_namedRoutes_upsertRoutes name updates routes
  case others =>
    refine filter_upsertRoutes (fun name => name ∉ updates.map ComponentRoute.name)
      (fun update hmem => ?_) routes
    simpa using ⟨update, hmem, rfl⟩
  case kept => exact fun place existing hplace => getElem?_upsertRoutes hplace updates
  case names => exact hnames
  case length =>
    have hlength := congrArg List.length hnames
    rwa [List.length_append, List.length_map, List.length_map] at hlength

/-- An entry keeps its namespace, and one that is new has that of its first update. -/
example :
    upsertRoutes [⟨"ui", "a", "ui.io", ⟨"s1"⟩⟩, ⟨"console", "b", "new.io", ⟨"s2"⟩⟩,
        ⟨"ui", "c", "ui.new.io", ⟨"s3"⟩⟩]
      [⟨"console", "web", "old.io", ⟨"s0"⟩⟩] =
      [⟨"console", "web", "new.io", ⟨"s2"⟩⟩, ⟨"ui", "a", "ui.new.io", ⟨"s3"⟩⟩] := by
  decide

/-! ## The row of a change -/

namespace DomainChange

/-- The routes that are put in for components with their stored key pairs. -/
def routeUpdates (components : List Component) (pairs : List StoredPair) : List ComponentRoute :=
  (components.zip pairs).map fun secured => secured.1.route secured.2.secret

/-- A change puts the routes of its components in one after the other. -/
theorem securedRoutes_eq_upsertRoutes (components : List Component) (pairs : List StoredPair)
    (routes : List ComponentRoute) :
    securedRoutes components pairs routes =
      upsertRoutes (routeUpdates components pairs) routes := by
  induction components generalizing pairs routes with
  | nil => cases pairs <;> rfl
  | cons component components ih =>
    cases pairs with
    | nil => rfl
    | cons pair pairs => exact ih pairs _

end DomainChange

end EdgeSetup
