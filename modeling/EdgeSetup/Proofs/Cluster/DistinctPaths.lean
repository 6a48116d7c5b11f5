import EdgeSetup.Proofs.Cluster.Addresses
import EdgeSetup.Proofs.Text.Pieces

/-!
# Resources have paths of their own

A path is the path of an API group and, below it, a place: the namespace with the word `namespaces`
before it, if there is one, the plural of the kind, and the name, if there is one. The group is read
off the path by its mark, and the place by its segments.

**The number of segments tells which parts of an address are there** (`place_inj`): the plural is
one segment, a name is one more and a namespace two more, so no two choices have the same number.
What the segments are does not matter for this. A name may be a plural, or `namespaces`, or empty.

**Main theorem (`path_eq_iff`)**: addresses whose namespace and name hold no slash have one path
only if they are one address.
-/

namespace EdgeSetup

/-! ## Segments -/

/-- The text of a path of segments. -/
def pathText (segments : List (List Char)) : List Char := segments.flatMap ('/' :: ·)

/-- A path of segments without a slash is taken apart at its slashes. -/
theorem splitOn_pathText {segments : List (List Char)} (h : ∀ segment ∈ segments, '/' ∉ segment) :
    Text.splitOn '/' (pathText segments) = [] :: segments := by
  have hjoin (first : List Char) (rest : List (List Char)) :
      ['/'].intercalate (first :: rest) = first ++ pathText rest := by
    induction rest generalizing first with
    | nil => simp [pathText]
    | cons second rest ih => simp [List.intercalate_cons_cons, ih, pathText]
  rw [Text.splitOn_eq_iff (List.cons_ne_nil _ _)]
  refine ⟨fun piece hpiece => ?_, hjoin [] segments⟩
  rcases List.mem_cons.1 hpiece with rfl | hpiece
  · exact List.not_mem_nil
  · exact h piece hpiece

theorem pathText_inj {segments segments' : List (List Char)}
    (h : ∀ segment ∈ segments, '/' ∉ segment) (h' : ∀ segment ∈ segments', '/' ∉ segment)
    (heq : pathText segments = pathText segments') : segments = segments' := by
  have hsplit := splitOn_pathText h
  rw [heq, splitOn_pathText h'] at hsplit
  exact (List.cons_inj_right []).1 hsplit.symm

namespace ResourceKind

variable {kind kind' : ResourceKind}

/-- Kinds with one mark are of one group. -/
theorem groupPath_eq_of_mark_eq (h : kind.mark = kind'.mark) :
    kind.groupPath = kind'.groupPath := by
  cases kind <;> cases kind' <;> first | rfl | exact absurd h (by decide)

theorem plural_inj : kind.plural = kind'.plural ↔ kind = kind' := by
  refine ⟨fun h => ?_, fun h => h ▸ rfl⟩
  cases kind <;> cases kind' <;> first | rfl | exact absurd h (by decide)

theorem slash_notMem_plural (kind : ResourceKind) : '/' ∉ kind.plural.toList := by
  cases kind <;> decide

end ResourceKind

namespace ResourceRef

variable {a b : ResourceRef}

/-! ## Places -/

/-- The namespace and the name hold no slash, where they are there. -/
structure Unslashed (ref : ResourceRef) : Prop where
  inNamespace : ∀ text ∈ ref.inNamespace, '/' ∉ text.toList
  name : ∀ text ∈ ref.name, '/' ∉ text.toList

/-- The segments below the path of the group. -/
def place (ref : ResourceRef) : List (List Char) :=
  (ref.inNamespace.toList.flatMap fun text => ["namespaces".toList, text.toList]) ++
    ref.kind.plural.toList :: ref.name.toList.map String.toList

theorem path_eq_place (ref : ResourceRef) :
    ref.path.toList = ref.kind.groupPath.toList ++ pathText ref.place := by
  obtain ⟨kind, inNamespace, name⟩ := ref
  cases inNamespace <;> cases name <;> simp [path, namespacePath, namePath, place, pathText]

/-- No segment of a place holds a slash. -/
theorem Unslashed.place (h : a.Unslashed) : ∀ segment ∈ a.place, '/' ∉ segment := by
  intro segment hmem
  rw [ResourceRef.place, List.mem_append, List.mem_cons, List.mem_flatMap, List.mem_map] at hmem
  rcases hmem with ⟨text, htext, hmem⟩ | rfl | ⟨text, htext, rfl⟩
  · rw [List.mem_cons, List.mem_singleton] at hmem
    rcases hmem with rfl | rfl
    · decide
    · exact h.inNamespace text (Option.mem_toList.1 htext)
  · exact a.kind.slash_notMem_plural
  · exact h.name text (Option.mem_toList.1 htext)

/-- **A place is that of one address only**, within a group and across groups. -/
theorem place_inj (h : a.place = b.place) : a = b := by
  obtain ⟨kind, inNamespace, name⟩ := a
  obtain ⟨kind', inNamespace', name'⟩ := b
  -- Where the parts are unlike, so are the lengths; otherwise the segments agree one by one.
  cases inNamespace <;> cases inNamespace' <;> cases name <;> cases name' <;>
    simp_all [place, String.toList_inj, ResourceKind.plural_inj]

/-! ## Paths -/

theorem groupPath_eq_of_path_eq (h : a.path = b.path) : a.kind.groupPath = b.kind.groupPath := by
  have ha := a.path_mark ""
  rw [h, b.path_mark ""] at ha
  exact ResourceKind.groupPath_eq_of_mark_eq (Option.some.inj ha).symm

theorem path_inj (ha : a.Unslashed) (hb : b.Unslashed) (h : a.path = b.path) : a = b := by
  have hplace := congrArg String.toList h
  rw [path_eq_place, path_eq_place, groupPath_eq_of_path_eq h, List.append_right_inj] at hplace
  exact place_inj (pathText_inj ha.place hb.place hplace)

/-- **Addresses whose namespace and name hold no slash are told apart by their paths**, and by the
URLs that a client makes of these. -/
theorem path_eq_iff (ha : a.Unslashed) (hb : b.Unslashed) :
    (a.path = b.path ↔ a.kind = b.kind ∧ a.inNamespace = b.inNamespace ∧ a.name = b.name) ∧
      ∀ client : Client, client.url a.path = client.url b.path ↔ a = b := by
  have hpath : a.path = b.path ↔ a = b := ⟨path_inj ha hb, congrArg path⟩
  refine ⟨hpath.trans ?_, fun client => Client.url_inj.trans hpath⟩
  obtain ⟨kind, inNamespace, name⟩ := a
  rw [mk.injEq]

/-- An object that is named `namespaces`, and the collection of the namespace without a name. -/
theorem path_eq_iff_awkward :
    (cluster .ingress "namespaces").Unslashed ∧ (collection .ingress (some "")).Unslashed ∧
      (cluster .ingress "namespaces").path ≠ (collection .ingress (some "")).path ∧
      ∀ client : Client, client.url (cluster .ingress "namespaces").path ≠
        client.url (collection .ingress (some "")).path := by
  have hnamed : (cluster .ingress "namespaces").Unslashed :=
    ⟨by simp [cluster], by simp [cluster]⟩
  have hlisted : (collection .ingress (some "")).Unslashed :=
    ⟨by simp [collection], by simp [collection]⟩
  obtain ⟨hpath, hurl⟩ := path_eq_iff hnamed hlisted
  refine ⟨hnamed, hlisted, fun h => ?_, fun client h => ?_⟩
  · exact absurd (hpath.1 h).2.1 (by decide)
  · exact absurd ((hurl client).1 h) (by decide)

/-- With a slash in the name, an object and a collection share a path. -/
example : (namespaced .ingress "a" "b/ingresses").path =
    (collection .ingress (some "a/ingresses/b")).path := by decide

end ResourceRef

end EdgeSetup
