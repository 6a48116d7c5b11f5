import EdgeSetup.Json.MergePatch
import EdgeSetup.Json.Pointer
import EdgeSetup.Proofs.Json.Objects

/-!
# Merging at a place

A merge patch that wraps one array in objects puts the array at its place, whatever the document
was before (`merge_wrap_at`).

**Nothing else is touched.** A place that is neither above nor below keeps what it holds, as long as
the patch meets no array on its way down (`merge_wrap_elsewhere`). Of two such patches of one place
only the last one counts (`merge_wrap_again`).
-/

namespace EdgeSetup.Json.Value

theorem mergeMembers_single {target : List (String × Value)} {key : String} {patch : Value}
    (hpatch : patch ≠ .null) :
    mergeMembers target [(key, patch)] =
      Members.insert key (merge ((Members.get? target key).getD .null) patch) target := by
  cases patch with
  | null => exact absurd rfl hpatch
  | bool value => rw [mergeMembers, mergeMembers]; exact nofun
  | number value => rw [mergeMembers, mergeMembers]; exact nofun
  | string value => rw [mergeMembers, mergeMembers]; exact nofun
  | array items => rw [mergeMembers, mergeMembers]; exact nofun
  | object members => rw [mergeMembers, mergeMembers]; exact nofun

theorem merge_array (target : Value) (items : List Value) :
    target.merge (.array items) = .array items := by
  rw [merge]
  exact nofun

theorem wrap_array_ne_null (names : List String) (items : List Value) :
    wrap names (.array items) ≠ .null := by
  cases names with
  | nil => exact nofun
  | cons name names => exact nofun

/-- A patch that goes down through a member is merged into that member. -/
theorem merge_wrap_cons (target : Value) (name : String) (names : List String)
    (items : List Value) :
    target.merge (wrap (name :: names) (.array items)) =
      .object (Members.insert name
        (merge ((Members.get? target.mergeTarget name).getD .null) (wrap names (.array items)))
        target.mergeTarget) := by
  show target.merge (.object [(name, wrap names (.array items))]) = _
  rw [merge, mergeMembers_single (wrap_array_ne_null names items)]

/-- Merging an array that is wrapped in objects puts it at its place. -/
theorem merge_wrap_at (target : Value) (names : List String) (items : List Value) :
    (target.merge (wrap names (.array items))).at? names = some (.array items) := by
  induction names generalizing target with
  | nil =>
    rw [at?]
    exact congrArg some (merge_array target items)
  | cons name names ih =>
    rw [merge_wrap_cons, at?, child?, Members.get?_insert_self, Option.bind_some, ih]

/-- Of two arrays that are merged in at one place the last one stays. -/
theorem merge_wrap_again (target : Value) (names : List String) (items items' : List Value) :
    (target.merge (wrap names (.array items))).merge (wrap names (.array items')) =
      target.merge (wrap names (.array items')) := by
  induction names generalizing target with
  | nil => exact (merge_array _ items').trans (merge_array target items').symm
  | cons name names ih =>
    rw [merge_wrap_cons, merge_wrap_cons, merge_wrap_cons, mergeTarget,
      Members.get?_insert_self, Option.getD_some, ih, Members.insert_insert]

/-! ## All other places -/

/-- Down to the place the document has no array, which merging would replace by an object. -/
def NoArrayAbove (document : Value) (place : List String) : Prop :=
  ∀ above, above <+: place → above ≠ place → ∀ items, document.at? above ≠ some (.array items)

theorem child?_of_ne_array {target : Value} (h : ∀ items, target ≠ .array items)
    (token : String) : target.child? token = Members.get? target.mergeTarget token := by
  cases target with
  | array items => exact absurd rfl (h items)
  | _ => rfl

section NoArrayAbove

variable {target : Value} {name : String} {names place : List String}

theorem NoArrayAbove.ne_array (h : NoArrayAbove target (name :: names)) (items : List Value) :
    target ≠ .array items := by
  rintro rfl
  exact h [] List.nil_prefix nofun items rfl

/-- What a patch is merged into a level further down; a missing member counts as null. -/
theorem NoArrayAbove.child (h : NoArrayAbove target (name :: names)) :
    NoArrayAbove ((Members.get? target.mergeTarget name).getD .null) names := by
  intro above habove hne items hat
  cases hmember : Members.get? target.mergeTarget name with
  | none =>
    rw [hmember] at hat
    cases above <;> cases hat
  | some value =>
    rw [hmember] at hat
    refine h (name :: above) ((List.cons_prefix_cons).2 ⟨rfl, habove⟩) (by simpa using hne) items ?_
    rw [at?, child?_of_ne_array h.ne_array, hmember]
    exact hat

/-- **Merging an array leaves every place that is neither above its own nor below.** -/
theorem merge_wrap_elsewhere (items : List Value) (h : NoArrayAbove target names)
    (hbelow : ¬ names <+: place) (habove : ¬ place <+: names) :
    (target.merge (wrap names (.array items))).at? place = target.at? place := by
  induction names generalizing target place with
  | nil => exact absurd List.nil_prefix hbelow
  | cons name names ih =>
    cases place with
    | nil => exact absurd List.nil_prefix habove
    | cons token place =>
      rw [merge_wrap_cons, at?, at?, child?, child?_of_ne_array h.ne_array]
      by_cases htoken : token = name
      · -- The place goes down through the same member, which may be missing.
        subst htoken
        rw [List.cons_prefix_cons, and_iff_right rfl] at hbelow habove
        rw [Members.get?_insert_self, Option.bind_some, ih h.child hbelow habove]
        cases Members.get? target.mergeTarget token with
        | some value => rfl
        | none =>
          cases place with
          | nil => exact absurd List.nil_prefix habove
          | cons token place => rfl
      · rw [Members.get?_insert_of_ne htoken]

end NoArrayAbove

end EdgeSetup.Json.Value
