import EdgeSetup.Json.Patch
import EdgeSetup.Proofs.Json.Objects

/-!
# Patches of objects

What an operation does to a member, or to a member of a member. An upsert that knows whether its
target is there always applies (`upsert_applyTo?`), and whenever one applies, it sets its target
(`upsert_applyTo?_eq_some`). A replacement of a part that is there, at any depth, applies and leaves
the new value at its place (`replace_applyTo?_of_at?`).
-/

namespace EdgeSetup.Json

/-- The value at a member of a member that is an object. -/
theorem Value.at?_pair {members inner : List (String × Value)} {outer key : String}
    (h : Members.get? members outer = some (.object inner)) :
    (Value.object members).at? [outer, key] = Members.get? inner key := by
  rw [at?, child?, h]
  exact Option.bind_fun_some _

/-- A part that is there can be changed, and what it became is then found at its place. -/
theorem Value.updateAt?_of_at? {change : Value → Option Value} {value old new : Value}
    {place : List String} (hold : value.at? place = some old) (hnew : change old = some new) :
    ∃ next, value.updateAt? change place = some next ∧ next.at? place = some new := by
  induction place generalizing value with
  | nil =>
    obtain rfl := Option.some.inj hold
    exact ⟨new, hnew, rfl⟩
  | cons token place ih =>
    obtain ⟨child, hchild, hrest⟩ := Option.bind_eq_some_iff.1 hold
    obtain ⟨next, hnext, hat⟩ := ih hrest
    cases value with
    | object members =>
      rw [child?] at hchild
      exact ⟨.object (Members.insert token next members), by
        simp [updateAt?, updateChild?, hchild, hnext], by simp [at?, child?, hat]⟩
    | array items =>
      obtain ⟨i, hi, hitem⟩ := Option.bind_eq_some_iff.1 hchild
      have hlt : i < items.length := (List.getElem?_eq_some_iff.1 hitem).1
      exact ⟨.array (items.set i next), by
        simp [updateAt?, updateChild?, hi, hitem, hnext], by simp [at?, child?, hi, hlt, hat]⟩
    | _ => cases hchild

/-- A part that was changed was there. -/
theorem Value.exists_at?_of_updateAt? {change : Value → Option Value} {value next : Value}
    {place : List String} (h : value.updateAt? change place = some next) :
    ∃ old new, value.at? place = some old ∧ change old = some new := by
  induction place generalizing value next with
  | nil => exact ⟨value, next, rfl, h⟩
  | cons token place ih =>
    cases value with
    | object members =>
      obtain ⟨child, hchild, h⟩ := Option.bind_eq_some_iff.1 h
      obtain ⟨changed, hchanged, -⟩ := Option.bind_eq_some_iff.1 h
      obtain ⟨old, new, hold, hnew⟩ := ih hchanged
      exact ⟨old, new, by simp [at?, child?, hchild, hold], hnew⟩
    | array items =>
      obtain ⟨i, hi, h⟩ := Option.bind_eq_some_iff.1 h
      obtain ⟨child, hchild, h⟩ := Option.bind_eq_some_iff.1 h
      obtain ⟨changed, hchanged, -⟩ := Option.bind_eq_some_iff.1 h
      obtain ⟨old, new, hold, hnew⟩ := ih hchanged
      exact ⟨old, new, by simp [at?, child?, hi, hchild, hold], hnew⟩
    | _ => cases h

namespace PatchOp

variable {members : List (String × Value)} {outer key path : String} {value document : Value}
  {targetExists : Bool}

/-- A patch that was written reads back. -/
theorem decodeValue?_encode (patch : PatchOp) :
    decodeValue? PatchOp (encode patch) = some patch := by
  obtain ⟨op, path, value⟩ := patch
  cases op <;> rfl

/-- An addition at a member sets it. -/
theorem add_applyTo? (hpath : Pointer.parse? path = some [key]) :
    (⟨.add, path, value⟩ : PatchOp).applyTo? (.object members) =
      some (.object (Members.insert key value members)) := by
  simp only [applyTo?, hpath]
  rfl

/-- An upsert of a member that knows whether it is there sets it. -/
theorem upsert_applyTo?_member (hpath : Pointer.parse? path = some [key])
    (htarget : targetExists = true → (Members.get? members key).isSome) :
    (upsert targetExists path value).applyTo? (.object members) =
      some (.object (Members.insert key value members)) := by
  cases targetExists with
  | false => exact add_applyTo? hpath
  | true =>
    obtain ⟨old, hold⟩ := Option.isSome_iff_exists.1 (htarget rfl)
    simp [upsert, applyTo?, hpath, Value.updateAt?, Value.updateChild?, hold]

/-- An upsert that knows whether its target is there sets it. -/
theorem upsert_applyTo? {inner : List (String × Value)}
    (hpath : Pointer.parse? path = some [outer, key])
    (houter : Members.get? members outer = some (.object inner))
    (htarget : targetExists = true → (Members.get? inner key).isSome) :
    (upsert targetExists path value).applyTo? (.object members) =
      some (.object (Members.insert outer (.object (Members.insert key value inner)) members)) := by
  cases targetExists with
  | false => simp [upsert, applyTo?, hpath, addAt?, addChild?, Value.updateChild?, houter]
  | true =>
    obtain ⟨old, hold⟩ := Option.isSome_iff_exists.1 (htarget rfl)
    simp [upsert, applyTo?, hpath, Value.updateAt?, Value.updateChild?, houter, hold]

/-- A replacement of a part that is there applies, and puts the new value in its place. -/
theorem replace_applyTo?_of_at? {old : Value} {place : List String} (value : Value)
    (hpath : Pointer.parse? path = some place) (hold : document.at? place = some old) :
    ∃ next, (⟨.replace, path, value⟩ : PatchOp).applyTo? document = some next ∧
      next.at? place = some value := by
  simp only [applyTo?, hpath]
  exact Value.updateAt?_of_at? hold rfl

/-- A replacement of a member of a member that is not there does not apply. -/
theorem replace_applyTo?_eq_none {inner : List (String × Value)}
    (hpath : Pointer.parse? path = some [outer, key])
    (houter : Members.get? members outer = some (.object inner))
    (hmissing : Members.get? inner key = none) :
    (⟨.replace, path, value⟩ : PatchOp).applyTo? (.object members) = none := by
  simp [applyTo?, hpath, Value.updateAt?, Value.updateChild?, houter, hmissing]

/-- Whenever an upsert at a member of a member applies, there was an object, and it sets its
target. -/
theorem upsert_applyTo?_eq_some (hpath : Pointer.parse? path = some [outer, key])
    (hform : ∀ items, Members.get? members outer ≠ some (.array items))
    (h : (upsert targetExists path value).applyTo? (.object members) = some document) :
    ∃ inner, Members.get? members outer = some (.object inner) ∧
      document =
        .object (Members.insert outer (.object (Members.insert key value inner)) members) := by
  have hobject : ∃ inner, Members.get? members outer = some (.object inner) := by
    cases houter : Members.get? members outer with
    | none =>
      cases targetExists <;>
        simp [upsert, applyTo?, hpath, addAt?, Value.updateAt?, Value.updateChild?, houter] at h
    | some old =>
      cases old with
      | object inner => exact ⟨inner, rfl⟩
      | array items => exact absurd houter (hform items)
      | _ =>
        cases targetExists <;>
          simp [upsert, applyTo?, hpath, addAt?, addChild?, Value.updateAt?, Value.updateChild?,
            houter] at h
  obtain ⟨inner, hinner⟩ := hobject
  refine ⟨inner, hinner, ?_⟩
  by_cases htarget : targetExists = true → (Members.get? inner key).isSome
  · rw [upsert_applyTo? hpath hinner htarget] at h
    exact (Option.some.inj h).symm
  · obtain ⟨rfl, hmissing⟩ := Classical.not_imp.1 htarget
    have hnone : Members.get? inner key = none := by simpa using hmissing
    cases (replace_applyTo?_eq_none hpath hinner hnone).symm.trans h

end PatchOp

end EdgeSetup.Json
