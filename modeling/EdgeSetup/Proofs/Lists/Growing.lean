/-!
# Lists that grow by what is new

An item is added at the end of a list unless it is there. Adding items one after the other leaves
the list as it was, followed by the new items in the order of their first use
(`foldl_addNew`). So nothing is lost, and nothing new comes twice (`nodup_append_newItems`).
-/

namespace EdgeSetup

variable {α : Type} [DecidableEq α] {item : α} {items list : List α}

/-- The list with an item at its end, unless the item is there. -/
def addNew (item : α) (list : List α) : List α :=
  if item ∈ list then list else list ++ [item]

/-- The items that a list does not have, in the order of their first use. -/
def newItems (items list : List α) : List α := (items.filter (· ∉ list)).eraseDups

theorem mem_newItems : item ∈ newItems items list ↔ item ∈ items ∧ item ∉ list := by
  rw [newItems, List.mem_eraseDups, List.mem_filter, decide_eq_true_iff]

theorem newItems_cons_of_mem (h : item ∈ list) :
    newItems (item :: items) list = newItems items list := by
  rw [newItems, List.filter_cons_of_neg (by simpa using h), newItems]

theorem newItems_cons_of_not_mem (h : item ∉ list) :
    newItems (item :: items) list = item :: newItems items (list ++ [item]) := by
  have hrest : (items.filter (· ∉ list)).filter (fun other => !other == item) =
      items.filter (· ∉ list ++ [item]) := by
    rw [List.filter_filter]
    refine List.filter_congr fun other _ => ?_
    by_cases hother : other = item <;> simp [hother]
  rw [newItems, List.filter_cons_of_pos (by simpa using h), List.eraseDups_cons, hrest, newItems]

/-- Items that are added one after the other stand at the end, each new one once. -/
theorem foldl_addNew (items list : List α) :
    items.foldl (fun list item => addNew item list) list = list ++ newItems items list := by
  induction items generalizing list with
  | nil => simp [newItems]
  | cons item items ih =>
    rw [List.foldl_cons, ih]
    by_cases h : item ∈ list
    · rw [addNew, if_pos h, newItems_cons_of_mem h]
    · rw [addNew, if_neg h, newItems_cons_of_not_mem h, List.append_assoc, List.singleton_append]

theorem nodup_newItems (items list : List α) : (newItems items list).Nodup := by
  induction items generalizing list with
  | nil => exact List.nodup_nil
  | cons item items ih =>
    by_cases h : item ∈ list
    · rw [newItems_cons_of_mem h]
      exact ih list
    · rw [newItems_cons_of_not_mem h, List.nodup_cons]
      exact ⟨fun hmem => (mem_newItems.1 hmem).2 (by simp), ih (list ++ [item])⟩

theorem nodup_append_newItems (items : List α) (h : list.Nodup) :
    (list ++ newItems items list).Nodup := by
  refine List.nodup_append.2 ⟨h, nodup_newItems items list, fun item hmem other hnew => ?_⟩
  rintro rfl
  exact (mem_newItems.1 hnew).2 hmem

end EdgeSetup
