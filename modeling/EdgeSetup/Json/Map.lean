import EdgeSetup.Json.Codec

/-!
# Maps with text keys

A map holds its entries in key order without repeats, so two maps with the same values are equal.
Main statement: `Map.ofList_entries`, a map is what its own entries build.
-/

namespace EdgeSetup.Json

namespace Members

variable {α : Type}

/-- Entries in strictly increasing key order. -/
def Sorted (members : List (String × α)) : Prop :=
  members.Pairwise (fun a b => a.1 < b.1)

theorem lt_of_not {key k : String} (hne : k ≠ key) (hlt : ¬ key < k) : k < key := by
  have hle : k ≤ key := String.not_lt.1 hlt
  exact Decidable.byContradiction fun h => hne (String.le_antisymm hle (String.not_lt.1 h))

theorem mem_insert {key : String} {value : α} {members : List (String × α)} {member : String × α}
    (h : member ∈ insert key value members) : member = (key, value) ∨ member ∈ members := by
  induction members with
  | nil => simpa [insert] using h
  | cons head rest ih =>
    obtain ⟨k, v⟩ := head
    simp only [insert] at h
    split at h
    · rcases List.mem_cons.1 h with h | h
      · exact .inl h
      · exact .inr (List.mem_cons_of_mem _ h)
    · split at h
      · exact List.mem_cons.1 h
      · rcases List.mem_cons.1 h with h | h
        · exact .inr (h ▸ List.mem_cons_self)
        · exact (ih h).imp_right (List.mem_cons_of_mem _)

theorem Sorted.insert {members : List (String × α)} (h : Sorted members) (key : String)
    (value : α) : Sorted (insert key value members) := by
  induction members with
  | nil => simp [Sorted, Members.insert]
  | cons head rest ih =>
    obtain ⟨k, v⟩ := head
    obtain ⟨hhead, hrest⟩ := List.pairwise_cons.1 h
    simp only [Members.insert]
    split
    · next heq =>
      subst heq
      exact List.pairwise_cons.2 ⟨hhead, hrest⟩
    · next hne =>
      split
      · next hlt =>
        refine List.pairwise_cons.2 ⟨fun member hmem => ?_, h⟩
        rcases List.mem_cons.1 hmem with rfl | hmem
        · exact hlt
        · exact String.lt_trans hlt (hhead _ hmem)
      · next hlt =>
        refine List.pairwise_cons.2 ⟨fun member hmem => ?_, ih hrest⟩
        rcases mem_insert hmem with rfl | hmem
        · exact lt_of_not hne hlt
        · exact hhead _ hmem

theorem Sorted.foldl_insert {acc members : List (String × α)} (h : Sorted acc) :
    Sorted (members.foldl (fun acc member => Members.insert member.1 member.2 acc) acc) := by
  induction members generalizing acc with
  | nil => exact h
  | cons member rest ih => exact ih (h.insert member.1 member.2)

/-- Entries built from any list are in order. -/
theorem sorted_ofList (members : List (String × α)) : Sorted (ofList members) :=
  Sorted.foldl_insert (List.Pairwise.nil)

/-- A key past the last one is added at the end. -/
theorem insert_eq_append {members : List (String × α)} {key : String} (value : α)
    (h : ∀ member ∈ members, member.1 < key) :
    insert key value members = members ++ [(key, value)] := by
  induction members with
  | nil => rfl
  | cons head rest ih =>
    obtain ⟨k, v⟩ := head
    have hlt : k < key := h _ List.mem_cons_self
    have hne : k ≠ key := fun heq => String.lt_irrefl key (heq ▸ hlt)
    have hge : ¬ key < k := fun hgt => String.lt_irrefl k (String.lt_trans hlt hgt)
    simp [insert, hne, hge, ih (fun member hmem => h member (List.mem_cons_of_mem _ hmem))]

theorem foldl_insert_of_sorted {acc members : List (String × α)}
    (h : Sorted (acc ++ members)) :
    members.foldl (fun acc member => insert member.1 member.2 acc) acc = acc ++ members := by
  induction members generalizing acc with
  | nil => simp
  | cons member rest ih =>
    have hacc : ∀ before ∈ acc, before.1 < member.1 :=
      fun before hmem => (List.pairwise_append.1 h).2.2 before hmem member List.mem_cons_self
    have hstep : acc ++ [(member.1, member.2)] ++ rest = acc ++ member :: rest := by simp
    rw [List.foldl_cons, insert_eq_append member.2 hacc, ih (hstep ▸ h), hstep]

/-- Entries in order are unchanged by building. -/
theorem ofList_of_sorted {members : List (String × α)} (h : Sorted members) :
    ofList members = members := by
  have hfold := @foldl_insert_of_sorted α [] members h
  simpa [ofList] using hfold

end Members

/-- A map from texts. -/
structure Map (α : Type) where
  entries : List (String × α)
  sorted : Members.Sorted entries

namespace Map

variable {α : Type}

instance [DecidableEq α] : DecidableEq (Map α) := fun a b =>
  decidable_of_iff (a.entries = b.entries)
    ⟨fun h => by cases a; cases b; simp_all, fun h => h ▸ rfl⟩

/-- The map of a list of entries; of equal keys the last one counts. -/
def ofList (entries : List (String × α)) : Map α :=
  ⟨Members.ofList entries, Members.sorted_ofList entries⟩

/-- The map without entries. -/
def empty : Map α := ⟨[], List.Pairwise.nil⟩

instance : Inhabited (Map α) := ⟨empty⟩

/-- The value of a key. -/
def get? (map : Map α) (key : String) : Option α := Members.get? map.entries key

@[simp] theorem ofList_entries (map : Map α) : ofList map.entries = map := by
  cases map with
  | mk entries sorted => simp [ofList, Members.ofList_of_sorted sorted]

instance [Decode α] : Decode (Map α) where
  decode? source := source.members?.bind fun members =>
    (members.mapM (fun member => (decode? member.2).map (member.1, ·))).map ofList

instance [Encode α] : Encode (Map α) where
  encode map := .object (map.entries.map (fun entry => (entry.1, encode entry.2)))

end Map

end EdgeSetup.Json
