import EdgeSetup.Json.Map
import EdgeSetup.Proofs.Json.Parts

/-!
# Records of objects

An object that repeats no key can be read as a record, and each field of the record is the member
of its name (`Record.ofSource?_object`). A field with a default is then read from that member
(`Record.orElse?_ofMembers`). Members in key order repeat no key, and setting a member keeps that.
-/

namespace EdgeSetup.Json

/-! ## Keys -/

namespace Members

variable {α : Type} {members : List (String × α)}

instance (members : List (String × α)) : Decidable (Sorted members) :=
  inferInstanceAs (Decidable (members.Pairwise fun a b => a.1 < b.1))

theorem Sorted.nodup (h : Sorted members) : (members.map Prod.fst).Nodup :=
  List.pairwise_map.2 (List.Pairwise.imp (fun hlt => String.ne_of_lt hlt) h)

/-- Of two values that are set for a key, the last one stays. -/
theorem insert_insert (key : String) (value other : α) (members : List (String × α)) :
    insert key value (insert key other members) = insert key value members := by
  induction members with
  | nil => simp [insert]
  | cons member members ih =>
    obtain ⟨name, old⟩ := member
    by_cases hname : name = key
    · simp [insert, hname]
    · by_cases hlt : key < name
      · simp [insert, hname, hlt]
      · simp [insert, hname, hlt, ih]

end Members

/-- The member of a key read as a typed value, or a default when it is missing. -/
def Members.readOr? {α : Type} [Decode α] (members : List (String × Value)) (key : String)
    (default : α) : Option α :=
  match Members.get? members key with
  | none => some default
  | some value => decodeValue? α value

/-- The member of a key read as a typed value; it must be there. -/
def Members.read? {α : Type} [Decode α] (members : List (String × Value)) (key : String) :
    Option α :=
  (Members.get? members key).bind (decodeValue? α)

theorem Members.read?_insert_of_ne {α : Type} [Decode α] {key other : String} (h : other ≠ key)
    (value : Value) (members : List (String × Value)) :
    (read? (insert key value members) other : Option α) = read? members other := by
  rw [read?, get?_insert_of_ne h, read?]

/-- A member that was read as something is there. -/
theorem Members.isSome_of_readOr? {α : Type} [Decode α] {members : List (String × Value)}
    {key : String} {item : Option α} (h : Members.readOr? members key none = some item)
    (hitem : item.isSome = true) : (Members.get? members key).isSome = true := by
  cases hmember : Members.get? members key with
  | none =>
    rw [Members.readOr?, hmember] at h
    cases h
    cases hitem
  | some value => rfl

/-! ## Records -/

namespace Record

variable {members : List (String × Value)}

/-- Where no key is repeated, a field is the member of its name. -/
theorem field?_of_nodup (h : (members.map Prod.fst).Nodup) (key : String) :
    field? [key] (members.map fun member => (member.1, Source.value member.2)) =
      some ((Members.get? members key).map Source.value) := by
  induction members with
  | nil => rfl
  | cons member members ih =>
    obtain ⟨name, value⟩ := member
    obtain ⟨hfresh, hrest⟩ := List.nodup_cons.1 h
    by_cases hname : name = key
    · subst hname
      have hnone : (members.map fun member => (member.1, Source.value member.2)).filter
          (fun member => [name].contains member.1) = [] := by
        simp only [List.filter_eq_nil_iff, List.mem_map]
        rintro _ ⟨member, hmem, rfl⟩
        simpa using fun heq : member.1 = name => hfresh (List.mem_map.2 ⟨member, hmem, heq⟩)
      rw [List.map_cons, field?, List.filter_cons_of_pos (by simp), hnone]
      simp [Members.get?]
    · have hkey : (key == name) = false := by simpa using Ne.symm hname
      rw [List.map_cons, field?, List.filter_cons_of_neg (by simpa using hname), Members.get?,
        List.lookup_cons, hkey]
      exact ih hrest

/-- The record of the members with the given keys. -/
def ofMembers (keys : List String) (members : List (String × Value)) : Record :=
  ⟨false, keys.map fun key => (Members.get? members key).map Source.value⟩

/-- Where no key is repeated, an object can be read as any record. -/
theorem ofSource?_object (h : (members.map Prod.fst).Nodup) (keys : List String) :
    ofSource? (keys.map fun key => [key]) (.value (.object members)) =
      some (ofMembers keys members) := by
  have hfields : (keys.map fun key => [key]).mapM (field? ·
      (members.map fun member => (member.1, Source.value member.2))) =
        some (keys.map fun key => (Members.get? members key).map Source.value) := by
    induction keys with
    | nil => rfl
    | cons key keys ih =>
      rw [List.map_cons, List.mapM_cons, field?_of_nodup h, ih]
      rfl
  simp only [ofSource?, Source.items?, Source.members?, bind, Option.bind_some]
  rw [hfields]
  rfl

/-- A field with a default is the member of its key, or the default when that is missing. -/
theorem orElse?_ofMembers {α : Type} [Decode α] {keys : List String} {place : Nat} {key : String}
    (hkey : keys[place]? = some key) (default : α) :
    (ofMembers keys members).orElse? place default = Members.readOr? members key default := by
  simp only [orElse?, at?, ofMembers, List.getElem?_map, hkey, Option.map_some, Option.join_some,
    Members.readOr?]
  cases Members.get? members key <;> rfl

/-- A field that must be there is the member of its key. -/
theorem required?_ofMembers {α : Type} [Decode α] {keys : List String} {place : Nat} {key : String}
    (hkey : keys[place]? = some key) :
    (ofMembers keys members).required? place = (Members.read? members key : Option α) := by
  simp only [required?, at?, ofMembers, List.getElem?_map, hkey, Option.map_some, Option.join_some,
    Members.read?]
  cases Members.get? members key <;> rfl

/-- A record of two fields with defaults. -/
theorem bind_pair_object {α β γ : Type} [Decode α] [Decode β]
    (h : (members.map Prod.fst).Nodup) (first second : String) (a : α) (b : β)
    (make : α → β → γ) :
    ((ofSource? [[first], [second]] (.value (.object members))).bind fun record =>
        (record.orElse? 0 a).bind fun x => (record.orElse? 1 b).bind fun y => some (make x y)) =
      (Members.readOr? members first a).bind fun x =>
        (Members.readOr? members second b).bind fun y => some (make x y) := by
  have hrecord : ofSource? [[first], [second]] (.value (.object members)) =
      some (ofMembers [first, second] members) := ofSource?_object h [first, second]
  have hfirst : (ofMembers [first, second] members).orElse? 0 a = Members.readOr? members first a :=
    orElse?_ofMembers rfl a
  have hsecond : (ofMembers [first, second] members).orElse? 1 b =
      Members.readOr? members second b := orElse?_ofMembers rfl b
  rw [hrecord, Option.bind_some, hfirst, hsecond]

end Record

/-! ## Lists -/

/-- A list reads back when its items do. -/
theorem decodeValue?_encode_list {α : Type} [Decode α] [Encode α]
    (h : ∀ item : α, decodeValue? α (encode item) = some item) (items : List α) :
    decodeValue? (List α) (encode items) = some items := by
  show ((items.map encode).map Source.value).mapM decode? = some items
  induction items with
  | nil => rfl
  | cons item items ih =>
    have hitem : decode? (Source.value (encode item)) = some item := h item
    rw [List.map_cons, List.map_cons, List.mapM_cons, hitem, ih]
    rfl

end EdgeSetup.Json
