import EdgeSetup.Proofs.Json.Objects

/-!
# Written values that read back

A type is reversible when each of its values, once written, is read back as it was. Leaves, lists,
maps and optional values of reversible types are reversible. A record is written as an object with a
member for each field that has a value, and is read back field by field
(`Record.ofSource?_written`): a field of a reversible type gives its value back whether it must be
there, has a default, or is read leniently.
-/

namespace EdgeSetup.Json

/-- Types whose values read back once they are written. -/
class Reversible (α : Type) [Decode α] [Encode α] : Prop where
  decodeValue?_encode : ∀ item : α, decodeValue? α (encode item) = some item

/-- Nothing is lost by writing values of a type: what is written reads back, and what was read, from
whatever source, is read again once it is written. -/
structure Lossless (α : Type) [Decode α] [Encode α] : Prop where
  written : ∀ item : α, decodeValue? α (encode item) = some item
  reread : ∀ (source : Source) (item : α), decode? source = some item →
    decodeValue? α (encode item) = some item

theorem Reversible.lossless {α : Type} [Decode α] [Encode α] [Reversible α] : Lossless α :=
  ⟨Reversible.decodeValue?_encode, fun _ item _ => Reversible.decodeValue?_encode item⟩

/-- Types whose values are never written as null, so that null is left for a missing value. -/
class NonNull (α : Type) [Encode α] : Prop where
  encode_ne_null : ∀ item : α, encode item ≠ .null

/-! ## Leaves -/

instance : Reversible String := ⟨fun _ => rfl⟩
instance : NonNull String := ⟨fun _ => nofun⟩

instance : Reversible Bool := ⟨fun _ => rfl⟩
instance : NonNull Bool := ⟨fun _ => nofun⟩

instance : Reversible Value := ⟨fun _ => rfl⟩

instance : Reversible UInt32 where
  decodeValue?_encode n := by
    have hread : natBelow? UInt32.size (.value (encode n)) = some n.toNat :=
      if_pos n.toNat_lt_size
    show (natBelow? UInt32.size (.value (encode n))).map UInt32.ofNat = some n
    rw [hread, Option.map_some, UInt32.ofNat_toNat]

/-! ## Containers -/

variable {α : Type} [Decode α] [Encode α] [Reversible α]

instance [NonNull α] : Reversible (Option α) where
  decodeValue?_encode
    | none => rfl
    | some item => by
      show decodeValue? (Option α) (encode item) = some (some item)
      rw [decodeValue?_option (NonNull.encode_ne_null item), Reversible.decodeValue?_encode,
        Option.map_some]

instance : Reversible (List α) := ⟨decodeValue?_encode_list Reversible.decodeValue?_encode⟩

instance {α : Type} [Encode α] : NonNull (List α) := ⟨fun _ => nofun⟩

instance : Reversible (Map α) where
  decodeValue?_encode map := by
    have hentries (entries : List (String × α)) :
        ((entries.map fun entry => (entry.1, encode entry.2)).map fun member =>
          (member.1, Source.value member.2)).mapM
            (fun member => (decode? member.2).map (member.1, ·)) = some entries := by
      induction entries with
      | nil => rfl
      | cons entry entries ih =>
        have hentry : decode? (Source.value (encode entry.2)) = some entry.2 :=
          Reversible.decodeValue?_encode entry.2
        rw [List.map_cons, List.map_cons, List.mapM_cons, hentry, ih]
        rfl
    show (((map.entries.map fun entry => (entry.1, encode entry.2)).map fun member =>
      (member.1, Source.value member.2)).mapM
        (fun member => (decode? member.2).map (member.1, ·))).map Map.ofList = some map
    rw [hentries, Option.map_some, Map.ofList_entries]

instance {α : Type} [Encode α] : NonNull (Map α) := ⟨fun _ => nofun⟩

/-! ## Written fields -/

/-- The members of an object that is written with some keys: each key that has a value. -/
def Members.ofFields (keys : List String) (values : List (Option Value)) :
    List (String × Value) :=
  (keys.zip values).filterMap fun field => field.2.map (field.1, ·)

namespace Members

variable {keys : List String} {key other : String}

theorem ofFields_keys (keys : List String) (values : List (Option Value)) :
    ((ofFields keys values).map Prod.fst).Sublist keys := by
  induction keys generalizing values with
  | nil => exact List.nil_sublist []
  | cons key keys ih =>
    cases values with
    | nil => exact List.nil_sublist _
    | cons value values =>
      cases value with
      | none => exact (ih values).cons key
      | some value => exact (ih values).cons_cons key

/-- The value of the first key. -/
theorem get?_ofFields_head (hkey : key ∉ keys) (value : Option Value)
    (values : List (Option Value)) :
    get? (ofFields (key :: keys) (value :: values)) key = value := by
  cases value with
  | none =>
    show (ofFields keys values).lookup key = none
    rw [List.lookup_eq_none_iff]
    intro member hmem
    have hother := (ofFields_keys keys values).subset (List.mem_map_of_mem hmem)
    simpa using fun heq : key = member.1 => hkey (heq ▸ hother)
  | some value => exact List.lookup_cons_self

/-- The value of a later key. -/
theorem get?_ofFields_tail (hne : other ≠ key) (value : Option Value)
    (values : List (Option Value)) :
    get? (ofFields (key :: keys) (value :: values)) other = get? (ofFields keys values) other := by
  cases value with
  | none => rfl
  | some value =>
    show List.lookup other ((key, value) :: ofFields keys values) = _
    rw [List.lookup_cons, beq_eq_false_iff_ne.2 hne]
    rfl

end Members

namespace Record

variable {keys : List String} {values : List (Option Value)}

/-- The record of fields that have a value, or have none. -/
def ofValues (values : List (Option Value)) : Record :=
  ⟨false, values.map (Option.map Source.value)⟩

theorem ofMembers_ofFields (hkeys : keys.Nodup) (hlength : keys.length = values.length) :
    ofMembers keys (Members.ofFields keys values) = ofValues values := by
  have hfields : keys.map (fun key =>
      (Members.get? (Members.ofFields keys values) key).map Source.value) =
        values.map (Option.map Source.value) := by
    induction keys generalizing values with
    | nil =>
      obtain rfl := List.length_eq_zero_iff.1 hlength.symm
      rfl
    | cons key keys ih =>
      cases values with
      | nil => cases hlength
      | cons value values =>
        obtain ⟨hkey, hrest⟩ := List.nodup_cons.1 hkeys
        rw [List.map_cons, List.map_cons, Members.get?_ofFields_head hkey,
          ← ih hrest (Nat.succ.inj hlength)]
        refine congrArg (_ :: ·) (List.map_congr_left fun other hother => ?_)
        rw [Members.get?_ofFields_tail (fun heq : other = key => hkey (heq ▸ hother))]
  rw [ofMembers, hfields, ofValues]

/-- A record that is written field by field is read back field by field. -/
theorem ofSource?_written (keys : List String) (values : List (Option Value)) {value : Value}
    (hkeys : keys.Nodup) (hlength : keys.length = values.length)
    (hwritten : value = .object (Members.ofFields keys values)) :
    ofSource? (keys.map fun key => [key]) (.value value) = some (ofValues values) := by
  have hnodup : ((Members.ofFields keys values).map Prod.fst).Nodup :=
    hkeys.sublist (Members.ofFields_keys keys values)
  rw [hwritten, ofSource?_object hnodup, ofMembers_ofFields hkeys hlength]

/-! ## Fields read back -/

/-- Reads a field and goes on. -/
theorem reads {β γ : Type} {field : Option β} {item : β} {next : β → Option γ} {result : γ}
    (h : field = some item) (hnext : next item = some result) :
    field.bind next = some result :=
  Option.bind_eq_some_iff.2 ⟨item, h, hnext⟩

variable {place : Nat}

theorem at?_ofValues (values : List (Option Value)) (place : Nat) :
    (ofValues values).at? place = values[place]?.join.map Source.value := by
  rw [at?, ofValues, List.getElem?_map]
  cases values[place]? <;> rfl

variable {item : α}

theorem required?_ofValues (h : values[place]? = some (some (encode item))) :
    (ofValues values).required? place = some item := by
  rw [required?, at?_ofValues, h]
  exact Reversible.decodeValue?_encode item

theorem orElse?_ofValues (h : values[place]? = some (some (encode item))) (default : α) :
    (ofValues values).orElse? place default = some item := by
  rw [orElse?, at?_ofValues, h]
  exact Reversible.decodeValue?_encode item

/-- A field that is left out when it has no value. -/
theorem orElse?_ofValues_option [NonNull α] {item : Option α}
    (h : values[place]? = some (item.map encode)) :
    (ofValues values).orElse? place none = some item := by
  rw [orElse?, at?_ofValues, h]
  cases item with
  | none => rfl
  | some item => exact Reversible.decodeValue?_encode (some item)

theorem lenient?_ofValues (h : values[place]? = some (some (encode item))) (fallback : α) :
    (ofValues values).lenient? place fallback = some item := by
  rw [lenient?, at?_ofValues, h]
  show some ((decodeValue? α (encode item)).getD fallback) = some item
  rw [Reversible.decodeValue?_encode, Option.getD_some]

theorem lenient?_ofValues_option [NonNull α] {item : Option α}
    (h : values[place]? = some (item.map encode)) :
    (ofValues values).lenient? place none = some item := by
  rw [lenient?, at?_ofValues, h]
  cases item with
  | none => rfl
  | some item =>
    show some ((decodeValue? (Option α) (encode (some item))).getD none) = some (some item)
    rw [Reversible.decodeValue?_encode, Option.getD_some]

theorem lenientList?_ofValues {items : List α} (h : values[place]? = some (some (encode items)))
    (fallback : α) : (ofValues values).lenientList? place fallback = some items := by
  have hitems : (items.map encode).map (fun item => (decodeValue? α item).getD fallback) =
      items := by
    rw [List.map_map]
    refine List.map_id'' (fun item => ?_) items
    rw [Function.comp_apply, Reversible.decodeValue?_encode, Option.getD_some]
  rw [lenientList?, at?_ofValues, h]
  exact congrArg some hitems

end Record

/-- A value inside records of one field each is read through them. -/
theorem unwrap?_wrap (names : List String) (item : α) :
    unwrap? names (.value (wrap names (encode item))) = some item := by
  induction names with
  | nil => exact Reversible.decodeValue?_encode item
  | cons name names ih =>
    have hrecord : Record.ofSource? [[name]] (.value (wrap (name :: names) (encode item))) =
        some (.ofValues [some (wrap names (encode item))]) :=
      Record.ofSource?_written [name] _ (by simp) rfl rfl
    rw [unwrap?, hrecord]
    exact ih

end EdgeSetup.Json
