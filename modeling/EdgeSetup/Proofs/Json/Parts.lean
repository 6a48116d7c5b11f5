import EdgeSetup.Json.Codec

/-!
# The parts of a value

A record is read from a value by name, or by position when the value is an array. `Value.part?` is
the part that a field is read from, and `lenientPart` what a lenient field makes of it.

Main statements: a record that is read from a value has in each of its fields the part of that name
and place (`Record.at?_ofSource?`), so a lenient field is its part, or the fallback when the part is
missing or of a shape that does not fit (`Record.lenient?_ofSource?`).
-/

namespace EdgeSetup.Json

/-- The part of a value that the field with a name, declared at a place, is read from. -/
def Value.part? (key : String) (place : Nat) : Value → Option Value
  | .object members => Members.get? members key
  | .array items => items[place]?
  | _ => none

/-- What a lenient field makes of its part. -/
def lenientPart {α : Type} [Decode α] (key : String) (place : Nat) (fallback : α)
    (value : Value) : α :=
  ((value.part? key place).bind (decodeValue? α)).getD fallback

/-- What a lenient list makes of its part. -/
def lenientListPart {α : Type} [Decode α] (key : String) (place : Nat) (fallback : α)
    (value : Value) : List α :=
  ((value.part? key place).map (Record.lenientItems fallback)).getD []

namespace Record

variable {α : Type} [Decode α] {names : List (List String)} {value : Value} {record : Record}
  {key : String} {place : Nat}

/-- A field of an object is the member of its name. -/
theorem field?_eq_some {members : List (String × Value)} {field : Option Source}
    (h : field? [key] (members.map fun member => (member.1, Source.value member.2)) =
      some field) :
    field = (Members.get? members key).map Source.value := by
  induction members with
  | nil =>
    cases h
    rfl
  | cons member members ih =>
    obtain ⟨name, item⟩ := member
    rw [field?, List.map_cons] at h
    by_cases hname : name = key
    · subst hname
      rw [List.filter_cons_of_pos (by simp)] at h
      generalize List.filter _ _ = others at h
      cases others with
      | nil =>
        cases h
        simp [Members.get?]
      | cons other others => cases h
    · have hkey : (key == name) = false := by simpa using Ne.symm hname
      rw [List.filter_cons_of_neg (by simpa using hname)] at h
      rw [Members.get?, List.lookup_cons, hkey]
      exact ih h

/-- The fields of an object, given by position among their names. -/
theorem mapM_field? {members : List (String × Source)} {fields : List (Option Source)}
    (h : names.mapM (field? · members) = some fields) {keys : List String}
    (hkeys : names[place]? = some keys) :
    ∃ field, fields[place]? = some field ∧ field? keys members = some field := by
  induction names generalizing fields place with
  | nil => cases hkeys
  | cons first names ih =>
    rw [List.mapM_cons] at h
    obtain ⟨field, hfield, hrest⟩ := Option.bind_eq_some_iff.1 h
    obtain ⟨rest, hmap, hfields⟩ := Option.bind_eq_some_iff.1 hrest
    obtain rfl := Option.some.inj hfields
    cases place with
    | zero =>
      cases hkeys
      exact ⟨field, rfl, hfield⟩
    | succ place =>
      obtain ⟨other, hother, hread⟩ := ih hmap hkeys
      exact ⟨other, hother, hread⟩

/-- Each field of a record that is read from a value holds the part of its name and place. -/
theorem at?_ofSource? (h : ofSource? names (.value value) = some record)
    (hkey : names[place]? = some [key]) :
    record.at? place = (value.part? key place).map Source.value := by
  cases value with
  | array items =>
    simp only [ofSource?, Source.items?] at h
    split at h
    · cases h
      simp only [at?, Value.part?, List.map_map, List.getElem?_map]
      cases items[place]? <;> rfl
    · cases h
  | object members =>
    simp only [ofSource?, Source.items?, Source.members?, bind, Option.bind_some] at h
    obtain ⟨fields, hfields, hrecord⟩ := Option.bind_eq_some_iff.1 h
    cases hrecord
    obtain ⟨field, hfield, hmember⟩ := mapM_field? hfields hkey
    rw [at?, hfield, Option.join_some, field?_eq_some hmember]
    rfl
  | _ => cases h

theorem lenient?_ofSource? (key : String) (place : Nat)
    (h : ofSource? names (.value value) = some record) (hkey : names[place]? = some [key])
    (fallback : α) :
    record.lenient? place fallback = some (lenientPart key place fallback value) := by
  rw [lenient?, at?_ofSource? h hkey, lenientPart]
  cases value.part? key place <;> rfl

theorem lenientList?_ofSource? (key : String) (place : Nat)
    (h : ofSource? names (.value value) = some record) (hkey : names[place]? = some [key])
    (fallback : α) :
    record.lenientList? place fallback = some (lenientListPart key place fallback value) := by
  rw [lenientList?, at?_ofSource? h hkey, lenientListPart]
  cases value.part? key place <;> rfl

end Record

/-! ## Shapes that fit -/

theorem decodeValue?_string_eq_some {value : Value} {text : String} :
    decodeValue? String value = some text ↔ value = .string text := by
  cases value with
  | string read =>
    show some read = some text ↔ _
    simp
  | _ => exact iff_of_false nofun nofun

theorem number_of_decodeValue?_uint32 {value : Value} {word : UInt32}
    (h : decodeValue? UInt32 value = some word) :
    ∃ n : Nat, n < UInt32.size ∧ value = .number (.int n) := by
  obtain ⟨n, hn, -⟩ := Option.map_eq_some_iff.1 h
  unfold natBelow? at hn
  split at hn
  · next written hnumber =>
    split at hn
    · next hsize =>
      cases value with
      | number number =>
        cases hnumber
        exact ⟨written, hsize, rfl⟩
      | _ => cases hnumber
    · cases hn
  · cases hn

variable {α : Type} [Decode α] {value : Value} {key : String} {place : Nat}

/-- A lenient field that is not the fallback was read from its part. -/
theorem read_of_lenientPart_ne {fallback : α}
    (h : lenientPart key place fallback value ≠ fallback) :
    ∃ part, value.part? key place = some part ∧
      decodeValue? α part = some (lenientPart key place fallback value) := by
  unfold lenientPart at h ⊢
  cases hpart : value.part? key place with
  | none =>
    rw [hpart] at h
    exact absurd rfl h
  | some part =>
    rw [hpart, Option.bind_some] at h
    refine ⟨part, rfl, ?_⟩
    rw [Option.bind_some]
    cases hread : decodeValue? α part with
    | none =>
      rw [hread] at h
      exact absurd rfl h
    | some read => rfl

theorem decodeValue?_option (h : value ≠ .null) :
    decodeValue? (Option α) value = (decodeValue? α value).map some := by
  cases value with
  | null => exact absurd rfl h
  | _ => rfl

/-- A lenient field that may be left out is there when its part fits and is not null. -/
theorem lenientPart_eq_some {item : α} :
    lenientPart key place none value = some item ↔
      ∃ part, value.part? key place = some part ∧ part ≠ .null ∧
        decodeValue? α part = some item := by
  unfold lenientPart
  cases value.part? key place with
  | none => simp
  | some part =>
    simp only [Option.bind_some, Option.some.injEq, exists_eq_left']
    by_cases hnull : part = .null
    · subst hnull
      exact iff_of_false nofun fun h => h.1 rfl
    · rw [decodeValue?_option hnull]
      cases decodeValue? α part <;> simp [hnull]

theorem lenientPart_eq_some_string {text : String} :
    lenientPart key place none value = some text ↔
      value.part? key place = some (.string text) := by
  rw [lenientPart_eq_some]
  constructor
  · rintro ⟨part, hpart, -, hread⟩
    rw [hpart, decodeValue?_string_eq_some.1 hread]
  · intro hpart
    exact ⟨_, hpart, nofun, rfl⟩

/-- A lenient text that is not empty was a text. -/
theorem part?_of_lenientPart_string (h : lenientPart key place "" value ≠ "") :
    ∃ text, value.part? key place = some (.string text) := by
  obtain ⟨part, hpart, hread⟩ := read_of_lenientPart_ne h
  exact ⟨_, decodeValue?_string_eq_some.1 hread ▸ hpart⟩

/-- A lenient number that is not zero was a whole number in range. -/
theorem part?_of_lenientPart_uint32 (h : lenientPart key place (0 : UInt32) value ≠ 0) :
    ∃ n : Nat, n < UInt32.size ∧ value.part? key place = some (.number (.int n)) := by
  obtain ⟨part, hpart, hread⟩ := read_of_lenientPart_ne h
  obtain ⟨n, hn, rfl⟩ := number_of_decodeValue?_uint32 hread
  exact ⟨n, hn, hpart⟩

/-- A lenient list that is not empty was an array. -/
theorem part?_of_lenientListPart {fallback : α}
    (h : lenientListPart key place fallback value ≠ []) :
    ∃ items, value.part? key place = some (.array items) ∧
      lenientListPart key place fallback value =
        items.map (fun item => (decodeValue? α item).getD fallback) := by
  unfold lenientListPart at h ⊢
  cases hpart : value.part? key place with
  | none => simp [hpart] at h
  | some part =>
    cases part with
    | array items => exact ⟨items, rfl, rfl⟩
    | _ => exact absurd (by rw [hpart]; rfl) h

end EdgeSetup.Json
