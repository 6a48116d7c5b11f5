import EdgeSetup.Proofs.Host.Shapes
import EdgeSetup.Proofs.Json.Evaluation

/-!
# Requests to set static addresses

A request submits values, in a JSON text that reads as the object of which `hosts` is the array of
them (`Submits`). The text may spell the object in any way, and the values may be any at all.

**Submitted values are read one by one** (`Submits.decodeText?`): there is one host for each, in
order, and it depends on its own value only. A text may also repeat the member. It reads as an
object all the same, with the last array, but not as a request (`Submits.decodeText?_of_repeats`).
-/

namespace EdgeSetup

open Json

namespace Json

/-! ## Objects of one member -/

/-- The keys of an object as they are written, repeats included. -/
def Document.keys : Document → List (Option String)
  | .object members => members.map Prod.fst
  | _ => []

theorem Document.memberValues?_keys {room : Nat} {members : List (Option String × Document)}
    {values : List (String × Value)} (h : Document.memberValues? room members = some values) :
    members.map Prod.fst = (values.map Prod.fst).map some := by
  induction members generalizing values with
  | nil =>
    cases h
    rfl
  | cons member members ih =>
    obtain ⟨key, item⟩ := member
    rw [memberValues?] at h
    obtain ⟨name, hname, hitem⟩ := Option.bind_eq_some_iff.1 h
    obtain ⟨value, -, hmembers⟩ := Option.bind_eq_some_iff.1 hitem
    obtain ⟨rest, hrest, hvalues⟩ := Option.bind_eq_some_iff.1 hmembers
    cases hvalues
    rw [List.map_cons, List.map_cons, List.map_cons, ih hrest, hname]

theorem Members.isSome_get?_foldl_insert {α : Type} {members acc : List (String × α)}
    {key : String} (h : (get? acc key).isSome = true) :
    (get? (members.foldl (fun acc member => insert member.1 member.2 acc) acc) key).isSome =
      true := by
  induction members generalizing acc with
  | nil => exact h
  | cons member members ih =>
    refine ih ?_
    by_cases hkey : key = member.1
    · rw [hkey, get?_insert_self]
      rfl
    · rw [get?_insert_of_ne hkey]
      exact h

/-- Every key that an object is built from is a key of it. -/
theorem Members.isSome_get?_ofList {α : Type} {members : List (String × α)} {member : String × α}
    (h : member ∈ members) : (get? (ofList members) member.1).isSome = true := by
  obtain ⟨before, after, rfl⟩ := List.append_of_mem h
  rw [ofList, List.foldl_append, List.foldl_cons]
  refine isSome_get?_foldl_insert ?_
  rw [get?_insert_self]
  rfl

theorem Members.key_of_ofList {α : Type} {members : List (String × α)} {key : String} {value : α}
    (h : ofList members = [(key, value)]) : ∀ member ∈ members, member.1 = key := by
  intro member hmem
  have hfound := isSome_get?_ofList hmem
  rw [h] at hfound
  by_cases hsame : member.1 = key
  · exact hsame
  · have hother : (member.1 == key) = false := by simpa using hsame
    simp [get?, List.lookup_cons, hother] at hfound

/-- Without repeats, an object of one member is built from that member only. -/
theorem Members.eq_singleton_of_ofList {α : Type} {members : List (String × α)} {key : String}
    {value : α} (hkeys : (members.map Prod.fst).Nodup) (h : ofList members = [(key, value)]) :
    members = [(key, value)] := by
  have hkey := key_of_ofList h
  cases members with
  | nil => cases h
  | cons first rest =>
    cases rest with
    | nil => exact h
    | cons second rest =>
      have hfirst := hkey first (List.mem_cons_self ..)
      have hsecond := hkey second (List.mem_cons_of_mem _ (List.mem_cons_self ..))
      simp [hfirst, hsecond] at hkeys

/-- A document that reads as an object is an object, with members that build what it reads as. -/
theorem Document.members_of_value? {document : Document} {room : Nat}
    {entries : List (String × Value)}
    (h : document.value? (room + 1) = some (.object entries)) :
    ∃ members values, document = .object members ∧
      Document.memberValues? room members = some values ∧ Members.ofList values = entries := by
  cases document with
  | object members =>
    rw [Document.value?] at h
    obtain ⟨values, hvalues, hobject⟩ := Option.map_eq_some_iff.1 h
    cases hobject
    exact ⟨members, values, rfl, hvalues, rfl⟩
  | _ => simp [Document.value?] at h

variable {document : Document} {room : Nat} {key : String} {value : Value}

/-- A document without repeats that reads as an object of one member is written with that member
only. -/
theorem Document.eq_object_of_value? (hkeys : document.keys.Nodup)
    (h : document.value? (room + 1) = some (.object [(key, value)])) :
    ∃ item, document = .object [(some key, item)] ∧ item.value? room = some value := by
  obtain ⟨members, values, rfl, hvalues, hbuilt⟩ := Document.members_of_value? h
  have hsame := Document.memberValues?_keys hvalues
  have hdistinct : (values.map Prod.fst).Nodup := by
    rw [Document.keys, hsame] at hkeys
    exact List.Pairwise.of_map some (fun _ _ hne heq => hne (congrArg some heq)) hkeys
  rw [Members.eq_singleton_of_ofList hdistinct hbuilt] at hsame hvalues
  obtain ⟨⟨written, item⟩, rfl, hwritten⟩ := List.map_eq_singleton_iff.1 hsame
  subst hwritten
  refine ⟨item, rfl, ?_⟩
  simp only [Document.memberValues?, bind, Option.bind_some] at hvalues
  obtain ⟨read, hread, hmember⟩ := Option.bind_eq_some_iff.1 hvalues
  cases hmember
  exact hread

/-- With repeats, such a document begins with the member twice. -/
theorem Document.eq_cons_of_value? (hkeys : ¬ document.keys.Nodup)
    (h : document.value? (room + 1) = some (.object [(key, value)])) :
    ∃ first second rest,
      document = .object ((some key, first) :: (some key, second) :: rest) := by
  obtain ⟨members, values, rfl, hvalues, hbuilt⟩ := Document.members_of_value? h
  have hwritten : ∀ member ∈ members, member.1 = some key := by
    intro member hmem
    have hfst := List.mem_map_of_mem (f := Prod.fst) hmem
    rw [Document.memberValues?_keys hvalues, List.map_map] at hfst
    obtain ⟨read, hread, heq⟩ := List.mem_map.1 hfst
    rw [← heq, ← Members.key_of_ofList hbuilt read hread]
    rfl
  cases members with
  | nil => simp [Document.keys] at hkeys
  | cons first members =>
    cases members with
    | nil => simp [Document.keys] at hkeys
    | cons second rest =>
      obtain ⟨hfirst, hrest⟩ := List.forall_mem_cons.1 hwritten
      obtain ⟨hsecond, -⟩ := List.forall_mem_cons.1 hrest
      refine ⟨first.2, second.2, rest, ?_⟩
      rw [← Prod.eta first, ← Prod.eta second, hfirst, hsecond]

/-- A document that repeats the member of a record is not read as the record. -/
theorem Record.ofSource?_repeats {room : Nat} {name : String} {first second : Document}
    {rest : List (Option String × Document)} :
    ofSource? [[name]]
      (.document (room + 1) (.object ((some name, first) :: (some name, second) :: rest))) =
        none := by
  simp only [ofSource?, Source.items?, Source.members?, List.mapM_cons, Source.member?,
    Option.map_some, bind, Option.bind_some]
  cases List.mapM (Source.member? room) rest with
  | none => rfl
  | some others => simp [field?]

end Json

/-! ## Reading requests -/

/-- A text submits values: it reads as the object of which `hosts` is the array of them. -/
def Submits (text : String) (values : List Value) : Prop :=
  ∃ document, Document.parse? text = some document ∧
    document.value? nestingLimit = some (.object [("hosts", .array values)])

/-- A text is that of an object with a member that is repeated. -/
def RepeatsMember (text : String) : Prop :=
  ∃ document, Document.parse? text = some document ∧ ¬ document.keys.Nodup

/-- A written value submits values, as far as its text reads back. -/
theorem submits_render {written : Value} {values : List Value}
    (h : (Document.ofChars? written.chars).bind
      (fun document => document.value? nestingLimit) = some (.object [("hosts", .array values)])) :
    Submits written.render values := by
  obtain ⟨document, hparse, hread⟩ := Option.bind_eq_some_iff.1 h
  exact ⟨document, (Document.parse?_render _).trans hparse, hread⟩

/-- Whether a written value repeats a member is told by the keys that its text has. -/
theorem repeatsMember_render_iff {written : Value} {keys : List (Option String)}
    (h : (Document.ofChars? written.chars).map Document.keys = some keys) :
    RepeatsMember written.render ↔ ¬ keys.Nodup := by
  obtain ⟨document, hparse, rfl⟩ := Option.map_eq_some_iff.1 h
  rw [RepeatsMember, Document.parse?_render, hparse]
  simp

/-- **Submitted values are read one by one.** -/
theorem Submits.decodeText? {text : String} {values : List Value} (h : Submits text values)
    (hrepeats : ¬ RepeatsMember text) :
    decodeText? StaticIpsRequest text = some ⟨values.map Host.ofValue⟩ := by
  obtain ⟨document, hparse, hvalue⟩ := h
  have hkeys : document.keys.Nodup := not_not.1 fun hkeys => hrepeats ⟨document, hparse, hkeys⟩
  obtain ⟨item, rfl, hitem⟩ := Document.eq_object_of_value? hkeys hvalue
  rw [Json.decodeText?, hparse, Option.bind_some]
  have hrecord : Record.ofSource? [["hosts"]]
      (.ofDocument (.object [(some "hosts", item)])) =
        some ⟨false, [some (.document (nestingLimit - 1) item)]⟩ := by
    rfl
  have hlist : (⟨false, [some (.document (nestingLimit - 1) item)]⟩ : Record).lenientList? 0
      Host.empty = some (values.map Host.ofValue) := by
    show ((Document.value? (nestingLimit - 1) item).map _) = _
    rw [show Document.value? (nestingLimit - 1) item = some (.array values) from hitem]
    rfl
  show (Record.ofSource? [["hosts"]] _).bind _ = _
  rw [hrecord]
  show (Record.lenientList? _ 0 Host.empty).bind _ = _
  rw [hlist]
  rfl

/-- **A text that repeats the member is not read**, whatever values it submits. -/
theorem Submits.decodeText?_of_repeats {text : String} {values : List Value}
    (h : Submits text values) (hrepeats : RepeatsMember text) :
    Json.decodeText? StaticIpsRequest text = none := by
  obtain ⟨document, hparse, hvalue⟩ := h
  obtain ⟨same, hsame, hkeys⟩ := hrepeats
  cases hparse.symm.trans hsame
  obtain ⟨first, second, rest, rfl⟩ := Document.eq_cons_of_value? hkeys hvalue
  rw [Json.decodeText?, hparse, Option.bind_some]
  show (Record.ofSource? [["hosts"]] (.document (nestingLimit - 1 + 1) _)).bind _ = none
  rw [Record.ofSource?_repeats]
  rfl

/-- An accepted host names the policy to patch in its value, in a text that is not empty. -/
theorem existingPolicy?_ofValue {value : Value} {name : String}
    (h : (Host.ofValue value).validate = .ok ()) :
    StaticIps.existingPolicy? (Host.ofValue value) = some name ↔
      value.part? "nncpName" 2 = some (.string name) ∧ name ≠ "" := by
  cases hread : decodeValue? Host value with
  | none =>
    rw [Host.ofValue, hread] at h
    cases h
  | some host =>
    obtain ⟨-, hpolicy, -⟩ := decodeValue?_host hread
    rw [Host.ofValue, hread, Option.getD_some, StaticIps.existingPolicy?, hpolicy,
      Option.filter_eq_some_iff, lenientPart_eq_some_string]
    simp

end EdgeSetup
