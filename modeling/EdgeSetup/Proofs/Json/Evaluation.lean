import EdgeSetup.Json.Codec
import EdgeSetup.Json.Reader
import EdgeSetup.Json.Writer

/-!
# Evaluating JSON values

What lets statements about fixed values be evaluated: values can be compared (`Value.same_iff`),
and the text of a value is read character by character without building it
(`decodeText?_render`).
-/

namespace EdgeSetup.Json

namespace Value

/-! ## Equality -/

mutual

/-- Whether two values are the same. -/
def same : Value → Value → Bool
  | null, null => true
  | bool a, bool b => a == b
  | number a, number b => a == b
  | string a, string b => a == b
  | array items, array items' => sameItems items items'
  | object members, object members' => sameMembers members members'
  | _, _ => false

/-- Whether two lists of items are the same. -/
def sameItems : List Value → List Value → Bool
  | [], [] => true
  | item :: rest, item' :: rest' => same item item' && sameItems rest rest'
  | _, _ => false

/-- Whether two lists of members are the same. -/
def sameMembers : List (String × Value) → List (String × Value) → Bool
  | [], [] => true
  | (key, item) :: rest, (key', item') :: rest' =>
    key == key' && same item item' && sameMembers rest rest'
  | _, _ => false

end

mutual

theorem same_iff : ∀ {a b : Value}, same a b = true ↔ a = b
  | a, b => by
    cases a with
    | null => cases b <;> simp [same]
    | bool value => cases b <;> simp [same]
    | number value => cases b <;> simp [same]
    | string value => cases b <;> simp [same]
    | array items => cases b <;> simp [same, sameItems_iff]
    | object members => cases b <;> simp [same, sameMembers_iff]

theorem sameItems_iff : ∀ {items items' : List Value},
    sameItems items items' = true ↔ items = items'
  | [], items' => by cases items' <;> simp [sameItems]
  | item :: rest, [] => by simp [sameItems]
  | item :: rest, item' :: rest' => by simp [sameItems, same_iff, sameItems_iff]

theorem sameMembers_iff : ∀ {members members' : List (String × Value)},
    sameMembers members members' = true ↔ members = members'
  | [], members' => by cases members' <;> simp [sameMembers]
  | (key, item) :: rest, [] => by simp [sameMembers]
  | (key, item) :: rest, (key', item') :: rest' => by
    simp [sameMembers, same_iff, sameMembers_iff]

end

instance : DecidableEq Value := fun _ _ => decidable_of_iff _ same_iff

/-! ## Characters -/

mutual

/-- The characters of the text of a value. -/
def chars : Value → List Char
  | string s => '"' :: (s.toList.flatMap Writer.escape ++ ['"'])
  | array items => '[' :: ([','].intercalate (itemChars items) ++ [']'])
  | object members => '\x7b' :: ([','].intercalate (memberChars members) ++ ['\x7d'])
  | value => value.render.toList

/-- The characters of the items of an array. -/
def itemChars : List Value → List (List Char)
  | [] => []
  | item :: rest => chars item :: itemChars rest

/-- The characters of the members of an object. -/
def memberChars : List (String × Value) → List (List Char)
  | [] => []
  | (key, value) :: rest => (chars (.string key) ++ ':' :: chars value) :: memberChars rest

end

mutual

theorem toList_render : ∀ value : Value, value.render.toList = value.chars
  | null => by simp [chars]
  | bool _ => by simp [chars]
  | number _ => by simp [chars]
  | string s => by simp [render, chars, Writer.quote]
  | array items => by simp [render, chars, map_toList_renderItems items]
  | object members => by simp [render, chars, map_toList_renderMembers members]

theorem map_toList_renderItems : ∀ items : List Value,
    (renderItems items).map String.toList = itemChars items
  | [] => by simp [renderItems, itemChars]
  | item :: rest => by
    simp [renderItems, itemChars, toList_render item, map_toList_renderItems rest]

theorem map_toList_renderMembers : ∀ members : List (String × Value),
    (renderMembers members).map String.toList = memberChars members
  | [] => by simp [renderMembers, memberChars]
  | (key, value) :: rest => by
    simp [renderMembers, memberChars, Writer.quote, chars, toList_render value,
      map_toList_renderMembers rest]

end

end Value

/-- Reads a document from characters. -/
def Document.ofChars? (text : List Char) : Option Document :=
  let chars := Reader.skipBlanks text
  match Reader.value? (2 * chars.length + 2) chars with
  | some (document, rest) => if (Reader.skipBlanks rest).isEmpty then some document else none
  | none => none

/-- The text of a value is read like its characters. -/
theorem Document.parse?_render (value : Value) :
    Document.parse? value.render = Document.ofChars? value.chars := by
  rw [← value.toList_render]
  rfl

theorem decodeText?_render {α : Type} [Decode α] (value : Value) :
    decodeText? α value.render =
      (Document.ofChars? value.chars).bind fun document => decode? (.ofDocument document) := by
  rw [decodeText?, Document.parse?_render]

end EdgeSetup.Json
