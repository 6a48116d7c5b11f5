import EdgeSetup.Json.Source

/-!
# Decoding and encoding typed values

`Decode` reads a typed value from a source and `Encode` writes it as a JSON value. A record is read
from an object by field name, or from an array by field position. Lenient fields take any value at
all: one of the wrong shape becomes a fallback.
-/

namespace EdgeSetup.Json

/-- Types that can be read from JSON. -/
class Decode (α : Type) where
  decode? : Source → Option α

/-- Types that can be written as JSON. -/
class Encode (α : Type) where
  encode : α → Value

export Decode (decode?)
export Encode (encode)

/-- Reads a typed value from a JSON text. -/
def decodeText? (α : Type) [Decode α] (text : String) : Option α :=
  (Document.parse? text).bind (fun d => decode? (.ofDocument d))

/-- Reads a typed value from a JSON value. -/
def decodeValue? (α : Type) [Decode α] (value : Value) : Option α := decode? (.value value)

/-! ## Leaves -/

instance : Decode Value := ⟨Source.value?⟩
instance : Encode Value := ⟨id⟩

instance : Decode String := ⟨Source.text?⟩
instance : Encode String := ⟨.string⟩

instance : Decode Bool := ⟨Source.bool?⟩
instance : Encode Bool := ⟨.bool⟩

/-- A whole number from zero up to a bound that it does not reach. -/
def natBelow? (limit : Nat) (source : Source) : Option Nat :=
  match source.number? with
  | some (.int (.ofNat n)) => if n < limit then some n else none
  | _ => none

instance : Decode UInt32 := ⟨fun source => (natBelow? UInt32.size source).map UInt32.ofNat⟩
instance : Encode UInt32 := ⟨fun n => .ofNat n.toNat⟩

instance : Decode UInt64 := ⟨fun source => (natBelow? UInt64.size source).map UInt64.ofNat⟩
instance : Encode UInt64 := ⟨fun n => .ofNat n.toNat⟩

instance : Encode Nat := ⟨.ofNat⟩

instance : Decode Binary64 := ⟨fun source => source.number?.map Number.toBinary64⟩
instance : Encode Binary64 := ⟨fun x => if x.isFinite then .number (.float x) else .null⟩

/-! ## Containers -/

variable {α : Type}

instance [Decode α] : Decode (Option α) :=
  ⟨fun source => if source.isNull then some none else (decode? source).map some⟩

instance [Encode α] : Encode (Option α) :=
  ⟨fun | none => .null | some a => encode a⟩

instance [Decode α] : Decode (List α) :=
  ⟨fun source => source.items?.bind (fun items => items.mapM decode?)⟩

instance [Encode α] : Encode (List α) := ⟨fun items => .array (items.map encode)⟩

/-! ## Records -/

/-- The fields found for a record, in the order of its declaration. -/
structure Record where
  /-- Whether the fields were given by position. -/
  positional : Bool
  fields : List (Option Source)

namespace Record

/-- The one member among the given names, if there is any; none at all when there are two. -/
def field? (names : List String) (members : List (String × Source)) : Option (Option Source) :=
  match members.filter (fun member => names.contains member.1) with
  | [] => some none
  | [member] => some (some member.2)
  | _ => none

/-- Reads the fields of a record, each known by one or more names. Unknown members are passed
over; in an array there may be no more items than fields. -/
def ofSource? (names : List (List String)) (source : Source) : Option Record :=
  match source.items? with
  | some items => if items.length ≤ names.length then some ⟨true, items.map some⟩ else none
  | none => do
    let members ← source.members?
    let fields ← names.mapM (field? · members)
    some ⟨false, fields⟩

/-- The field at a position. -/
def at? (record : Record) (i : Nat) : Option Source := record.fields[i]?.join

/-- A field that must be there. -/
def required? [Decode α] (record : Record) (i : Nat) : Option α :=
  (record.at? i).bind decode?

/-- A field with a default for when it is missing. -/
def orElse? [Decode α] (record : Record) (i : Nat) (default : α) : Option α :=
  match record.at? i with
  | none => some default
  | some source => decode? source

/-- A field that a named record may leave out, but not one given by position. -/
def optional? [Decode α] (record : Record) (i : Nat) : Option (Option α) :=
  match record.at? i with
  | none => if record.positional then none else some none
  | some source => decode? source

/-- A lenient field: missing, or of a shape that does not fit the type, it is the fallback. -/
def lenient? [Decode α] (record : Record) (i : Nat) (fallback : α) : Option α :=
  match record.at? i with
  | none => some fallback
  | some source => source.value?.map (fun value => (decodeValue? α value).getD fallback)

/-- The items of a lenient list: anything but an array has none, and an item that does not fit
the type is the fallback. -/
def lenientItems [Decode α] (fallback : α) : Value → List α
  | .array items => items.map (fun item => (decodeValue? α item).getD fallback)
  | _ => []

/-- A lenient list field; missing, it is empty. -/
def lenientList? [Decode α] (record : Record) (i : Nat) (fallback : α) : Option (List α) :=
  match record.at? i with
  | none => some []
  | some source => source.value?.map (lenientItems fallback)

end Record

/-- Reads through records of one required field each, outermost name first. -/
def unwrap? {α : Type} [Decode α] : List String → Source → Option α
  | [], source => decode? source
  | name :: names, source => do
    let record ← Record.ofSource? [[name]] source
    let inner ← record.at? 0
    unwrap? names inner

/-- A value inside records of one field each, outermost name first. -/
def wrap (names : List String) (value : Value) : Value :=
  names.foldr (fun name inner => .object [(name, inner)]) value

/-- A member that is left out of an object when it has no value. -/
def memberIfSome [Encode α] (key : String) : Option α → List (String × Value)
  | none => []
  | some a => [(key, encode a)]

/-- The name of a variant without content: its text, or an object with that one key and null. -/
def variant? (source : Source) : Option String :=
  match source.text? with
  | some name => some name
  | none =>
    match source.members? with
    | some [(name, content)] => if content.isNull then some name else none
    | _ => none

end EdgeSetup.Json
