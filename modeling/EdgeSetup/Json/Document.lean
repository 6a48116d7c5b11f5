import EdgeSetup.Json.Value

/-!
# JSON documents

The syntax of a JSON text before it means anything: members in written order with their repeats,
and leaves that are well formed but have no value, such as `1e400` or a lone surrogate. A leaf
without a value only matters where the value is kept, and so does nesting, of which at most
`nestingLimit` levels may be kept.
-/

namespace EdgeSetup.Json

/-- The syntax tree of a JSON text. -/
inductive Document where
  | null
  | bool (value : Bool)
  /-- A number, or `none` when it is too large to be one. -/
  | number (value : Option Number)
  /-- A string, or `none` when an escape in it stands for no character. -/
  | text (value : Option String)
  | array (items : List Document)
  | object (members : List (Option String × Document))
  deriving Repr, Inhabited

/-- How many arrays and objects may be nested in a value that is kept. -/
def nestingLimit : Nat := 127

namespace Document

mutual

/-- The value of a document, when at most `room` levels are nested and every leaf has a value.
Of repeated keys the last one counts. -/
def value? (room : Nat) : Document → Option Value
  | null => some .null
  | bool b => some (.bool b)
  | number n => n.map .number
  | text s => s.map .string
  | array items =>
    match room with
    | 0 => none
    | room + 1 => (values? room items).map .array
  | object members =>
    match room with
    | 0 => none
    | room + 1 => (memberValues? room members).map .ofMembers

/-- The values of a list of documents. -/
def values? (room : Nat) : List Document → Option (List Value)
  | [] => some []
  | item :: rest => do
    let value ← value? room item
    let values ← values? room rest
    some (value :: values)

/-- The keys and values of a list of members. -/
def memberValues? (room : Nat) : List (Option String × Document) → Option (List (String × Value))
  | [] => some []
  | (key, item) :: rest => do
    let key ← key
    let value ← value? room item
    let members ← memberValues? room rest
    some ((key, value) :: members)

end

end Document

end EdgeSetup.Json
