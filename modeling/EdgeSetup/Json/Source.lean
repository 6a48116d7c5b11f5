import EdgeSetup.Json.Reader

/-!
# What a decoder reads

A typed value is decoded either straight from a document or from a value already read. From a
document a repeated field is an error, and nesting counts only where something is kept; from a
value neither can arise. The views below are the same for both, so one decoder serves both.
-/

namespace EdgeSetup.Json

/-- A document with the levels of nesting that may still be kept, or a value already read. -/
inductive Source where
  | document (room : Nat) (document : Document)
  | value (value : Value)
  deriving Inhabited

namespace Source

/-- The top of a document. -/
def ofDocument (d : Document) : Source := .document nestingLimit d

/-- Whether the source is null. -/
def isNull : Source → Bool
  | .document _ .null => true
  | .value .null => true
  | _ => false

/-- The boolean of the source. -/
def bool? : Source → Option Bool
  | .document _ (.bool b) => some b
  | .value (.bool b) => some b
  | _ => none

/-- The number of the source. -/
def number? : Source → Option Number
  | .document _ (.number n) => n
  | .value (.number n) => some n
  | _ => none

/-- The text of the source. -/
def text? : Source → Option String
  | .document _ (.text s) => s
  | .value (.string s) => some s
  | _ => none

/-- The source as a value, kept whole. -/
def value? : Source → Option Value
  | .document room d => d.value? room
  | .value v => some v

/-- The items of an array. -/
def items? : Source → Option (List Source)
  | .document (room + 1) (.array items) => some (items.map (.document room))
  | .value (.array items) => some (items.map .value)
  | _ => none

/-- A member of a document object; its key must be a text. -/
def member? (room : Nat) (member : Option String × Document) : Option (String × Source) :=
  member.1.map (·, .document room member.2)

/-- The members of an object, in their order. -/
def members? : Source → Option (List (String × Source))
  | .document (room + 1) (.object members) => members.mapM (member? room)
  | .value (.object members) => some (members.map (fun m => (m.1, .value m.2)))
  | _ => none

end Source

end EdgeSetup.Json
