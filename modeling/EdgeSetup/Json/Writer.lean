import EdgeSetup.Binary64.Shortest
import EdgeSetup.Json.Value

/-!
# Writing JSON text

The compact text of a value: no blanks, members in their order, and only those characters escaped
that must be.
-/

namespace EdgeSetup.Json

namespace Writer

/-- A hexadecimal digit in lower case. -/
def hexDigit (n : Nat) : Char :=
  if n < 10 then Char.ofNat ('0'.toNat + n) else Char.ofNat ('a'.toNat + n - 10)

/-- A character inside a string: quotes, backslashes and control characters are escaped. -/
def escape (c : Char) : List Char :=
  match c with
  | '"' => ['\\', '"']
  | '\\' => ['\\', '\\']
  | '\x08' => ['\\', 'b']
  | '\x0c' => ['\\', 'f']
  | '\n' => ['\\', 'n']
  | '\r' => ['\\', 'r']
  | '\t' => ['\\', 't']
  | c =>
    if c.toNat < 0x20 then
      ['\\', 'u', '0', '0', hexDigit (c.toNat / 16), hexDigit (c.toNat % 16)]
    else [c]

/-- A string with its quotes. -/
def quote (s : String) : String :=
  "\"" ++ String.ofList (s.toList.flatMap escape) ++ "\""

/-- A number; one that is infinite or not a number at all is written as null. -/
def number : Number → String
  | .int i => toString i
  | .float x => x.toJsonText?.getD "null"

end Writer

namespace Value

mutual

/-- The compact text of a value. -/
def render : Value → String
  | null => "null"
  | bool b => if b then "true" else "false"
  | number n => Writer.number n
  | string s => Writer.quote s
  | array items => "[" ++ String.intercalate "," (renderItems items) ++ "]"
  | object members => "\x7b" ++ String.intercalate "," (renderMembers members) ++ "\x7d"

/-- The texts of the items of an array. -/
def renderItems : List Value → List String
  | [] => []
  | item :: rest => render item :: renderItems rest

/-- The texts of the members of an object. -/
def renderMembers : List (String × Value) → List String
  | [] => []
  | (key, value) :: rest => (Writer.quote key ++ ":" ++ render value) :: renderMembers rest

end

end Value

end EdgeSetup.Json
