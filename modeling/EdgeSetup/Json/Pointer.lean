import EdgeSetup.Json.Value
import EdgeSetup.Text.Split

/-!
# Places in a document

A place is a list of reference tokens. `Pointer.parse?` reads its text form, in which `/` starts
each token, `~1` stands for `/` and `~0` for `~`.
-/

namespace EdgeSetup.Json

namespace Pointer

/-- A token with its escapes resolved. -/
def unescape : List Char → List Char
  | '~' :: '1' :: rest => '/' :: unescape rest
  | '~' :: '0' :: rest => '~' :: unescape rest
  | c :: rest => c :: unescape rest
  | [] => []

/-- The tokens of a pointer; the empty text is the whole document. -/
def parse? (text : String) : Option (List String) :=
  match text.toList with
  | [] => some []
  | '/' :: rest =>
    some ((Text.splitOn '/' rest).map (fun token => String.ofList (unescape token)))
  | _ => none

/-- The array index of a token: digits without a leading zero. -/
def index? (token : String) : Option Nat :=
  let digits := token.toList
  if digits.isEmpty || !digits.all Char.isDigit || (digits.length > 1 && digits.head? = some '0')
  then none
  else some (digits.foldl (fun n c => 10 * n + (c.toNat - '0'.toNat)) 0)

end Pointer

namespace Value

/-- The child that a token names: a member of an object or an item of an array. -/
def child? (value : Value) (token : String) : Option Value :=
  match value with
  | object members => Members.get? members token
  | array items => (Pointer.index? token).bind (items[·]?)
  | _ => none

/-- The value at a place. -/
def at? : Value → List String → Option Value
  | value, [] => some value
  | value, token :: rest => (value.child? token).bind (at? · rest)

/-- The value with the child of a token changed; `none` when there is no such child, or when the
change fails. -/
def updateChild? (value : Value) (token : String) (change : Value → Option Value) :
    Option Value :=
  match value with
  | object members => do
    let old ← Members.get? members token
    let new ← change old
    some (object (Members.insert token new members))
  | array items => do
    let i ← Pointer.index? token
    let old ← items[i]?
    let new ← change old
    some (array (items.set i new))
  | _ => none

/-- The value with the part at a place changed. -/
def updateAt? (change : Value → Option Value) : List String → Value → Option Value
  | [], value => change value
  | token :: rest, value => value.updateChild? token (updateAt? change rest)

end Value

end EdgeSetup.Json
