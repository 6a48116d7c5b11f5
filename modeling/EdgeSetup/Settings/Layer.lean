import EdgeSetup.Json.Value
import EdgeSetup.Text.Split
import EdgeSetup.Word

/-!
# Layers of settings

Settings come in layers, a file and then the environment, and each layer sets values at places in
one tree. A table is merged into the table that is there already, member by member, and any other
value takes the place of what was there. The case of keys does not count.
-/

namespace EdgeSetup

open Json

namespace SettingsLayer

/-! ## Keys -/

/-- A letter in lower case. Beyond ASCII only the sign of the kelvin is the capital of a letter
that names of settings are written with. -/
def lowerLetter (c : Char) : Char := if c = '\u212a' then 'k' else c.toLower

/-- A key in lower case. -/
def lowerKey (key : String) : String := String.ofList (key.toList.map lowerLetter)

/-! ## Merging -/

/-- The members of a table; anything else is taken for an empty one. -/
def membersOf : Value → List (String × Value)
  | .object members => members
  | _ => []

mutual

/-- What is at a place after a value was set there. -/
def mergeAt (existing : Option Value) : Value → Value
  | .object incoming => mergeMembers (existing.getD (.object [])) incoming
  | incoming => incoming

/-- A table after members were set in it one by one. -/
def mergeMembers (target : Value) : List (String × Value) → Value
  | [] => target
  | (key, incoming) :: rest =>
    let members := membersOf target
    let merged := mergeAt (Members.get? members (lowerKey key)) incoming
    mergeMembers (.object (Members.insert (lowerKey key) merged members)) rest

end

/-- Sets a member of a table; anything else is first made one. -/
def setMember (key : String) (incoming : Value) (target : Value) : Value :=
  mergeMembers target [(key, incoming)]

/-! ## Places -/

/-- A step into a tree. -/
inductive Step where
  | member (key : String)
  /-- A place in a list, from its end when negative. -/
  | index (i : Int)
  deriving DecidableEq, Repr

/-- The place of an index in a list of a length; one before the start has none. -/
def place? (length : Nat) : Int → Option Nat
  | .ofNat i => some i
  | .negSucc i => if i < length then some (length - (i + 1)) else none

/-- The items of a list; anything else is taken for an empty one. -/
def itemsOf : Value → List Value
  | .array items => items
  | _ => []

/-- Sets a value at a place below a value. What is missing on the way is made, and what is in the
way is replaced. -/
def setAt? (incoming : Value) : List Step → Value → Option Value
  | [], _ => some incoming
  | [.member key], target => some (setMember key incoming target)
  | .member key :: rest, target => do
    let members := membersOf target
    let child ← setAt? incoming rest ((Members.get? members (lowerKey key)).getD .null)
    some (.object (Members.insert (lowerKey key) child members))
  | .index i :: rest, target => do
    let items := itemsOf target
    let place ← place? items.length i
    let filled := items ++ List.replicate (place + 1 - items.length) .null
    let child ← setAt? incoming rest (filled.getD place .null)
    some (.array (filled.set place child))

/-! ## Names of places -/

/-- Whether a character may stand in the name of a member. -/
def isNameChar (c : Char) : Bool := c.isAlphanum || c = ' ' || c = '_' || c = '-'

/-- Whether a character is a blank around an index. -/
def isIndexBlank (c : Char) : Bool := c = ' ' || c = '\t' || c = '\r' || c = '\n'

/-- An index between brackets. -/
def index? (text : List Char) : Option Int := do
  let (negative, digits) :=
    match Text.trimWhile isIndexBlank text with
    | '-' :: digits => (true, digits)
    | digits => (false, digits)
  if digits.isEmpty || !digits.all Char.isDigit then none
  else
    let magnitude : Int := Nat.ofDigitChars 10 digits 0
    let i := if negative then -magnitude else magnitude
    if Word.isSigned i then some i else none

/-- The steps after the first name: names after dots and indices in brackets. -/
def stepsFuel? : Nat → List Char → Option (List Step)
  | _, [] => some []
  | 0, _ => none
  | fuel + 1, '.' :: rest => do
    let name := rest.takeWhile isNameChar
    if name.isEmpty then none
    else
      let steps ← stepsFuel? fuel (rest.dropWhile isNameChar)
      some (.member (String.ofList name) :: steps)
  | fuel + 1, '[' :: rest => do
    let (inside, rest) ← Text.cutAt? ']' rest
    let i ← index? inside
    let steps ← stepsFuel? fuel rest
    some (.index i :: steps)
  | _ + 1, _ => none

/-- The steps that a text writes. -/
def steps? (text : List Char) : Option (List Step) :=
  let name := text.takeWhile isNameChar
  if name.isEmpty then none
  else (stepsFuel? text.length (text.dropWhile isNameChar)).map
    (.member (String.ofList name) :: ·)

/-- The place that a text names; a text that names none is itself the name of a member. -/
def placeOf (text : String) : List Step := (steps? text.toList).getD [.member text]

/-- A tree after a layer: its values are set at the places that their keys name. -/
def layOver? (layer : List (String × Value)) (tree : Value) : Option Value :=
  layer.foldlM (fun tree (key, incoming) => setAt? incoming (placeOf key) tree) tree

end SettingsLayer

end EdgeSetup
