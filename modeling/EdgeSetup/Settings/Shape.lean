import EdgeSetup.Binary64.Decimal
import EdgeSetup.Binary64.Shortest
import EdgeSetup.Settings.Layer

/-!
# Fitting loose values

The value of a setting may be given loosely: a number as a text, a text as a number, a switch as
`yes` or `0`. A shape says what a setting holds, and fitting a loose value to it gives the value
that the setting would have if it had been given strictly.
-/

namespace EdgeSetup

open Json

/-- What a setting holds. -/
inductive SettingShape where
  | text
  | switch
  /-- A whole number of so many bits. -/
  | whole (bits : Nat)
  | real
  /-- One of some names. -/
  | choice (names : List String)
  /-- A setting that may be left empty. -/
  | optional (shape : SettingShape)
  | record (fields : List (String × SettingShape))

namespace SettingShape

/-- What a word stands for as a switch. -/
def switchWord? (word : String) : Option Bool :=
  match SettingsLayer.lowerKey word with
  | "true" | "on" | "yes" => some true
  | "false" | "off" | "no" => some false
  | _ => none

/-- The number of a switch. -/
def switchNumber (on : Bool) : Nat := if on then 1 else 0

/-- The text of a loose value. -/
def fitText? : Value → Option String
  | .string s => some s
  | .bool b => some (if b then "true" else "false")
  | .number (.int i) => some (toString i)
  | .number (.float x) => some x.toPositional
  | _ => none

/-- The switch of a loose value. -/
def fitSwitch? : Value → Option Bool
  | .bool b => some b
  | .number (.int i) => some (i ≠ 0)
  | .number (.float x) => some !x.isZero
  | .string "1" => some true
  | .string "0" => some false
  | .string s => switchWord? s
  | _ => none

/-- A whole number in decimal, perhaps after a plus sign. -/
def wholeOfText? (s : String) : Option Nat :=
  let digits :=
    match s.toList with
    | '+' :: digits => digits
    | digits => digits
  if digits.isEmpty || !digits.all Char.isDigit then none
  else
    let value := Nat.ofDigitChars 10 digits 0
    if value < UInt64.size then some value else none

/-- A number rounded to the nearest whole number, halves away from zero, and kept in range. -/
def wholeOfReal : Binary64 → Nat
  | .nan => 0
  | .infinite negative => if negative then 0 else UInt64.size - 1
  | .finite negative units =>
    if negative then 0
    else
      let rounded := (2 * units + Binary64.unitsPerOne) / (2 * Binary64.unitsPerOne)
      min rounded (UInt64.size - 1)

/-- The whole number of a loose value. -/
def fitWhole? : Value → Option Nat
  | .bool b => some (switchNumber b)
  | .number (.int (.ofNat n)) => some n
  | .number (.float x) => some (wholeOfReal x)
  | .string s => ((switchWord? s).map switchNumber).or (wholeOfText? s)
  | _ => none

/-- The binary64 number of a loose value. -/
def fitReal? : Value → Option Binary64
  | .bool b => some (.ofNat (switchNumber b))
  | .number n => some n.toBinary64
  | .string s => ((switchWord? s).map (fun b => .ofNat (switchNumber b))).or (Binary64.parse? s)
  | _ => none

/-- The name among some that a text is, whatever the case. -/
def choiceOf? (names : List String) (s : String) : Option String :=
  names.find? (fun name => SettingsLayer.lowerKey name == SettingsLayer.lowerKey s)

/-- The choice of a loose value: a name, or the key of a table with one member. -/
def fitChoice? (names : List String) : Value → Option String
  | .string s => choiceOf? names s
  | .object [(key, _)] => choiceOf? names key
  | _ => none

mutual

/-- The strict value that a loose one stands for. -/
def fit? : SettingShape → Value → Option Value
  | text, value => (fitText? value).map .string
  | switch, value => (fitSwitch? value).map .bool
  | whole bits, value => (fitWhole? value).map (fun n => .ofNat (n % Nat.pow 2 bits))
  | real, value => (fitReal? value).map (fun x => .number (.float x))
  | choice names, value => (fitChoice? names value).map .string
  | optional _, .null => some .null
  | optional shape, value => shape.fit? value
  | record fields, .object members => (fitMembers? fields members).map .object
  | record fields, .array items => (fitItems? fields items).map .array
  | record _, _ => none

/-- The fields of a record that are given by name; unknown members are passed over. -/
def fitMembers? : List (String × SettingShape) → List (String × Value) →
    Option (List (String × Value))
  | [], _ => some []
  | (name, shape) :: fields, members =>
    match Members.get? members name with
    | none => fitMembers? fields members
    | some value =>
      match shape.fit? value, fitMembers? fields members with
      | some value, some rest => some ((name, value) :: rest)
      | _, _ => none

/-- The fields of a record that are given by position; items past the last one are passed over. -/
def fitItems? : List (String × SettingShape) → List Value → Option (List Value)
  | (_, shape) :: fields, value :: items =>
    match shape.fit? value, fitItems? fields items with
    | some value, some rest => some (value :: rest)
    | _, _ => none
  | _, _ => some []

end

end SettingShape

end EdgeSetup
