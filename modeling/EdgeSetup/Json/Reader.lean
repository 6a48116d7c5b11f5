import EdgeSetup.Binary64.Decimal
import EdgeSetup.Json.Document
import EdgeSetup.Text.Digit
import EdgeSetup.Word

/-!
# Reading JSON text

`Document.parse?` accepts one value with blanks around it. Every step consumes a character or
opens one recursive call, so twice the length of the text is fuel enough.
-/

namespace EdgeSetup.Json

namespace Reader

/-- The blanks allowed between tokens. -/
def isBlank (c : Char) : Bool :=
  c = ' ' || c = '\n' || c = '\t' || c = '\r'

/-- The text after leading blanks. -/
def skipBlanks (text : List Char) : List Char := text.dropWhile isBlank

/-! ## Numbers -/

/-- Appends digits to a significand while it fits a 64-bit word, and counts those appended and
those left over. -/
def appendDigits (significand : Nat) : List Char → Nat × Nat × Nat
  | [] => (significand, 0, 0)
  | c :: rest =>
    let next := 10 * significand + Binary64.digitValue c
    if next < UInt64.size then
      let (result, taken, left) := appendDigits next rest
      (result, taken + 1, left)
    else (significand, 0, rest.length + 1)

/-- A number with a point or a power of ten, or too long for a word. Digits past a 64-bit
significand are not read. -/
def decimalNumber? (negative : Bool) (whole fraction : List Char) (power : Int) :
    Option Number := do
  let (significand, _, beyond) := appendDigits 0 whole
  let (significand, places, _) := appendDigits significand fraction
  let x ← Binary64.scaled? negative significand (power + beyond - places)
  some (.float x)

/-- A number with neither point nor power of ten: whole when it fits a signed or unsigned 64-bit
word. Minus zero is the binary64 zero. -/
def wholeNumber? (negative : Bool) (digits : List Char) : Option Number :=
  let n := Binary64.digitsValue digits
  if !negative && n < UInt64.size then some (.int n)
  else if negative && n ≠ 0 && n ≤ Word.signedLimit then some (.int (-(n : Int)))
  else decimalNumber? negative digits [] 0

/-- The power of ten at the front of a text, which need not be there: its value, whether it was
written, and the text after it. `none` when an `e` has no digits. -/
def power? : List Char → Option (Int × Bool × List Char)
  | c :: rest =>
    if c = 'e' || c = 'E' then
      let (negative, rest) := Binary64.splitSign rest
      let digits := rest.takeWhile Char.isDigit
      if digits.isEmpty then none
      else
        let magnitude : Int := Binary64.digitsValue digits
        some (if negative then -magnitude else magnitude, true, rest.dropWhile Char.isDigit)
    else some (0, false, c :: rest)
  | [] => some (0, false, [])

/-- The fraction at the front of a text: its digits and the text after it. `none` when a point
has no digits. -/
def fraction? : List Char → Option (List Char × List Char)
  | '.' :: rest =>
    let digits := rest.takeWhile Char.isDigit
    if digits.isEmpty then none else some (digits, rest.dropWhile Char.isDigit)
  | rest => some ([], rest)

/-- A number at the front of a text. A zero stands alone before the point. -/
def number? (text : List Char) : Option (Document × List Char) := do
  let (negative, rest) :=
    match text with
    | '-' :: rest => (true, rest)
    | rest => (false, rest)
  let whole := rest.takeWhile Char.isDigit
  let afterWhole := rest.dropWhile Char.isDigit
  if whole.isEmpty || (whole.length > 1 && whole.head? = some '0') then none
  else
    let (fraction, afterFraction) ← fraction? afterWhole
    let (power, powerWritten, after) ← power? afterFraction
    let number :=
      if fraction.isEmpty && !powerWritten then wholeNumber? negative whole
      else decimalNumber? negative whole fraction power
    some (.number number, after)

/-! ## Strings -/

/-- The value of four hexadecimal digits. -/
def unit? (a b c d : Char) : Option Nat := do
  some ((((← Text.hexValue? a) * 16 + (← Text.hexValue? b)) * 16 + (← Text.hexValue? c)) * 16 + (← Text.hexValue? d))

/-- The character that a one-letter escape stands for. -/
def escaped? : Char → Option Char
  | '"' => some '"'
  | '\\' => some '\\'
  | '/' => some '/'
  | 'b' => some '\x08'
  | 'f' => some '\x0c'
  | 'n' => some '\n'
  | 'r' => some '\r'
  | 't' => some '\t'
  | _ => none

/-- Whether a 16-bit unit opens a surrogate pair. -/
def isHighSurrogate (unit : Nat) : Bool := 0xD800 ≤ unit && unit < 0xDC00

/-- Whether a 16-bit unit closes a surrogate pair. -/
def isLowSurrogate (unit : Nat) : Bool := 0xDC00 ≤ unit && unit < 0xE000

/-- The character of a surrogate pair. -/
def pairChar (high low : Nat) : Char :=
  Char.ofNat (0x10000 + (high - 0xD800) * 0x400 + (low - 0xDC00))

/-- The rest of a string after its opening quote. `pending` is a high surrogate whose partner
must follow, `chars` the characters so far in reverse, `valid` whether every escape so far stands
for one. -/
def stringBody? (pending : Option Nat) (chars : List Char) (valid : Bool) :
    List Char → Option (Option String × List Char)
  | '"' :: rest =>
    some (if valid && pending.isNone then some (String.ofList chars.reverse) else none, rest)
  | '\\' :: 'u' :: a :: b :: c :: d :: rest => do
    let unit ← unit? a b c d
    match pending with
    | some high =>
      if isLowSurrogate unit then stringBody? none (pairChar high unit :: chars) valid rest
      else stringBody? none chars false rest
    | none =>
      if isHighSurrogate unit then stringBody? (some unit) chars valid rest
      else if isLowSurrogate unit then stringBody? none chars false rest
      else stringBody? none (Char.ofNat unit :: chars) valid rest
  | '\\' :: c :: rest => do
    let char ← escaped? c
    stringBody? none (char :: chars) (valid && pending.isNone) rest
  | c :: rest =>
    if c.toNat < 0x20 || c = '\\' then none
    else stringBody? none (c :: chars) (valid && pending.isNone) rest
  | [] => none

/-! ## Values -/

mutual

/-- A value at the front of a text with no leading blanks. -/
def value? : Nat → List Char → Option (Document × List Char)
  | 0, _ => none
  | fuel + 1, text =>
    match text with
    | '"' :: rest => (stringBody? none [] true rest).map (fun (s, rest) => (.text s, rest))
    | '[' :: rest =>
      match skipBlanks rest with
      | ']' :: rest => some (.array [], rest)
      | rest => items? fuel [] rest
    | '{' :: rest =>
      match skipBlanks rest with
      | '}' :: rest => some (.object [], rest)
      | rest => members? fuel [] rest
    | 't' :: 'r' :: 'u' :: 'e' :: rest => some (.bool true, rest)
    | 'f' :: 'a' :: 'l' :: 's' :: 'e' :: rest => some (.bool false, rest)
    | 'n' :: 'u' :: 'l' :: 'l' :: rest => some (.null, rest)
    | text => number? text

/-- The items of an array from the next one on; `done` holds those before it in reverse. -/
def items? : Nat → List Document → List Char → Option (Document × List Char)
  | 0, _, _ => none
  | fuel + 1, done, text =>
    match value? fuel text with
    | none => none
    | some (item, rest) =>
      match skipBlanks rest with
      | ',' :: rest => items? fuel (item :: done) (skipBlanks rest)
      | ']' :: rest => some (.array (item :: done).reverse, rest)
      | _ => none

/-- The members of an object from the next one on; `done` holds those before it in reverse. -/
def members? : Nat → List (Option String × Document) → List Char →
    Option (Document × List Char)
  | 0, _, _ => none
  | fuel + 1, done, text =>
    match text with
    | '"' :: rest =>
      match stringBody? none [] true rest with
      | none => none
      | some (key, rest) =>
        match skipBlanks rest with
        | ':' :: rest =>
          match value? fuel (skipBlanks rest) with
          | none => none
          | some (item, rest) =>
            match skipBlanks rest with
            | ',' :: rest => members? fuel ((key, item) :: done) (skipBlanks rest)
            | '}' :: rest => some (.object ((key, item) :: done).reverse, rest)
            | _ => none
        | _ => none
    | _ => none

end

end Reader

/-- The document that a text writes, with nothing but blanks around it. -/
def Document.parse? (text : String) : Option Document :=
  let chars := Reader.skipBlanks text.toList
  match Reader.value? (2 * chars.length + 2) chars with
  | some (document, rest) => if (Reader.skipBlanks rest).isEmpty then some document else none
  | none => none

/-- The value that a text writes. -/
def Value.parse? (text : String) : Option Value :=
  (Document.parse? text).bind (Document.value? nestingLimit)

end EdgeSetup.Json
