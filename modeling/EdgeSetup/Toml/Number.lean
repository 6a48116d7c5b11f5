import EdgeSetup.Text.Digit
import EdgeSetup.Toml.Basic

/-!
# Numbers in TOML

Whole numbers of 64 bits, in decimal with a sign or in hexadecimal, octal or binary without one;
and binary64 numbers with a fraction or a power of ten, infinite or not a number at all.
-/

namespace EdgeSetup.Toml

open Json

/-- A leading sign, `true` for minus, and the text after it. -/
def splitSign : List Char → Bool × List Char := Binary64.splitSign

/-- The whole part of a decimal number: a zero alone, or digits that start with another. -/
def wholePart? : List Char → Option (List Char × List Char)
  | '0' :: rest => some (['0'], rest)
  | text => digitRun? Char.isDigit text

/-- A whole number as a value, if it fits 64 bits with a sign. -/
def whole? (value : Int) : Option Value :=
  if Word.isSigned value then some (.number (.int value)) else none

/-- The value of a digit of a base up to sixteen. -/
def digitOf? (base : Nat) (c : Char) : Option Nat :=
  (Text.hexValue? c).filter (fun value => value < base)

/-- A whole number in another base, after its mark. -/
def basedNumber? (base : Nat) (text : List Char) : Option (Value × List Char) := do
  let (digits, rest) ← digitRun? (fun c => (digitOf? base c).isSome) text
  let value := digits.foldl (fun n c => base * n + (digitOf? base c).getD 0) 0
  let number ← whole? value
  some (number, rest)

/-- A whole number in decimal. -/
def decimalNumber? (text : List Char) : Option (Value × List Char) := do
  let (negative, rest) := splitSign text
  let (digits, rest) ← wholePart? rest
  let magnitude : Int := Binary64.digitsValue digits
  let number ← whole? (if negative then -magnitude else magnitude)
  some (number, rest)

/-- A whole number. -/
def wholeNumber? (text : List Char) : Option (Value × List Char) :=
  match text with
  | '0' :: 'x' :: rest => basedNumber? 16 rest
  | '0' :: 'o' :: rest => basedNumber? 8 rest
  | '0' :: 'b' :: rest => basedNumber? 2 rest
  | _ => decimalNumber? text

/-- The fraction of a number: empty when there is no point. -/
def fractionPart? : List Char → Option (List Char × List Char)
  | '.' :: rest => digitRun? Char.isDigit rest
  | text => some ([], text)

/-- The power of ten of a number, `none` inside when none is written. -/
def powerPart? : List Char → Option (Option Int × List Char)
  | c :: rest =>
    if c = 'e' || c = 'E' then do
      let (negative, rest) := splitSign rest
      let (digits, rest) ← digitRun? Char.isDigit rest
      let magnitude : Int := Binary64.digitsValue digits
      some (some (if negative then -magnitude else magnitude), rest)
    else some (none, c :: rest)
  | [] => some (none, [])

/-- A binary64 number with a fraction or a power of ten. One too large is refused, unless it is
negative. -/
def fractionalNumber? (text : List Char) : Option (Value × List Char) := do
  let (negative, rest) := splitSign text
  let (whole, rest) ← wholePart? rest
  let (fraction, rest) ← fractionPart? rest
  let (power, rest) ← powerPart? rest
  if fraction.isEmpty && power.isNone then none
  else
    let significand := Binary64.digitsValue (whole ++ fraction)
    let x := Binary64.ofDecimal negative significand (power.getD 0 - fraction.length)
    if x = .infinite false then none else some (.number (.float x), rest)

/-- A number that is infinite or not a number at all. -/
def specialNumber? (text : List Char) : Option (Value × List Char) :=
  match splitSign text with
  | (negative, 'i' :: 'n' :: 'f' :: rest) => some (.number (.float (.infinite negative)), rest)
  | (_, 'n' :: 'a' :: 'n' :: rest) => some (.number (.float .nan), rest)
  | _ => none

/-- A number. -/
def number? (text : List Char) : Option (Value × List Char) :=
  (fractionalNumber? text).or ((specialNumber? text).or (wholeNumber? text))

end EdgeSetup.Toml
