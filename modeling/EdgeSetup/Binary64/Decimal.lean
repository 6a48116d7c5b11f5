import EdgeSetup.Binary64.Basic

/-!
# Reading decimals

`ofDecimal` is the number nearest to a decimal. `parse?` reads the free text form: an optional
sign, then `inf`, `infinity` or `nan` in any case, or digits with at most one point and an
optional power of ten. `scaled?` is the quick reading used for JSON numbers: the significand and
the power of ten are rounded first and multiplied or divided once, so its last bit may differ
from the nearest number.
-/

namespace EdgeSetup.Binary64

/-- The number nearest to `significand · 10^exponent`. The two guards only skip the arithmetic:
`10^k ≥ 2^(3k)` puts the value past the largest number or under half the smallest one. -/
def ofDecimal (negative : Bool) (significand : Nat) : Int → Binary64
  | .ofNat k =>
    if significand = 0 then finite negative 0
    else if 1024 ≤ significand.log2 + 3 * k then infinite negative
    else ofRatio negative (significand * Nat.pow 10 k) 1
  | .negSucc k =>
    if significand.log2 + 1076 ≤ 3 * (k + 1) then finite negative 0
    else ofRatio negative significand (Nat.pow 10 (k + 1))

/-! ## Digits -/

/-- The value of an ASCII digit. -/
def digitValue (c : Char) : Nat := c.toNat - '0'.toNat

/-- The number written by a run of digits. -/
def digitsValue (digits : List Char) : Nat :=
  digits.foldl (fun n c => 10 * n + digitValue c) 0

/-- A leading sign, `true` for minus, and the text after it. -/
def splitSign : List Char → Bool × List Char
  | '-' :: rest => (true, rest)
  | '+' :: rest => (false, rest)
  | rest => (false, rest)

/-- The power of ten after a number's digits: nothing, or `e` with a signed run of digits that
reaches the end of the text. -/
def exponent? : List Char → Option Int
  | [] => some 0
  | c :: rest =>
    if c = 'e' || c = 'E' then
      let (negative, digits) := splitSign rest
      if digits.isEmpty || !digits.all Char.isDigit then none
      else
        let magnitude : Int := digitsValue digits
        some (if negative then -magnitude else magnitude)
    else none

/-- Digits with at most one point, at least one digit, and an optional power of ten. -/
def unsignedNumber? (negative : Bool) (text : List Char) : Option Binary64 :=
  let whole := text.takeWhile Char.isDigit
  let afterWhole := text.dropWhile Char.isDigit
  let (fraction, afterFraction) :=
    match afterWhole with
    | '.' :: rest => (rest.takeWhile Char.isDigit, rest.dropWhile Char.isDigit)
    | rest => ([], rest)
  if whole.isEmpty && fraction.isEmpty then none
  else do
    let power ← exponent? afterFraction
    some (ofDecimal negative (digitsValue (whole ++ fraction)) (power - fraction.length))

/-- The number that a text stands for, or `none` when it is no number. -/
def parse? (text : String) : Option Binary64 :=
  let (negative, rest) := splitSign text.toList
  match String.ofList (rest.map Char.toLower) with
  | "inf" | "infinity" => some (infinite negative)
  | "nan" => some nan
  | _ => unsignedNumber? negative rest

/-! ## Scaled reading -/

/-- The nearest number to `10^k`, for the powers that have one. -/
def powerOfTen (k : Nat) : Binary64 := ofDecimal false 1 k

/-- Divides by powers of ten of at most `10^308` until `10^k` is used up. -/
def scaleDown (x : Binary64) (k : Nat) : Binary64 :=
  if k ≤ 308 then x / powerOfTen k
  else if x.isZero then x
  else scaleDown (x / powerOfTen 308) (k - 308)
termination_by k

/-- `significand · 10^exponent` by rounding the significand, then scaling; `none` when the
result is too large to be a number. -/
def scaled? (negative : Bool) (significand : Nat) : Int → Option Binary64
  | .ofNat k =>
    let x := ofNat significand
    if k ≤ 308 then
      let y := x * powerOfTen k
      if y.isFinite then some (if negative then -y else y) else none
    else if x.isZero then some (if negative then -x else x)
    else none
  | .negSucc k =>
    let y := scaleDown (ofNat significand) (k + 1)
    some (if negative then -y else y)

end EdgeSetup.Binary64
