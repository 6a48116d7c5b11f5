import EdgeSetup.Binary64.Basic

/-!
# Shortest decimals

The text of a number has the fewest digits that read back to it, and of those the nearest. The
numbers that read back to a value form an interval around it; for each digit count only the two
grid points next to the value can lie inside, so the first count with a hit is the answer.
-/

namespace EdgeSetup.Binary64

/-- A positive decimal `digits · 10^exponent`. -/
structure ShortDecimal where
  digits : Nat
  exponent : Int
  deriving DecidableEq, Repr

/-- The step, in units, between a magnitude and the next larger one. -/
def stepAbove (units : Nat) : Nat := Nat.pow 2 (Nat.log2 units - 52)

/-- The step, in units, between a magnitude and the next smaller one: half as wide at a power of
two, except where the steps are already one unit. -/
def stepBelow (units : Nat) : Nat :=
  let above := stepAbove units
  if units = Nat.pow 2 (Nat.log2 units) && 1 < above then above / 2 else above

/-- Whether the decimal `numerator / denominator` units rounds to `units`: it lies within half a
step on its side, and on the border only when the significand is even. -/
def readsBack (units numerator denominator : Nat) : Bool :=
  let value := units * denominator
  let even := (units / stepAbove units) % 2 == 0
  if numerator < value then
    let gap := 2 * (value - numerator)
    let room := stepBelow units * denominator
    gap < room || (gap == room && even)
  else
    let gap := 2 * (numerator - value)
    let room := stepAbove units * denominator
    gap < room || (gap == room && even)

/-- The number of decimal digits of a natural number; zero has none. -/
def digitCount (n : Nat) : Nat :=
  if n = 0 then 0 else (Nat.toDigits 10 n).length

/-- The place of the first digit: the value lies in `[10^(k-1), 10^k)`. -/
def leadingPlace (units : Nat) : Int :=
  let whole := units / unitsPerOne
  if whole ≠ 0 then digitCount whole
  else
    -- The value is below one: shift it up by `10^330`, past the smallest number.
    (digitCount (units * Nat.pow 10 330 / unitsPerOne) : Int) - 330

/-- The decimal with `count` digits next to the value that reads back, the nearer one of two; an
exact tie goes to the even digit. -/
def withDigits? (units : Nat) (place : Int) (count : Nat) : Option ShortDecimal :=
  let exponent := place - count
  -- One grid step is `stepNum / stepDen` units.
  let (stepNum, stepDen) : Nat × Nat :=
    match exponent with
    | .ofNat k => (Nat.pow 10 k * unitsPerOne, 1)
    | .negSucc k => (unitsPerOne, Nat.pow 10 (k + 1))
  let low := units * stepDen / stepNum
  let high := low + 1
  let lowFits := low ≠ 0 && readsBack units (low * stepNum) stepDen
  let highFits := readsBack units (high * stepNum) stepDen
  let lowGap := units * stepDen - low * stepNum
  let highGap := high * stepNum - units * stepDen
  if lowFits && highFits then
    some ⟨if lowGap < highGap || (lowGap = highGap && low % 2 = 0) then low else high, exponent⟩
  else if lowFits then some ⟨low, exponent⟩
  else if highFits then some ⟨high, exponent⟩
  else none

/-- Removes trailing zeros of the digits, at most as many as there is fuel. -/
def ShortDecimal.strip : Nat → ShortDecimal → ShortDecimal
  | 0, d => d
  | fuel + 1, d =>
    if d.digits ≠ 0 && d.digits % 10 = 0 then strip fuel ⟨d.digits / 10, d.exponent + 1⟩ else d

/-- The shortest decimal of a positive magnitude. Seventeen digits always read back. -/
def shortest (units : Nat) : ShortDecimal :=
  let place := leadingPlace units
  let found := (List.range 18).findSome? (fun n => withDigits? units place (n + 1))
  (found.getD ⟨units / unitsPerOne, 0⟩).strip 400

/-! ## Texts -/

/-- The decimal digits of a natural number. -/
def digitChars (n : Nat) : List Char := Nat.toDigits 10 n

/-- Digits with the point placed so that `point` digits stand before it, filled up with zeros. -/
def placePoint (digits : List Char) (point : Int) : List Char × List Char :=
  match point with
  | .ofNat k =>
    (if digits.length < k then digits ++ List.replicate (k - digits.length) '0' else digits.take k,
      digits.drop k)
  | .negSucc k => ([], List.replicate (k + 1) '0' ++ digits)

/-- The magnitude written out in full, with no power of ten. -/
def positionalMagnitude (units : Nat) : String :=
  if units = 0 then "0"
  else
    let d := shortest units
    let digits := digitChars d.digits
    let (whole, fraction) := placePoint digits (digits.length + d.exponent)
    let wholeText := String.ofList (if whole.isEmpty then ['0'] else whole)
    if fraction.isEmpty then wholeText else wholeText ++ "." ++ String.ofList fraction

/-- The number written out in full: no power of ten, no `.0` for a whole number. -/
def toPositional : Binary64 → String
  | nan => "NaN"
  | infinite s => if s then "-inf" else "inf"
  | finite s units => (if s then "-" else "") ++ positionalMagnitude units

/-- The magnitude with a power of ten from `10^16` on and below `10^-5`, and `.0` after a whole
number. -/
def scientificMagnitude (units : Nat) : String :=
  if units = 0 then "0.0"
  else
    let d := shortest units
    let digits := digitChars d.digits
    let point : Int := digits.length + d.exponent
    if 0 ≤ d.exponent && point ≤ 16 then
      String.ofList (placePoint digits point).1 ++ ".0"
    else if 0 < point && point ≤ 16 then
      let (whole, fraction) := placePoint digits point
      String.ofList whole ++ "." ++ String.ofList fraction
    else if -5 < point && point ≤ 0 then
      "0." ++ String.ofList (placePoint digits point).2
    else
      let mantissa := String.ofList (digits.take 1)
      let rest := digits.drop 1
      let tail := if rest.isEmpty then "" else "." ++ String.ofList rest
      mantissa ++ tail ++ "e" ++ toString (point - 1)

/-- The JSON text of a finite number; anything else has none. -/
def toJsonText? : Binary64 → Option String
  | finite s units => some ((if s then "-" else "") ++ scientificMagnitude units)
  | _ => none

end EdgeSetup.Binary64
