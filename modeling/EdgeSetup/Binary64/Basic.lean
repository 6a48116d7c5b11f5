/-!
# Binary64 numbers

A finite number is a sign and a whole count of `2^-1074`, the smallest step of the format. In these
units every finite number is a natural number, so comparison, products and quotients are exact
natural-number arithmetic followed by one rounding to 53 significant bits.
-/

namespace EdgeSetup

/-- A number of the 64-bit binary format. All kinds of "not a number" are one value. -/
inductive Binary64 where
  /-- Not a number. -/
  | nan
  /-- Beyond every finite magnitude. -/
  | infinite (negative : Bool)
  /-- The magnitude `units · 2^-1074`; zero has two signs. -/
  | finite (negative : Bool) (units : Nat)
  deriving DecidableEq, Repr, Inhabited

namespace Binary64

/-- The number of units in one. -/
def unitsPerOne : Nat := Nat.pow 2 1074

/-- The first magnitude, in units, with no finite number: `2^1024`. -/
def overflowUnits : Nat := Nat.pow 2 2098

/-- The whole number nearest to `n / d`; a half goes to the even neighbour. -/
def roundHalfEven (n d : Nat) : Nat :=
  let quotient := n / d
  let twice := 2 * (n % d)
  if twice < d then quotient
  else if d < twice then quotient + 1
  else quotient + quotient % 2

/-- The magnitude `n / d`, in units, to the nearest one with 53 significant bits. Below `2^53`
units the step is one unit, which is how subnormal numbers round. -/
def roundUnits (n d : Nat) : Nat :=
  let step := Nat.pow 2 (Nat.log2 (n / d) - 52)
  roundHalfEven n (d * step) * step

/-- The number nearest to `n / d` units; infinite once the rounded magnitude reaches `2^1024`. -/
def ofUnitRatio (negative : Bool) (n d : Nat) : Binary64 :=
  let units := roundUnits n d
  if units < overflowUnits then finite negative units else infinite negative

/-- The number nearest to the quotient `n / d`. -/
def ofRatio (negative : Bool) (n d : Nat) : Binary64 :=
  ofUnitRatio negative (n * unitsPerOne) d

/-- The number nearest to a natural number. -/
def ofNat (n : Nat) : Binary64 := ofRatio false n 1

/-- The number nearest to a whole number. -/
def ofInt (i : Int) : Binary64 := ofRatio (decide (i < 0)) i.natAbs 1

instance (n : Nat) : OfNat Binary64 n := ⟨ofNat n⟩

/-! ## Classification and comparison -/

/-- The sign bit; a number that is not one counts as positive. -/
def isNegative : Binary64 → Bool
  | nan => false
  | infinite s | finite s _ => s

/-- Neither infinite nor "not a number". -/
def isFinite : Binary64 → Bool
  | finite _ _ => true
  | _ => false

/-- Either of the two zeros. -/
def isZero : Binary64 → Bool
  | finite _ units => units == 0
  | _ => false

/-- A finite number with no fractional part. -/
def isIntegral : Binary64 → Bool
  | finite _ units => units % unitsPerOne == 0
  | _ => false

/-- The signed count of units of a finite number. -/
def signedUnits (negative : Bool) (units : Nat) : Int :=
  if negative then -(units : Int) else units

/-- The order of the numbers; nothing is below or above "not a number", and the zeros are equal. -/
def lt : Binary64 → Binary64 → Bool
  | nan, _ | _, nan => false
  | infinite s, infinite t => s && !t
  | infinite s, finite _ _ => s
  | finite _ _, infinite t => !t
  | finite s a, finite t b => decide (signedUnits s a < signedUnits t b)

/-- At most; false as soon as one side is not a number. -/
def le : Binary64 → Binary64 → Bool
  | nan, _ | _, nan => false
  | x, y => !lt y x

/-! ## Arithmetic -/

/-- The number with its sign turned. -/
def neg : Binary64 → Binary64
  | nan => nan
  | infinite s => infinite (!s)
  | finite s units => finite (!s) units

instance : Neg Binary64 := ⟨neg⟩

/-- The product, rounded once. -/
def mul : Binary64 → Binary64 → Binary64
  | nan, _ | _, nan => nan
  | infinite s, infinite t => infinite (s != t)
  | infinite s, finite t b => if b = 0 then nan else infinite (s != t)
  | finite s a, infinite t => if a = 0 then nan else infinite (s != t)
  | finite s a, finite t b => ofUnitRatio (s != t) (a * b) unitsPerOne

instance : Mul Binary64 := ⟨mul⟩

/-- The quotient, rounded once. -/
def div : Binary64 → Binary64 → Binary64
  | nan, _ | _, nan => nan
  | infinite _, infinite _ => nan
  | infinite s, finite t _ => infinite (s != t)
  | finite s _, infinite t => finite (s != t) 0
  | finite s a, finite t b =>
    if b = 0 then (if a = 0 then nan else infinite (s != t))
    else ofRatio (s != t) a b

instance : Div Binary64 := ⟨div⟩

/-- The number itself unless it is below zero, in which case zero. -/
def nonNegative (x : Binary64) : Binary64 :=
  if lt x 0 then 0 else x

/-! ## Whole numbers -/

/-- The magnitude of a finite number in whole ones, a half going away from zero. -/
def roundedMagnitude (units : Nat) : Nat :=
  (2 * units + unitsPerOne) / (2 * unitsPerOne)

/-- The nearest whole number, a half going away from zero, held between two bounds;
"not a number" is zero. -/
def toIntClamped (lowest highest : Int) : Binary64 → Int
  | nan => 0
  | infinite s => if s then lowest else highest
  | finite s units => max lowest (min highest (signedUnits s (roundedMagnitude units)))

end Binary64

end EdgeSetup
