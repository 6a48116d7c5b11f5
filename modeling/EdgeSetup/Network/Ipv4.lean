import EdgeSetup.Text.Split

/-!
# IPv4 addresses

The strict text form: four decimal numbers from 0 to 255 with dots between them, none of them
written with a leading zero.
-/

namespace EdgeSetup

/-- An IPv4 address. -/
structure Ipv4 where
  first : UInt8
  second : UInt8
  third : UInt8
  fourth : UInt8
  deriving DecidableEq, Repr, Inhabited

namespace Ipv4

/-- The decimal digits of an octet. -/
def octetText (octet : UInt8) : List Char := Nat.toDigits 10 octet.toNat

/-- The octet that a text writes in its shortest decimal form. -/
def octet? (text : List Char) : Option UInt8 :=
  if text.isEmpty || !text.all Char.isDigit || text.length > 3 then none
  else
    let value := Nat.ofDigitChars 10 text 0
    if value < 256 && (text.length = 1 || text.head? != some '0') then some (UInt8.ofNat value)
    else none

/-- The address that a text stands for. -/
def ofChars? (text : List Char) : Option Ipv4 :=
  match Text.splitOn '.' text with
  | [a, b, c, d] => do some ⟨← octet? a, ← octet? b, ← octet? c, ← octet? d⟩
  | _ => none

/-- The address that a string stands for. -/
def parse? (text : String) : Option Ipv4 := ofChars? text.toList

/-- The characters of an address. -/
def toChars (ip : Ipv4) : List Char :=
  octetText ip.first ++ '.' :: octetText ip.second ++ '.' :: octetText ip.third ++
    '.' :: octetText ip.fourth

/-- The text of an address. -/
def render (ip : Ipv4) : String := String.ofList ip.toChars

/-- Whether an address is one of the machine's own. -/
def isLoopback (ip : Ipv4) : Bool := ip.first = 127

/-- Whether an address stands for all of the machine. -/
def isUnspecified (ip : Ipv4) : Bool := ip = ⟨0, 0, 0, 0⟩

end Ipv4

end EdgeSetup
