import EdgeSetup.Text.Split

/-!
# Blank characters

The characters that count as white space in any script, and trimming them off both ends.
-/

namespace EdgeSetup.Text

/-- Whether a character is white space. -/
def isBlank (c : Char) : Bool :=
  let n := c.toNat
  (0x9 ≤ n && n ≤ 0xD) || n == 0x20 || n == 0x85 || n == 0xA0 || n == 0x1680 ||
    (0x2000 ≤ n && n ≤ 0x200A) || n == 0x2028 || n == 0x2029 || n == 0x202F || n == 0x205F ||
    n == 0x3000

/-- The text without blanks at its ends. -/
def trim (text : List Char) : List Char := trimWhile isBlank text

/-- The string without blanks at its ends. -/
def trimString (s : String) : String := String.ofList (trim s.toList)

end EdgeSetup.Text
