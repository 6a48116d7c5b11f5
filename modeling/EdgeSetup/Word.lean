/-!
# Words with a sign

The range of whole numbers of 64 bits, one of them for the sign.
-/

namespace EdgeSetup.Word

/-- The first number past the words with a sign. -/
def signedLimit : Nat := 0x8000000000000000

/-- Whether a number is a word with a sign. -/
def isSigned (i : Int) : Bool := -(signedLimit : Int) ≤ i && i < (signedLimit : Int)

end EdgeSetup.Word
