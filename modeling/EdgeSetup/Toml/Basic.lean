import EdgeSetup.Json.Reader

/-!
# Reading small pieces of TOML

A scanner reads something at the front of a text and gives the rest of the text. This module holds
the scanners for blanks, line ends, comments and digits.
-/

namespace EdgeSetup.Toml

/-- Whether a character is a blank inside a line. -/
def isBlank (c : Char) : Bool := c = ' ' || c = '\t'

/-- The text after the blanks at its front. -/
def skipBlanks (text : List Char) : List Char := text.dropWhile isBlank

/-- Whether a character may stand in a comment or a string: the tab is the only control character
of ASCII that may. -/
def isPrintable (c : Char) : Bool := c = '\t' || (0x20 ≤ c.toNat && c.toNat ≠ 0x7F)

/-- The text after a line end at its front. -/
def lineEnd? : List Char → Option (List Char)
  | '\n' :: rest => some rest
  | '\r' :: '\n' :: rest => some rest
  | _ => none

/-- The text after the comment at its front, if there is one. -/
def skipComment : List Char → List Char
  | '#' :: rest => rest.dropWhile isPrintable
  | text => text

/-- The text after the rest of a line: blanks, perhaps a comment, and the end of the line or of the
text. -/
def restOfLine? (text : List Char) : Option (List Char) :=
  match skipComment (skipBlanks text) with
  | [] => some []
  | after => lineEnd? after

/-- The text after blanks, line ends and comments; a comment reaches to the end of its line. -/
def skipLinesFuel : Nat → List Char → List Char
  | 0, text => text
  | fuel + 1, text =>
    match skipBlanks text with
    | '#' :: rest =>
      match lineEnd? (rest.dropWhile isPrintable) with
      | some after => skipLinesFuel fuel after
      | none => '#' :: rest
    | after =>
      match lineEnd? after with
      | some next => skipLinesFuel fuel next
      | none => after

/-- The text after blanks, line ends and comments; each turn passes a line end. -/
def skipLines (text : List Char) : List Char := skipLinesFuel (text.length + 1) text

/-! ## Digits -/

/-- A run of digits of a kind in which an underscore may stand between two digits. -/
def digitRun? (isDigit : Char → Bool) (text : List Char) : Option (List Char × List Char) :=
  match text with
  | [] => none
  | c :: rest => if isDigit c then more [c] rest else none
where
  /-- Goes on after a digit; `done` holds the digits so far in reverse. -/
  more (done : List Char) : List Char → Option (List Char × List Char)
    | [] => some (done.reverse, [])
    | '_' :: c :: rest => if isDigit c then more (c :: done) rest else none
    | '_' :: [] => none
    | c :: rest => if isDigit c then more (c :: done) rest else some (done.reverse, c :: rest)

/-- Exactly so many decimal digits, as a number. -/
def fixedDigits? (count : Nat) (text : List Char) : Option (Nat × List Char) :=
  let digits := text.take count
  if digits.length = count && digits.all Char.isDigit then
    some (Binary64.digitsValue digits, text.drop count)
  else none

/-- Exactly so many decimal digits for a number within bounds. -/
def boundedDigits? (count low high : Nat) (text : List Char) : Option (Nat × List Char) := do
  let (number, rest) ← fixedDigits? count text
  if low ≤ number && number ≤ high then some (number, rest) else none

/-- A known character at the front of a text. -/
def char? (c : Char) : List Char → Option (List Char)
  | d :: rest => if c = d then some rest else none
  | [] => none

end EdgeSetup.Toml
