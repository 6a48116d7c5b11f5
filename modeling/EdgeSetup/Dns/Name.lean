import EdgeSetup.Text.Pattern
import EdgeSetup.Text.Split

/-!
# Domain names

`isValidName` is the check of a domain suffix entered by an operator: a length limit and a pattern.
`IsName` is the grammar that the pattern stands for, said label by label: at least two labels, the
last one letters only, the one before it without underscores.
-/

namespace EdgeSetup.Dns

/-- The longest name, in bytes. -/
def maxNameLength : Nat := 253

/-! ## The pattern -/

/-- A lower-case letter. -/
def isLetter (c : Char) : Bool := 'a' ≤ c && c ≤ 'z'

/-- A lower-case letter or a digit: the first and last character of a label. -/
def isEdge (c : Char) : Bool := isLetter c || c.isDigit

/-- A character inside the label before the last. -/
def isInner (c : Char) : Bool := isEdge c || c = '-'

/-- A character inside an earlier label. -/
def isLooseInner (c : Char) : Bool := isInner c || c = '_'

open Text.Pattern in
/-- An optional `xn--`, then an edge, then up to 61 inner characters closed by an edge. -/
def labelPattern (inner : Char → Bool) : Text.Pattern :=
  seq (optional (literal ['x', 'n', '-', '-']))
    (seq (one isEdge) (optional (seq (upTo 61 (one inner)) (one isEdge))))

open Text.Pattern in
/-- Earlier labels each with a dot, a label, a dot, and at least two letters. -/
def namePattern : Text.Pattern :=
  seq (many (seq (labelPattern isLooseInner) (one (· == '.'))))
    (seq (labelPattern isInner)
      (seq (one (· == '.')) (seq (one isLetter) (seq (one isLetter) (many (one isLetter))))))

/-- Whether a text is a domain name: lower-case, at least two labels, a last label of letters. -/
def isValidName (name : String) : Bool :=
  name.utf8ByteSize ≤ maxNameLength && namePattern.matches? name.toList

/-! ## The grammar -/

/-- The labels of a name: its parts between the dots. -/
def labels (name : String) : List (List Char) := Text.splitOn '.' name.toList

/-- One to 63 characters, the first and last an edge, the others of a class. -/
def IsCore (inner : Char → Bool) (text : List Char) : Prop :=
  1 ≤ text.length ∧ text.length ≤ 63 ∧ (∀ c ∈ text, inner c = true) ∧
    (∀ c ∈ text.head?, isEdge c = true) ∧ (∀ c ∈ text.getLast?, isEdge c = true)

/-- A label: a core, or `xn--` and a core. -/
def IsLabel (inner : Char → Bool) (text : List Char) : Prop :=
  IsCore inner text ∨ ∃ core, text = ['x', 'n', '-', '-'] ++ core ∧ IsCore inner core

/-- The last label: two or more letters. -/
def IsTopLabel (text : List Char) : Prop :=
  2 ≤ text.length ∧ ∀ c ∈ text, isLetter c = true

/-- The grammar of domain names. -/
def IsName (name : String) : Prop :=
  name.utf8ByteSize ≤ maxNameLength ∧
    ∃ earlier second top, labels name = earlier ++ [second, top] ∧
      (∀ label ∈ earlier, IsLabel isLooseInner label) ∧ IsLabel isInner second ∧ IsTopLabel top

end EdgeSetup.Dns
