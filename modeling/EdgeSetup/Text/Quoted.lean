import EdgeSetup.Text.Shapeless

/-!
# Quoted texts

A text between double quotes for use inside a message: quotes, backslashes and the usual controls
are escaped by a backslash, and a character without a shape of its own is given by its number.
-/

namespace EdgeSetup.Text

/-- The number of a character in hexadecimal, in lower case and without leading zeros. -/
def hexNumber (n : Nat) : List Char := Nat.toDigits 16 n

/-- One character inside quotes. -/
def quotedChar (c : Char) : List Char :=
  match c with
  | '\x00' => ['\\', '0']
  | '\t' => ['\\', 't']
  | '\r' => ['\\', 'r']
  | '\n' => ['\\', 'n']
  | '\\' => ['\\', '\\']
  | '"' => ['\\', '"']
  | c => if isShapeless c then ['\\', 'u', '\x7b'] ++ hexNumber c.toNat ++ ['\x7d'] else [c]

/-- The text in double quotes. -/
def quoted (s : String) : String :=
  String.ofList ('"' :: s.toList.flatMap quotedChar ++ ['"'])

end EdgeSetup.Text
