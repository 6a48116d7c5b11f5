import EdgeSetup.Binary64.Shortest
import EdgeSetup.Json.Value
import EdgeSetup.Word

/-!
# Writing TOML

A document of flat sections: a header, and a line for each member that has a value. A string is
written in the first of the four forms that shows it without escapes, and with escapes when no form
does.
-/

namespace EdgeSetup.Toml

open Json

/-! ## Forms of strings -/

/-- The longest run of a character in a text. -/
def longestRun (mark : Char) (text : List Char) : Nat :=
  (text.foldl (fun (current, longest) c =>
    if c = mark then (current + 1, max longest (current + 1)) else (0, longest)) (0, 0)).2

/-- Whether a character can not be shown: a control character of ASCII other than the line feed. -/
def isHidden (c : Char) : Bool := (c.toNat < 0x20 && c ≠ '\n') || c.toNat = 0x7F

/-- A form of a string: its mark, whether it has escapes, and whether it may take several lines. -/
structure StringForm where
  mark : Char
  escapes : Bool
  multiline : Bool
  deriving DecidableEq, Repr

namespace StringForm

def basic : StringForm := ⟨'"', true, false⟩
def literal : StringForm := ⟨'\'', false, false⟩
def multilineBasic : StringForm := ⟨'"', true, true⟩
def multilineLiteral : StringForm := ⟨'\'', false, true⟩

/-- The forms in order of preference. -/
def all : List StringForm := [basic, literal, multilineBasic, multilineLiteral]

/-- The longest run of its mark that a form shows. -/
def longestMarkRun (form : StringForm) : Nat := if form.multiline then 2 else 0

/-- Whether a form shows a text without escapes. -/
def shows (form : StringForm) (text : List Char) : Bool :=
  !text.any isHidden && (!form.escapes || !text.contains '\\') &&
    (form.multiline || !text.contains '\n') && longestRun form.mark text ≤ form.longestMarkRun

/-- The form of a text. -/
def ofText (text : List Char) : StringForm :=
  match all.find? (fun form => form.shows text) with
  | some form => form
  | none => if text.contains '\n' then multilineBasic else basic

/-- The mark at either end of a string. -/
def delimiter (form : StringForm) : List Char :=
  List.replicate (if form.multiline then 3 else 1) form.mark

end StringForm

/-! ## Escapes -/

/-- The escape of a character that has one. -/
def escapeOf? (multiline : Bool) (c : Char) : Option (List Char) :=
  match c with
  | '\x08' => some ['\\', 'b']
  | '\t' => some ['\\', 't']
  | '\n' => if multiline then none else some ['\\', 'n']
  | '\x0c' => some ['\\', 'f']
  | '\r' => some ['\\', 'r']
  | '\\' => some ['\\', '\\']
  | c =>
    if isHidden c then
      let digits := (Nat.toDigits 16 c.toNat).map Char.toUpper
      some (['\\', 'u'] ++ List.replicate (4 - digits.length) '0' ++ digits)
    else none

/-- A text with escapes. A quote mark is escaped when too many of them stood before it; `run` is
their number. -/
def escapeText (form : StringForm) (run : Nat) : List Char → List Char
  | [] => []
  | c :: rest =>
    if c = '"' then
      if form.longestMarkRun ≤ run then '\\' :: '"' :: escapeText form 0 rest
      else '"' :: escapeText form (run + 1) rest
    else
      match escapeOf? form.multiline c with
      | some escape => escape ++ escapeText form 0 rest
      | none => c :: escapeText form 0 rest

/-- A string as it is written. A text of several lines starts on a line of its own. -/
def stringText (s : String) : String :=
  let text := s.toList
  let form := StringForm.ofText text
  let opening := if form.multiline && text.contains '\n' then ['\n'] else []
  let inside := if form.escapes then escapeText form 0 text else text
  String.ofList (form.delimiter ++ opening ++ inside ++ form.delimiter)

/-! ## Values -/

/-- A binary64 number as it is written, with a point in any case. -/
def realText : Binary64 → String
  | .nan => "nan"
  | .infinite negative => if negative then "-inf" else "inf"
  | x => if x.isIntegral then x.toPositional ++ ".0" else x.toPositional

/-- A value as it is written on a line. Whole numbers have 64 bits with a sign. -/
def valueText? : Value → Option String
  | .string s => some (stringText s)
  | .bool b => some (if b then "true" else "false")
  | .number (.int i) => if i < (Word.signedLimit : Int) then some (toString i) else none
  | .number (.float x) => some (realText x)
  | _ => none

/-! ## Documents -/

/-- A member as a line; one without a value is left out. -/
def line? : String × Value → Option String
  | (_, .null) => some ""
  | (key, value) => (valueText? value).map (fun text => key ++ " = " ++ text ++ "\n")

/-- A section. -/
def section? : String × Value → Option String
  | (name, .object members) => do
    let lines ← members.mapM line?
    some ("[" ++ name ++ "]\n" ++ String.join lines)
  | _ => none

/-- A document of sections, with an empty line between them. -/
def document? (sections : List (String × Value)) : Option String :=
  (sections.mapM section?).map (String.intercalate "\n")

end EdgeSetup.Toml
