import EdgeSetup.Text.Split
import EdgeSetup.Toml.Instant
import EdgeSetup.Toml.Number
import EdgeSetup.Toml.Text
import EdgeSetup.Toml.Tree

/-!
# Reading TOML

A text is a list of statements: table headers, headers of tables in a list, and assignments to
dotted keys. `Toml.parse?` gives the document as a value; dates and times become texts.
-/

namespace EdgeSetup.Toml

open Json

/-- Values may not be nested so deep, and keys may not have so many parts. -/
def nestingLimit : Nat := 80

/-! ## Keys -/

/-- Whether a character may stand in a key without quotes. -/
def isBareKeyChar (c : Char) : Bool := c.isAlphanum || c = '_' || c = '-'

/-- One part of a key. -/
def simpleKey? : List Char → Option (String × List Char)
  | '"' :: rest => basic? rest
  | '\'' :: rest => literal? rest
  | text =>
    let name := text.takeWhile isBareKeyChar
    if name.isEmpty then none else some (String.ofList name, text.dropWhile isBareKeyChar)

/-- The parts of a dotted key, with blanks around each. -/
def keyFuel? : Nat → List Char → Option (List String × List Char)
  | 0, _ => none
  | fuel + 1, text => do
    let (part, rest) ← simpleKey? (skipBlanks text)
    match skipBlanks rest with
    | '.' :: rest =>
      let (parts, rest) ← keyFuel? fuel rest
      some (part :: parts, rest)
    | rest => some ([part], rest)

/-- A dotted key. -/
def key? (text : List Char) : Option (List String × List Char) :=
  keyFuel? (nestingLimit - 1) text

/-! ## Values -/

/-- A value that is not made of others. -/
def scalar? (text : List Char) : Option (Value × List Char) :=
  match text with
  | 't' :: 'r' :: 'u' :: 'e' :: rest => some (.bool true, rest)
  | 'f' :: 'a' :: 'l' :: 's' :: 'e' :: rest => some (.bool false, rest)
  | '"' :: _ | '\'' :: _ => (string? text).map (fun (s, rest) => (.string s, rest))
  | _ =>
    match instant? text with
    | some (instant, rest) => some (.string instant, rest)
    | none => number? text

mutual

/-- A value at the front of a text. `room` is what is left of the nesting limit; `fuel` bounds the
steps. -/
def value? : (fuel room : Nat) → List Char → Option (Value × List Char)
  | 0, _, _ => none
  | fuel + 1, room, text =>
    match text, room with
    | '[' :: rest, room + 1 => items? fuel room [] (skipLines rest)
    | '{' :: rest, room + 1 =>
      match skipBlanks rest with
      | '}' :: rest => some (.object [], rest)
      | rest => assignments? fuel room [] rest
    | text, _ => scalar? text

/-- The items of an array from the next one on; `done` holds those before it in reverse. -/
def items? (fuel room : Nat) (done : List Value) (text : List Char) :
    Option (Value × List Char) :=
  match fuel, text with
  | 0, _ => none
  | _ + 1, ']' :: rest => some (.array done.reverse, rest)
  | fuel + 1, text =>
    match value? fuel room text with
    | none => none
    | some (item, rest) =>
      match skipLines rest with
      | ',' :: rest => items? fuel room (item :: done) (skipLines rest)
      | ']' :: rest => some (.array (item :: done).reverse, rest)
      | _ => none

/-- The assignments of an inline table from the next one on; `done` holds those before it in
reverse. -/
def assignments? (fuel room : Nat) (done : List (List String × Value)) (text : List Char) :
    Option (Value × List Char) :=
  match fuel with
  | 0 => none
  | fuel + 1 =>
    match key? text with
    | some (path, '=' :: rest) =>
      match value? fuel room (skipBlanks rest) with
      | none => none
      | some (item, rest) =>
        match skipBlanks rest with
        | ',' :: rest => assignments? fuel room ((path, item) :: done) rest
        | '}' :: rest =>
          (Tree.ofAssignments? ((path, item) :: done).reverse).map (fun table => (table, rest))
        | _ => none
    | _ => none

end

/-! ## Statements -/

/-- A statement of a document. -/
inductive Statement where
  /-- Opens a table. -/
  | table (path : List String)
  /-- Adds a table to a list. -/
  | item (path : List String)
  | assign (path : List String) (value : Value)

/-- A statement at the front of a text, up to the end of its line. -/
def statement? (text : List Char) : Option (Statement × List Char) := do
  match text with
  | '[' :: '[' :: rest =>
    let (path, rest) ← key? rest
    let rest ← Text.stripStart? [']', ']'] rest
    some (.item path, ← restOfLine? rest)
  | '[' :: rest =>
    let (path, rest) ← key? rest
    let rest ← Text.stripStart? [']'] rest
    some (.table path, ← restOfLine? rest)
  | text =>
    let (path, rest) ← key? text
    let rest ← char? '=' rest
    let (value, rest) ← value? (2 * rest.length + 2) (nestingLimit - 1) (skipBlanks rest)
    some (.assign path value, ← restOfLine? rest)

/-- The statements of a text. A statement takes up at least one character, so its length is fuel
enough. -/
def statementsFuel? : Nat → List Char → Option (List Statement)
  | 0, _ => none
  | fuel + 1, text =>
    match skipBlanks text with
    | [] => some []
    | '#' :: rest => do statementsFuel? fuel (← restOfLine? ('#' :: rest))
    | after =>
      match lineEnd? after with
      | some next => statementsFuel? fuel next
      | none => do
        let (statement, rest) ← statement? after
        let statements ← statementsFuel? fuel rest
        some (statement :: statements)

/-! ## Documents -/

/-- A document with the path of the table that assignments go to. -/
structure Draft where
  place : List String
  tree : Tree

/-- The document after a statement. -/
def Draft.add? (draft : Draft) : Statement → Option Draft
  | .table path => (draft.tree.openTable? path).map (Draft.mk path)
  | .item path => (draft.tree.appendTable? path).map (Draft.mk path)
  | .assign path value =>
    (draft.tree.assign? draft.place path value).map (Draft.mk draft.place)

/-- The mark that may stand at the front of a text to tell its encoding. -/
def byteOrderMark : Char := '\ufeff'

/-- The text after a byte order mark at its front. -/
def skipMark : List Char → List Char
  | c :: rest => if c = byteOrderMark then rest else c :: rest
  | [] => []

/-- The document that a text writes. -/
def parse? (text : String) : Option Value := do
  let chars := skipMark text.toList
  let statements ← statementsFuel? (chars.length + 1) chars
  let draft ← statements.foldlM Draft.add? ⟨[], .empty⟩
  some draft.tree.toValue

end EdgeSetup.Toml
