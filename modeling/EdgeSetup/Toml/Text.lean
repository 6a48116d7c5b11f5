import EdgeSetup.Text.Digit
import EdgeSetup.Toml.Basic

/-!
# Strings in TOML

Basic strings have escapes and literal strings have none. Both come on one line between single
marks, or on several lines between triple marks. A line end counts as one line feed, and the first
one after an opening triple mark does not count.
-/

namespace EdgeSetup.Toml

open Json

/-! ## Escapes -/

/-- The number that hexadecimal digits write. -/
def hexNumber? (digits : List Char) : Option Nat :=
  digits.foldlM (fun n c => (Text.hexValue? c).map (16 * n + ·)) 0

/-- The character of a number given by so many hexadecimal digits. -/
def numberedChar? (count : Nat) (text : List Char) : Option (Char × List Char) := do
  let digits := text.take count
  let n ← if digits.length = count then hexNumber? digits else none
  if Nat.isValidChar n then some (Char.ofNat n, text.drop count) else none

/-- The character that an escape stands for, read after its backslash. -/
def escape? : List Char → Option (Char × List Char)
  | 'b' :: rest => some ('\x08', rest)
  | 't' :: rest => some ('\t', rest)
  | 'n' :: rest => some ('\n', rest)
  | 'f' :: rest => some ('\x0c', rest)
  | 'r' :: rest => some ('\r', rest)
  | '"' :: rest => some ('"', rest)
  | '\\' :: rest => some ('\\', rest)
  | 'u' :: rest => numberedChar? 4 rest
  | 'U' :: rest => numberedChar? 8 rest
  | _ => none

/-- The text after the blanks and line ends at its front. -/
def skipBlankLinesFuel : Nat → List Char → List Char
  | 0, text => text
  | fuel + 1, text =>
    let after := skipBlanks text
    match lineEnd? after with
    | some next => skipBlankLinesFuel fuel next
    | none => after

/-- The text after a backslash that joins lines: blanks, a line end, and all blanks and line ends
after it. -/
def joinedLine? (text : List Char) : Option (List Char) :=
  (lineEnd? (skipBlanks text)).map (fun after => skipBlankLinesFuel (after.length + 1) after)

/-! ## One line -/

/-- The rest of a basic string after its opening mark. `fuel` bounds the characters read, `done`
holds those so far in reverse. -/
def basicFuel? : Nat → List Char → List Char → Option (String × List Char)
  | 0, _, _ => none
  | _ + 1, done, '"' :: rest => some (String.ofList done.reverse, rest)
  | fuel + 1, done, '\\' :: rest => do
    let (c, rest) ← escape? rest
    basicFuel? fuel (c :: done) rest
  | fuel + 1, done, c :: rest => if isPrintable c then basicFuel? fuel (c :: done) rest else none
  | _ + 1, _, [] => none

/-- The rest of a basic string after its opening mark. -/
def basic? (text : List Char) : Option (String × List Char) :=
  basicFuel? (text.length + 1) [] text

/-- The rest of a literal string after its opening mark. -/
def literal? (text : List Char) : Option (String × List Char) :=
  let inside := text.takeWhile (fun c => isPrintable c && c ≠ '\'')
  match text.dropWhile (fun c => isPrintable c && c ≠ '\'') with
  | '\'' :: rest => some (String.ofList inside, rest)
  | _ => none

/-! ## Several lines -/

/-- The text after a line end that directly follows an opening triple mark. -/
def skipFirstLineEnd (text : List Char) : List Char := (lineEnd? text).getD text

/-- A run of quote marks inside a string of several lines: up to two belong to the string, and
three close it, with up to two more before them that belong to it. -/
inductive MarkRun where
  | inside
  | closing (extra : Nat)
  | tooLong
  deriving DecidableEq, Repr

/-- What a run of so many quote marks is. -/
def MarkRun.ofLength (length : Nat) : MarkRun :=
  if length < 3 then inside else if length ≤ 5 then closing (length - 3) else tooLong

/-- The rest of a string of several lines after its opening mark. `fuel` bounds the steps, `done`
holds the characters so far in reverse. -/
def multilineFuel? (mark : Char) (escapes : Bool) :
    Nat → List Char → List Char → Option (String × List Char)
  | 0, _, _ => none
  | _ + 1, _, [] => none
  | fuel + 1, done, c :: rest =>
    if c = mark then
      let marks := (c :: rest).takeWhile (· == mark)
      let after := (c :: rest).dropWhile (· == mark)
      match MarkRun.ofLength marks.length with
      | .inside => multilineFuel? mark escapes fuel (marks ++ done) after
      | .closing extra => some (String.ofList (marks.take extra ++ done).reverse, after)
      | .tooLong => none
    else if escapes && c = '\\' then
      match joinedLine? rest with
      | some after => multilineFuel? mark escapes fuel done after
      | none => do
        let (e, rest) ← escape? rest
        multilineFuel? mark escapes fuel (e :: done) rest
    else
      match lineEnd? (c :: rest) with
      | some after => multilineFuel? mark escapes fuel ('\n' :: done) after
      | none => if isPrintable c then multilineFuel? mark escapes fuel (c :: done) rest else none

/-- The rest of a string of several lines after its opening mark. -/
def multiline? (mark : Char) (escapes : Bool) (text : List Char) : Option (String × List Char) :=
  multilineFuel? mark escapes (text.length + 1) [] (skipFirstLineEnd text)

/-! ## Any string -/

/-- A string of any kind. -/
def string? : List Char → Option (String × List Char)
  | '"' :: '"' :: '"' :: rest => multiline? '"' true rest
  | '"' :: rest => basic? rest
  | '\'' :: '\'' :: '\'' :: rest => multiline? '\'' false rest
  | '\'' :: rest => literal? rest
  | _ => none

end EdgeSetup.Toml
