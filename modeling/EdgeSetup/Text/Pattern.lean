/-!
# Patterns

Regular patterns over characters, matched by derivatives: after a character, what remains to be
matched is again a pattern. The smart constructors drop dead branches, which keeps the remaining
patterns as small as the choices that are still open.
-/

namespace EdgeSetup.Text

/-- A regular pattern over characters. -/
inductive Pattern where
  /-- Matches nothing at all. -/
  | never
  /-- Matches the empty text. -/
  | empty
  /-- Matches one character of a class. -/
  | one (p : Char → Bool)
  | seq (first second : Pattern)
  | either (left right : Pattern)
  /-- Any number of repetitions. -/
  | many (body : Pattern)
  /-- At most so many repetitions. -/
  | upTo (count : Nat) (body : Pattern)

namespace Pattern

/-- A given text. -/
def literal : List Char → Pattern
  | [] => empty
  | c :: rest => seq (one (· == c)) (literal rest)

/-- The pattern or nothing. -/
def optional (body : Pattern) : Pattern := either body empty

/-- Whether the empty text matches. -/
def acceptsEmpty : Pattern → Bool
  | never | one _ => false
  | empty | many _ | upTo _ _ => true
  | seq first second => first.acceptsEmpty && second.acceptsEmpty
  | either left right => left.acceptsEmpty || right.acceptsEmpty

/-- Sequence, with dead and empty parts dropped. -/
def andThen : Pattern → Pattern → Pattern
  | never, _ => never
  | _, never => never
  | empty, second => second
  | first, second => seq first second

/-- Choice, with dead branches dropped. -/
def orElse : Pattern → Pattern → Pattern
  | never, right => right
  | left, never => left
  | left, right => either left right

/-- What remains to be matched after a character. -/
def after (c : Char) : Pattern → Pattern
  | never | empty => never
  | one p => if p c then empty else never
  | seq first second =>
    let rest := andThen (first.after c) second
    if first.acceptsEmpty then orElse rest (second.after c) else rest
  | either left right => orElse (left.after c) (right.after c)
  | many body => andThen (body.after c) (many body)
  | upTo 0 _ => never
  | upTo (count + 1) body => andThen (body.after c) (upTo count body)

/-- Whether a whole text matches. -/
def matches? (pattern : Pattern) (text : List Char) : Bool :=
  (text.foldl (fun remaining c => remaining.after c) pattern).acceptsEmpty

end Pattern

end EdgeSetup.Text
