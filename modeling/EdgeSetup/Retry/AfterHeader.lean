import EdgeSetup.Binary64.Decimal
import EdgeSetup.Json.Codec
import EdgeSetup.Text.Blank

/-!
# The Retry-After header

How much a server's Retry-After header counts. A policy either takes the header by the letter, in
which case only a value that is not whole changes the delay, or honours a whole number as seconds.
-/

namespace EdgeSetup

open Json

/-- How a Retry-After header affects the next delay. -/
inductive RetryAfter where
  /-- Whole numbers are ignored, a fraction is a number of milliseconds, and garbage is zero. -/
  | literal
  /-- Whole numbers are seconds, and all else is ignored. -/
  | honor
  deriving DecidableEq, Repr, Inhabited

namespace RetryAfter

/-- The written name of a mode. -/
def name : RetryAfter → String
  | literal => "literal"
  | honor => "honor"

/-- The mode of a written name. -/
def ofName? : String → Option RetryAfter
  | "literal" => some literal
  | "honor" => some honor
  | _ => none

instance : Decode RetryAfter := ⟨fun source => (variant? source).bind ofName?⟩

instance : Encode RetryAfter := ⟨fun mode => .string mode.name⟩

/-- The delay, in milliseconds, that a number in the header asks for; `none` is a header that is
no finite number. -/
def overrideOfNumber? : RetryAfter → Option Binary64 → Option Binary64
  | literal, none => some 0
  | literal, some x => if x.isIntegral then none else some x.nonNegative
  | honor, none => none
  | honor, some x => if x.isIntegral && Binary64.le 0 x then some (x * 1000) else none

/-- The delay, in milliseconds, that a header asks for. A blank header asks for nothing. -/
def overrideDelay? (mode : RetryAfter) (header : Option String) : Option Binary64 := do
  let text := Text.trimString (← header)
  if text.isEmpty then none
  else mode.overrideOfNumber? ((Binary64.parse? text).filter Binary64.isFinite)

end RetryAfter

end EdgeSetup
