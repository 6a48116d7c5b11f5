import EdgeSetup.Binary64.Basic
import EdgeSetup.Word

/-!
# Waiting

A delay is a binary64 number of milliseconds; the clock moves in whole milliseconds. The delay is
turned into seconds, rounded to nanoseconds, and rounded up to the next millisecond. A delay that
no duration can hold is waited for as if it were thirty years.
-/

namespace EdgeSetup

/-- Thirty years in milliseconds. -/
def endlessWait : Nat := 946080000000

/-- The number of nanoseconds in a second. -/
def nanosPerSecond : Nat := 1000000000

/-- The number of nanoseconds in a millisecond. -/
def nanosPerMilli : Nat := 1000000

/-- The first number of seconds that the clock can not be moved by. -/
def unreachableSeconds : Nat := Word.signedLimit

/-- The nanoseconds of a number of seconds; a half goes to the even neighbour. Negative numbers
and those out of range have none. -/
def nanoseconds? (seconds : Binary64) : Option Nat :=
  if Binary64.lt seconds 0 then none
  else
    match seconds with
    | .finite _ units =>
      let nanos := Binary64.roundHalfEven (units * nanosPerSecond) Binary64.unitsPerOne
      if nanos < unreachableSeconds * nanosPerSecond then some nanos else none
    | _ => none

/-- How long a delay of so many milliseconds lasts on the clock. -/
def waitMillis (delay : Binary64) : Nat :=
  match nanoseconds? (delay / 1000) with
  | some nanos => (nanos + (nanosPerMilli - 1)) / nanosPerMilli
  | none => endlessWait

end EdgeSetup
