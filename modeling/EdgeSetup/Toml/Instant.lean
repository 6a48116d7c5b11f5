import EdgeSetup.Toml.Basic

/-!
# Dates and times in TOML

A date, a time of day, or both with an optional offset. They are kept as texts in one form: a `T`
between date and time, no zeros at the end of a fraction of a second, `Z` for no offset.
-/

namespace EdgeSetup.Toml

/-- A number with leading zeros. -/
def padded (width n : Nat) : String :=
  let digits := Nat.toDigits 10 n
  String.ofList (List.replicate (width - digits.length) '0' ++ digits)

/-- The number of days of a month. -/
def daysOfMonth (year month : Nat) : Nat :=
  if month = 2 then
    if year % 4 = 0 && (year % 100 ≠ 0 || year % 400 = 0) then 29 else 28
  else if month = 4 || month = 6 || month = 9 || month = 11 then 30
  else 31

/-- A date. -/
def date? (text : List Char) : Option (String × List Char) := do
  let (year, rest) ← fixedDigits? 4 text
  let (month, rest) ← boundedDigits? 2 1 12 (← char? '-' rest)
  let (day, rest) ← boundedDigits? 2 1 (daysOfMonth year month) (← char? '-' rest)
  some (padded 4 year ++ "-" ++ padded 2 month ++ "-" ++ padded 2 day, rest)

/-- The digits of a fraction of a second that count: nine of them, without zeros at the end. -/
def secondFraction (digits : List Char) : List Char :=
  ((digits.take 9).reverse.dropWhile (· == '0')).reverse

/-- A fraction of a second as a text; nothing when it is zero or not written. -/
def secondFraction? : List Char → Option (String × List Char)
  | '.' :: rest =>
    let digits := rest.takeWhile Char.isDigit
    let after := rest.dropWhile Char.isDigit
    if digits.isEmpty then none
    else
      match secondFraction digits with
      | [] => some ("", after)
      | fraction => some (String.ofList ('.' :: fraction), after)
  | text => some ("", text)

/-- A time of day. -/
def time? (text : List Char) : Option (String × List Char) := do
  let (hour, rest) ← boundedDigits? 2 0 23 text
  let (minute, rest) ← boundedDigits? 2 0 59 (← char? ':' rest)
  let (second, rest) ← boundedDigits? 2 0 60 (← char? ':' rest)
  let (fraction, rest) ← secondFraction? rest
  some (padded 2 hour ++ ":" ++ padded 2 minute ++ ":" ++ padded 2 second ++ fraction, rest)

/-- An offset from universal time; nothing when none is written. -/
def offset? : List Char → Option (String × List Char)
  | [] => some ("", [])
  | c :: rest =>
    if c = 'Z' || c = 'z' then some ("Z", rest)
    else if c = '+' || c = '-' then do
      let (hour, rest) ← boundedDigits? 2 0 23 rest
      let (minute, rest) ← boundedDigits? 2 0 59 (← char? ':' rest)
      -- An offset of zero is neither east nor west.
      let sign := if c = '-' && (hour ≠ 0 || minute ≠ 0) then "-" else "+"
      some (sign ++ padded 2 hour ++ ":" ++ padded 2 minute, rest)
    else some ("", c :: rest)

/-- The time of day and offset after a date; nothing when none is written. -/
def timeOfDate? : List Char → Option (String × List Char)
  | [] => some ("", [])
  | c :: rest =>
    if c = 'T' || c = 't' || c = ' ' then
      match time? rest with
      | none => some ("", c :: rest)
      | some (time, rest) => do
        let (offset, rest) ← offset? rest
        some ("T" ++ time ++ offset, rest)
    else some ("", c :: rest)

/-- A date or a time or both. -/
def instant? (text : List Char) : Option (String × List Char) :=
  match date? text with
  | some (date, rest) => do
    let (time, rest) ← timeOfDate? rest
    some (date ++ time, rest)
  | none => time? text

end EdgeSetup.Toml
