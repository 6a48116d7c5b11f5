/-!
# Cutting texts

Cutting a list of characters at a separator, and removing a known start or end. Each cut loses
nothing: putting the pieces back together gives the text.
-/

namespace EdgeSetup.Text

/-- The text as pieces between the separators; one more piece than there are separators. -/
def splitOn (separator : Char) : List Char → List (List Char)
  | [] => [[]]
  | c :: rest =>
    if c = separator then [] :: splitOn separator rest
    else
      match splitOn separator rest with
      | piece :: pieces => (c :: piece) :: pieces
      | [] => [[c]]

/-- The text after a known start. -/
def stripStart? : List Char → List Char → Option (List Char)
  | [], text => some text
  | _ :: _, [] => none
  | p :: start, c :: text => if p = c then stripStart? start text else none

/-- Whether a string begins with another. -/
def startsWith (start text : String) : Bool := (stripStart? start.toList text.toList).isSome

/-- The text before a known end. -/
def stripEnd? (ending text : List Char) : Option (List Char) :=
  (stripStart? ending.reverse text.reverse).map List.reverse

/-- The text without the trailing characters of a class. -/
def trimEndWhile (p : Char → Bool) (text : List Char) : List Char :=
  (text.reverse.dropWhile p).reverse

/-- The text without the leading and trailing characters of a class. -/
def trimWhile (p : Char → Bool) (text : List Char) : List Char :=
  trimEndWhile p (text.dropWhile p)

/-- The text before the first separator and the text after it. -/
def cutAt? (separator : Char) : List Char → Option (List Char × List Char)
  | [] => none
  | c :: rest =>
    if c = separator then some ([], rest)
    else (cutAt? separator rest).map (fun (before, after) => (c :: before, after))

/-- Replaces each occurrence of a pattern, read from the left without overlaps. `fuel` bounds the
number of steps by the length of the text. -/
def replaceFuel (pattern replacement : List Char) : Nat → List Char → List Char
  | 0, text => text
  | _ + 1, [] => []
  | fuel + 1, c :: rest =>
    match stripStart? pattern (c :: rest) with
    | some after => replacement ++ replaceFuel pattern replacement fuel after
    | none => c :: replaceFuel pattern replacement fuel rest

/-- Replaces each occurrence of a non-empty pattern, read from the left without overlaps. -/
def replaceAll (pattern replacement text : List Char) : List Char :=
  replaceFuel pattern replacement text.length text

theorem stripStart?_eq_some_iff {start text rest : List Char} :
    stripStart? start text = some rest ↔ text = start ++ rest := by
  induction start generalizing text with
  | nil => simp [stripStart?, eq_comm]
  | cons p start ih =>
    cases text with
    | nil => simp [stripStart?]
    | cons c text =>
      by_cases h : p = c
      · subst h
        simp [stripStart?, ih]
      · simp [stripStart?, h, Ne.symm h]

theorem stripEnd?_eq_some_iff {ending text rest : List Char} :
    stripEnd? ending text = some rest ↔ text = rest ++ ending := by
  simp only [stripEnd?, Option.map_eq_some_iff, stripStart?_eq_some_iff]
  constructor
  · rintro ⟨a, h, rfl⟩
    simpa using congrArg List.reverse h
  · rintro rfl
    exact ⟨rest.reverse, by simp⟩

end EdgeSetup.Text
