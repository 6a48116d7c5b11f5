import EdgeSetup.Text.Blank

/-!
# Headers

Headers in their order, under lower-case names. A value may hold any character but the control
characters; a value that is to be read as a text must be printable ASCII as well.
-/

namespace EdgeSetup.Http

/-- Header names in lower case with their values. -/
abbrev Headers := List (String × String)

/-- Whether a text may be sent as a header value: no control character except the tab. -/
def isLegalValue (text : String) : Bool :=
  text.toList.all (fun c => c = '\t' || (0x20 ≤ c.toNat && c.toNat ≠ 0x7F))

/-- Whether a value can be read as a text: printable ASCII and tabs. -/
def isReadableValue (text : String) : Bool :=
  text.toList.all (fun c => c = '\t' || (0x20 ≤ c.toNat && c.toNat < 0x7F))

/-- A text with its ASCII letters in lower case. -/
def lowerCase (text : String) : String := String.ofList (text.toList.map Char.toLower)

namespace Headers

/-- The first value of a name. -/
def get? (headers : Headers) (name : String) : Option String := headers.lookup (lowerCase name)

/-- All values of a name, in order. -/
def getAll (headers : Headers) (name : String) : List String :=
  (headers.filter (fun header => header.1 == lowerCase name)).map Prod.snd

/-- The first value of a name, if it can be read as a text. -/
def getText? (headers : Headers) (name : String) : Option String :=
  (headers.get? name).filter isReadableValue

/-- Sets a name to one value. -/
def set (headers : Headers) (name value : String) : Headers :=
  headers.filter (fun header => header.1 != lowerCase name) ++ [(lowerCase name, value)]

/-- Headers from names in any case, repeats kept. -/
def ofList (headers : List (String × String)) : Headers :=
  headers.map (fun header => (lowerCase header.1, header.2))

end Headers

end EdgeSetup.Http
