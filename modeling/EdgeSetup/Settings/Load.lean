import EdgeSetup.Settings.Basic
import EdgeSetup.Settings.Shape
import EdgeSetup.Toml.Reader

/-!
# Loading settings

Settings are read from one file, in TOML or JSON, and then from the variables of the environment:
`SETUP__CLUSTER__API_URL` sets `api_url` in the section `cluster`, in whatever case it is written.
-/

namespace EdgeSetup

open Json

/-- The text of a settings file. -/
inductive SettingsFile where
  | toml (text : String)
  | json (text : String)

namespace SettingsFile

/-- The text after a byte order mark at its front. -/
def withoutMark (text : String) : String := String.ofList (Toml.skipMark text.toList)

/-- A number of a JSON file: one past the range of 64 bits with a sign counts as binary64. -/
def narrow : Number → Number
  | .int i => if i < (Word.signedLimit : Int) then .int i else .float (.ofInt i)
  | .float x => .float x

mutual

/-- A value of a JSON file. -/
def narrowValue : Value → Value
  | .number n => .number (narrow n)
  | .array items => .array (narrowItems items)
  | .object members => .object (narrowMembers members)
  | value => value

/-- The items of an array of a JSON file. -/
def narrowItems : List Value → List Value
  | [] => []
  | item :: rest => narrowValue item :: narrowItems rest

/-- The members of an object of a JSON file. -/
def narrowMembers : List (String × Value) → List (String × Value)
  | [] => []
  | (key, value) :: rest => (key, narrowValue value) :: narrowMembers rest

end

/-- The document of a file. -/
def document? : SettingsFile → Option Value
  | toml text => Toml.parse? (withoutMark text)
  | json text => (Value.parse? (withoutMark text)).map narrowValue

/-- The layer of a file, which must hold a table. -/
def layer? (file : SettingsFile) : Option (List (String × Value)) :=
  file.document?.bind Value.members?

end SettingsFile

/-! ## The environment -/

/-- How the name of a variable begins, in lower case. -/
def variablePrefix : String := "setup__"

/-- What stands between the parts of the name of a variable. -/
def variableSeparator : String := "__"

/-- The key that a variable sets, if it sets one. -/
def variableKey? (name : String) : Option String := do
  let rest ← Text.stripStart? variablePrefix.toList (SettingsLayer.lowerKey name).toList
  some (String.ofList (Text.replaceAll variableSeparator.toList ['.'] rest))

/-- The layer of the environment; of variables with one key the last one counts. -/
def environmentLayer (environment : List (String × String)) : List (String × Value) :=
  Members.ofList <| environment.filterMap fun (name, value) =>
    (variableKey? name).map (·, .string value)

/-! ## Settings -/

namespace Settings

/-- The shape of a section of texts, switches and numbers in the order of its fields. -/
def sectionShape (names : List String) (shapes : List SettingShape) : SettingShape :=
  .record (names.zip shapes)

/-- The shape of all settings. -/
def shape : SettingShape :=
  sectionShape sectionNames
    [ sectionShape ServerSettings.fieldNames [.text, .optional .text],
      sectionShape ClusterSettings.fieldNames
        [.text, .text, .switch, .whole 64, .whole 64, .text],
      sectionShape RetryPolicy.fieldNames
        [.optional (.whole 32), .whole 64, .real, .choice ["literal", "honor"]],
      sectionShape CertificateSettings.fieldNames [.text, .whole 32, .whole 32, .text],
      sectionShape SetupUi.fieldNames [.text, .text, .text, .switch],
      sectionShape MetricsSettings.fieldNames [.switch, .text],
      sectionShape LoggingSettings.fieldNames [.text, .text] ]

/-- The settings of a tree. -/
def ofTree? (tree : Value) : Option Settings := (shape.fit? tree).bind (decodeValue? Settings)

/-- The settings of a file and the environment. -/
def load? (file : SettingsFile) (environment : List (String × String)) : Option Settings := do
  let tree ← SettingsLayer.layOver? (← file.layer?) (.object [])
  let tree ← SettingsLayer.layOver? (environmentLayer environment) tree
  ofTree? tree

end Settings

end EdgeSetup
