import EdgeSetup.Error
import EdgeSetup.Text.Blank

/-!
# Secrets

A token or private key that is kept out of every log: its text is always the same, whatever it
holds. A secret is read from a variable or from a file such as a mounted token.
-/

namespace EdgeSetup

/-- A text that is never shown. -/
structure Secret where
  expose : String
  deriving DecidableEq, Inhabited

/-- What is shown in place of a secret. -/
def redacted : String := "[REDACTED]"

/-- What a file holds, if it is there. -/
inductive FileContents where
  | missing
  | bytes (data : ByteArray)
  deriving Inhabited

namespace FileContents

/-- Why a missing file can not be read. -/
def missingFileText : String := "No such file or directory (os error 2)"

/-- Why bytes can not be read as a text. -/
def invalidTextText : String := "stream did not contain valid UTF-8"

/-- The file as a text, or why it can not be read as one. -/
def text : FileContents → Except String String
  | missing => .error missingFileText
  | bytes data =>
    match String.fromUTF8? data with
    | some text => .ok text
    | none => .error invalidTextText

end FileContents

namespace Secret

/-- The text of a secret for a log or a message. -/
def text (_ : Secret) : String := redacted

/-- Why a missing variable can not be read. -/
def missingVariableText : String := "environment variable not found"

/-- A secret from a variable, which must be set and not empty. -/
def ofVariable (name : String) : Option String → Except SetupError Secret
  | none =>
    .error (.secret ("Environment variable '" ++ name ++ "' not set: " ++ missingVariableText))
  | some value =>
    if value.isEmpty then .error (.secret ("Environment variable '" ++ name ++ "' is empty"))
    else .ok ⟨value⟩

/-- A secret from a file, without the blanks around it, which must leave something. -/
def ofFile (path : String) (contents : FileContents) : Except SetupError Secret :=
  match contents.text with
  | .error reason => .error (.secret ("Can not read '" ++ path ++ "': " ++ reason))
  | .ok text =>
    let value := Text.trimString text
    if value.isEmpty then .error (.secret ("'" ++ path ++ "' is empty")) else .ok ⟨value⟩

/-- The variable that stands in for the mounted token. -/
def tokenVariable : String := "TOKEN"

/-- The token of the service: from its file, else from the variable. -/
def serviceToken (path : String) (contents : FileContents) (fallback : Option String) :
    Except SetupError Secret :=
  match ofFile path contents with
  | .ok secret => .ok secret
  | .error _ => ofVariable tokenVariable fallback

end Secret

end EdgeSetup
