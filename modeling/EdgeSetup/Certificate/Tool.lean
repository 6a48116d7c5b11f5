import EdgeSetup.Certificate.Bundle

/-!
# The certificate tool

Self-signed certificates come from the command line tool `openssl`, run once for each host name in
a directory of its own. This module gives the command line and says what its outcome means.
-/

namespace EdgeSetup

/-- The settings of generated certificates. -/
structure CertificateTool where
  validityDays : UInt32
  keyBits : UInt32
  deriving DecidableEq, Repr

/-- How a run of the tool ended. -/
inductive ToolExit where
  /-- There was no tool to run. -/
  | notStarted (reason : String)
  | exited (code : Nat)
  | killed (signal : Nat) (name : String)
  deriving DecidableEq, Repr

/-- What a run of the tool left behind. -/
structure ToolRun where
  exit : ToolExit
  keyFile : FileContents
  certFile : FileContents

namespace CertificateTool

/-- The start of the name of the directory that a run works in. -/
def directoryPrefix : String := "generate-certificate-"

/-- The key file in a directory. -/
def keyFile (directory : String) : String := directory ++ "/key.pem"

/-- The certificate file in a directory. -/
def certFile (directory : String) : String := directory ++ "/cert.pem"

/-- The arguments of the tool for a host name: one new key, one certificate signed with it, no
passphrase, and the name both as subject and as alternative name. -/
def arguments (tool : CertificateTool) (directory domain : String) : List String :=
  [ "req", "-newkey", "rsa:" ++ toString tool.keyBits.toNat, "-new", "-nodes", "-x509", "-days",
    toString tool.validityDays.toNat, "-keyout", keyFile directory, "-out", certFile directory,
    "-subj", "/CN=" ++ domain, "-addext", "subjectAltName = DNS:" ++ domain ]

/-- Why the tool can not be run for a host name: an argument can not hold the character that ends
arguments. -/
def refusal? (domain : String) : Option String :=
  if domain.toList.contains '\x00' then some "nul byte found in provided data" else none

/-- The text of an unsuccessful end. -/
def exitText : ToolExit → String
  | .notStarted reason => reason
  | .exited code => "exit status: " ++ toString code
  | .killed signal name => "signal: " ++ toString signal ++ " (" ++ name ++ ")"

/-- The bundle that a run produced: a good exit, then a readable key, then a readable
certificate. -/
def bundleOfRun (run : ToolRun) : Except SetupError CertificateBundle := do
  match run.exit with
  | .exited 0 => pure ()
  | .notStarted reason =>
    throw (.certificateIssuance ("Failed to run openssl: " ++ reason))
  | exit => throw (.certificateIssuance ("openssl exited with " ++ exitText exit))
  let key ← run.keyFile.text.mapError
    (fun reason => .certificateIssuance ("Missing private key: " ++ reason))
  let cert ← run.certFile.text.mapError
    (fun reason => .certificateIssuance ("Missing certificate: " ++ reason))
  return .pem cert key

end CertificateTool

end EdgeSetup
