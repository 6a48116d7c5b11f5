import EdgeSetup.Http.Failure

/-!
# Errors

Everything that can make an operation fail, with the text of each error and the HTTP status that
it is reported with.
-/

namespace EdgeSetup

/-- An error of the service. -/
inductive SetupError where
  | config (message : String)
  | secret (message : String)
  /-- A malformed domain, body or host. -/
  | invalidInput (message : String)
  /-- A request without a token. -/
  | unauthorized
  /-- The cluster API gave no answer, retries included. -/
  | transport (failure : Http.Failure)
  /-- The cluster API refused a read. -/
  | remote (status : Nat) (message : String)
  | certificateIssuance (message : String)
  /-- A TLS secret was not created. -/
  | secretCreate (namePrefix inNamespace : String) (status : Nat) (message : String)
  | patchFailed (resource : String) (status : Nat) (message : String)
  | createFailed (resource : String) (status : Nat) (message : String)
  /-- A document that can not be read or written. -/
  | serialization (message : String)
  | io (message : String)
  | other (message : String)
  deriving DecidableEq, Repr, Inhabited

namespace SetupError

/-- The text of an error. -/
def message : SetupError → String
  | config message => "Configuration error: " ++ message
  | secret message => "Secret error: " ++ message
  | invalidInput message => "Invalid input: " ++ message
  | unauthorized => "Unauthorized"
  | transport failure => failure.text
  | remote status message => "Cluster API returned " ++ toString status ++ ": " ++ message
  | certificateIssuance message => "Failed to generate certificate: " ++ message
  | secretCreate namePrefix inNamespace _ message =>
    "Can not create " ++ namePrefix ++ " TLS secret in the " ++ inNamespace ++ " namespace: " ++
      message
  | patchFailed resource _ message => "Failed to patch " ++ resource ++ ": " ++ message
  | createFailed resource _ message => "Failed to create " ++ resource ++ ": " ++ message
  | serialization message => "Serialization error: " ++ message
  | io message => "I/O error: " ++ message
  | other message => message

/-- The HTTP status that an error is reported with: what the cluster said about a creation, if it
was an error status, is passed on. -/
def httpStatus : SetupError → Nat
  | invalidInput _ => 422
  | unauthorized => 401
  | createFailed _ status _ => if 400 ≤ status ∧ status ≤ 599 then status else 500
  | _ => 500

end SetupError

end EdgeSetup
