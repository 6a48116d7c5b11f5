/-!
# Failures of an exchange

Why a single request got no response, and whether it is worth another attempt.
-/

namespace EdgeSetup.Http

/-- The kind of a failure. -/
inductive FailureKind where
  | timeout
  | connectionReset
  | notFound
  | networkError
  | aborted
  | unknown
  | httpStatus (status : Nat)
  deriving DecidableEq, Repr, Inhabited

namespace FailureKind

/-- The text of a kind. -/
def text : FailureKind → String
  | timeout => "timeout"
  | connectionReset => "connection reset"
  | notFound => "not found"
  | networkError => "network error"
  | aborted => "aborted"
  | unknown => "unknown"
  | httpStatus status => "HTTP " ++ toString status

/-- Whether a failure of this kind may pass. -/
def isRetryable : FailureKind → Bool
  | timeout | connectionReset | notFound | networkError => true
  | aborted | unknown | httpStatus _ => false

end FailureKind

/-- A failed exchange. -/
structure Failure where
  kind : FailureKind
  message : String
  deriving DecidableEq, Repr, Inhabited

namespace Failure

/-- The failure of a request that was given up. -/
def aborted : Failure := ⟨.aborted, "request aborted"⟩

/-- The text of a failure. -/
def text (failure : Failure) : String :=
  "transport error (" ++ failure.kind.text ++ "): " ++ failure.message

end Failure

end EdgeSetup.Http
