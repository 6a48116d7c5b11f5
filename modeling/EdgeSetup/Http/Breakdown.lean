import EdgeSetup.Http.Failure
import EdgeSetup.Text.Split

/-!
# Breakdowns of an exchange

What the network layer reports when an exchange breaks down, and the kind of failure that it
amounts to. Only resets, timeouts and missing names are worth another attempt; any other cause in
the operating system, such as a refused connection, is not.
-/

namespace EdgeSetup.Http

/-- The causes in the operating system that are told apart. -/
inductive SystemCause where
  | connectionReset
  | connectionAborted
  | brokenPipe
  | timedOut
  | notFound
  | other
  deriving DecidableEq, Repr

/-- One link in the chain of causes: its message, and its cause in the operating system if it is
one. -/
structure CauseLink where
  system : Option SystemCause
  message : String
  deriving DecidableEq, Repr

/-- A report of a broken exchange, with the chain of causes from the outside in. -/
structure Breakdown where
  /-- No connection was made. -/
  connecting : Bool
  /-- The request or its body was not sent. -/
  sending : Bool
  /-- A response came, but its status was taken for an error. -/
  status : Option Nat
  chain : List CauseLink
  deriving DecidableEq, Repr

namespace SystemCause

/-- The kind of failure that a cause amounts to. -/
def kind : SystemCause → FailureKind
  | connectionReset | connectionAborted | brokenPipe => .connectionReset
  | timedOut => .timeout
  | notFound => .notFound
  | other => .unknown

end SystemCause

namespace Breakdown

/-- Whether a cause in the chain is a timeout. -/
def timedOut (breakdown : Breakdown) : Bool :=
  breakdown.chain.any (fun link => link.system == some .timedOut)

/-- How a failed look-up of a name reports itself. -/
def lookupMark : String := "dns error"

/-- Whether a name could not be looked up. -/
def lookupFailed (breakdown : Breakdown) : Bool :=
  breakdown.connecting && breakdown.chain.any (fun link => Text.startsWith lookupMark link.message)

/-- The outermost cause in the operating system. -/
def systemCause? (breakdown : Breakdown) : Option SystemCause :=
  breakdown.chain.findSome? CauseLink.system

/-- The kind of failure that a breakdown amounts to. -/
def kind (breakdown : Breakdown) : FailureKind :=
  if breakdown.timedOut then .timeout
  else
    match breakdown.status with
    | some status => .httpStatus status
    | none =>
      if breakdown.lookupFailed then .networkError
      else
        match breakdown.systemCause? with
        | some cause => cause.kind
        | none =>
          if breakdown.connecting || breakdown.sending then .networkError else .unknown

end Breakdown

end EdgeSetup.Http
