import EdgeSetup.Http.Failure
import EdgeSetup.Http.Message
import EdgeSetup.Retry.AfterHeader

/-!
# Retry policies

How often a request is repeated and how long to wait in between. `again?` is one decision: what an
attempt's outcome means for a call that has retries left.
-/

namespace EdgeSetup

open Json Http

/-- The budget and the delays of a call. -/
structure RetryPolicy where
  /-- The number of retries; without one, reads have `defaultReadRetries` and writes none. -/
  maxRetries : Option UInt32
  /-- The delay before the first retry. -/
  initialDelayMs : UInt64
  /-- What a delay is multiplied by after each attempt. -/
  backoffMultiplier : Binary64
  retryAfter : RetryAfter
  deriving DecidableEq, Repr

/-- The outcome of an attempt. -/
abbrev Outcome := Except Failure Response

/-- Statuses that are answered with another attempt. -/
def retryableStatuses : List Nat := [408, 429, 500, 502, 503, 504, 522, 524]

/-- Whether a status is answered with another attempt. -/
def isRetryableStatus (status : Nat) : Bool := retryableStatuses.contains status

/-- The retries of a read when the policy names no number. -/
def defaultReadRetries : UInt32 := 4

/-- The delay that follows a delay of zero, in milliseconds. -/
def minimalDelay : Binary64 := 100

/-- Whether an outcome may change when the request is repeated. -/
def isTransient : Outcome → Bool
  | .ok response => isRetryableStatus response.status
  | .error failure => failure.kind.isRetryable

namespace RetryPolicy

/-- The policy of a service that configures none. -/
def standard : RetryPolicy := ⟨none, 1000, 2, .literal⟩

/-- The policy with a given number of retries. -/
def withMaxRetries (policy : RetryPolicy) (retries : UInt32) : RetryPolicy :=
  { policy with maxRetries := some retries }

/-- How many retries a method has. -/
def retryBudget (policy : RetryPolicy) (method : Method) : UInt32 :=
  match policy.maxRetries with
  | some retries => retries
  | none => if method = .get then defaultReadRetries else 0

/-- The first delay, in milliseconds. -/
def initialDelay (policy : RetryPolicy) : Binary64 := .ofNat policy.initialDelayMs.toNat

/-- The delay after a delay. -/
def nextDelay (policy : RetryPolicy) (delay : Binary64) : Binary64 :=
  if delay.isZero then minimalDelay else delay * policy.backoffMultiplier

/-- The delay before the next attempt: what a retryable answer asks for, else the running one. -/
def delayAfter (policy : RetryPolicy) (delay : Binary64) : Outcome → Binary64
  | .ok response =>
    (policy.retryAfter.overrideDelay? (response.headers.getText? "retry-after")).getD delay
  | .error _ => delay

/-- The names of the fields of a policy. -/
def fieldNames : List String :=
  ["max_retries", "initial_delay_ms", "backoff_multiplier", "retry_after"]

instance : Decode RetryPolicy where
  decode? source := do
    let record ← Record.ofSource? (fieldNames.map fun name => [name]) source
    some ⟨← record.orElse? 0 none, ← record.required? 1, ← record.required? 2,
      ← record.orElse? 3 .literal⟩

instance : Encode RetryPolicy where
  encode policy := .object <| fieldNames.zip
    [encode policy.maxRetries, encode policy.initialDelayMs, encode policy.backoffMultiplier,
      encode policy.retryAfter]

end RetryPolicy

/-- How a call goes on after a transient outcome. -/
structure Repetition where
  /-- The wait before the next attempt, in milliseconds. -/
  wait : Binary64
  /-- The delay after that, unless an answer overrides it. -/
  nextDelay : Binary64
  deriving DecidableEq, Repr

/-- How a call would go on after an outcome, given the running delay; an outcome that is not
transient is final. -/
def RetryPolicy.again? (policy : RetryPolicy) (delay : Binary64) (outcome : Outcome) :
    Option Repetition :=
  if isTransient outcome then
    let wait := policy.delayAfter delay outcome
    some ⟨wait, policy.nextDelay wait⟩
  else none

end EdgeSetup
