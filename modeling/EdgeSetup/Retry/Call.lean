import EdgeSetup.Retry.Policy
import EdgeSetup.Retry.Wait

/-!
# Calls

A call repeats attempts on a clock until one of them settles it, until it is aborted, or for as
long as an attempt hangs. The network is a state and a function that answers the attempt made at a
given time; the trace of a call lists the times of its attempts and how it ended.
-/

namespace EdgeSetup

open Http

/-- What the network does with an attempt: it answers after some milliseconds, or never. -/
structure Answer where
  latency : Option Nat
  outcome : Outcome

/-- A network: what it does with an attempt made at a time. -/
abbrev Network (σ : Type) := Nat → σ → Answer × σ

/-- What comes of an attempt. -/
inductive Arrival where
  | never
  | aborted (time : Nat)
  | answered (time : Nat) (outcome : Outcome)

/-- How a call ends. -/
inductive Ending where
  /-- An attempt hangs, and nothing aborts the call. -/
  | never
  | at (time : Nat) (outcome : Outcome)

/-- What a call did. -/
structure CallTrace where
  /-- The times of the attempts. -/
  attempts : List Nat
  /-- How often the call made up its mind to try again. -/
  retries : Nat
  ending : Ending

/-- The end of an aborted call. -/
def Ending.aborted (time : Nat) : Ending := .at time (.error Failure.aborted)

/-- Whether an abort has come by a time. -/
def abortedBy (abort : Option Nat) (time : Nat) : Bool :=
  match abort with
  | some moment => decide (moment ≤ time)
  | none => false

/-- When an attempt made now is settled. An answer without latency is there at once; otherwise an
abort that comes no later is first. When both come at one moment, which of them is seen is left to
chance; here it is the abort. -/
def arrival (abort : Option Nat) (now : Nat) (answer : Answer) : Arrival :=
  match answer.latency with
  | none =>
    match abort with
    | some moment => .aborted moment
    | none => .never
  | some latency =>
    if 0 < latency && abortedBy abort (now + latency) then .aborted (abort.getD now)
    else .answered (now + latency) answer.outcome

namespace RetryPolicy

variable {σ : Type}

/-- A call from a time on, with so many retries left and a running delay. -/
def runFrom (policy : RetryPolicy) (abort : Option Nat) (network : Network σ) (retries : Nat)
    (delay : Binary64) (now : Nat) (state : σ) : CallTrace × σ :=
  if abortedBy abort now then (⟨[], 0, .aborted now⟩, state)
  else
    let (answer, state) := network now state
    match arrival abort now answer with
    | .never => (⟨[now], 0, .never⟩, state)
    | .aborted time => (⟨[now], 0, .aborted time⟩, state)
    | .answered time outcome =>
      match retries, policy.again? delay outcome with
      | retries + 1, some next =>
        let resume := time + waitMillis next.wait
        if time < resume && abortedBy abort resume then
          (⟨[now], 1, .aborted (abort.getD time)⟩, state)
        else
          let (trace, state) := runFrom policy abort network retries next.nextDelay resume state
          (⟨now :: trace.attempts, trace.retries + 1, trace.ending⟩, state)
      | _, _ => (⟨[now], 0, .at time outcome⟩, state)

/-- A call from its first attempt on. -/
def run (policy : RetryPolicy) (abort : Option Nat) (network : Network σ) (method : Method)
    (now : Nat) (state : σ) : CallTrace × σ :=
  runFrom policy abort network (policy.retryBudget method).toNat policy.initialDelay now state

end RetryPolicy

end EdgeSetup
