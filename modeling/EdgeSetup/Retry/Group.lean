import EdgeSetup.Retry.Call

/-!
# Calls side by side

Several calls that start together share one clock and one network. The attempt that is due first
is always made next, and of attempts due together the one of the earlier call. Each call waits out
its own delays, so no call holds up another.
-/

namespace EdgeSetup

open Http

/-- A call among others. -/
inductive Flight where
  /-- An attempt is due. -/
  | waiting (retries : Nat) (delay : Binary64) (due : Nat)
  | ended (ending : Ending)

/-- What several calls did. -/
structure GroupTrace where
  /-- The number of attempts of all calls. -/
  attempts : Nat
  /-- The number of retries of all calls. -/
  retries : Nat
  endings : List Ending

namespace Flight

/-- When the next attempt of a call is due. -/
def due? : Flight → Option Nat
  | waiting _ _ due => some due
  | ended _ => none

/-- The most attempts that a call can still make. -/
def attemptsLeft : Flight → Nat
  | waiting retries _ _ => retries + 1
  | ended _ => 0

/-- How a call ended; one that has not ended never will. -/
def ending : Flight → Ending
  | waiting _ _ _ => .never
  | ended ending => ending

end Flight

/-- The place of the first flight among those due earliest, with the time. -/
def earliest? : List Flight → Option (Nat × Nat)
  | [] => none
  | flight :: rest =>
    let later := (earliest? rest).map (fun (i, due) => (i + 1, due))
    match flight.due?, later with
    | none, _ => later
    | some due, none => some (0, due)
    | some due, some (i, other) => if other < due then some (i, other) else some (0, due)

namespace RetryPolicy

variable {σ : Type}

/-- One attempt of a call, and what becomes of the call; tells also whether it will be retried. -/
def fly (policy : RetryPolicy) (network : Network σ) (retries : Nat) (delay : Binary64)
    (now : Nat) (state : σ) : Flight × Bool × σ :=
  let (answer, state) := network now state
  match arrival none now answer with
  | .never | .aborted _ => (.ended .never, false, state)
  | .answered time outcome =>
    match retries, policy.again? delay outcome with
    | retries + 1, some next =>
      (.waiting retries next.nextDelay (time + waitMillis next.wait), true, state)
    | _, _ => (.ended (.at time outcome), false, state)

/-- Makes the attempts that are due, earliest first. `fuel` bounds their number. -/
def runGroup (policy : RetryPolicy) (networks : List (Network σ)) :
    (fuel : Nat) → List Flight → σ → GroupTrace × σ
  | 0, flights, state => (⟨0, 0, flights.map Flight.ending⟩, state)
  | fuel + 1, flights, state =>
    match earliest? flights with
    | none => (⟨0, 0, flights.map Flight.ending⟩, state)
    | some (i, now) =>
      match networks[i]?, flights[i]? with
      | some network, some (.waiting retries delay _) =>
        let (flight, again, state) := policy.fly network retries delay now state
        let (trace, state) := runGroup policy networks fuel (flights.set i flight) state
        (⟨trace.attempts + 1, trace.retries + again.toNat, trace.endings⟩, state)
      | _, _ => (⟨0, 0, flights.map Flight.ending⟩, state)

/-- Several calls that start together, each with its own network view and method. -/
def runAll (policy : RetryPolicy) (calls : List (Network σ × Method)) (now : Nat) (state : σ) :
    GroupTrace × σ :=
  let flights := calls.map fun call =>
    Flight.waiting (policy.retryBudget call.2).toNat policy.initialDelay now
  let attempts := flights.foldr (fun flight rest => flight.attemptsLeft + rest) 0
  runGroup policy (calls.map Prod.fst) attempts flights state

end RetryPolicy

end EdgeSetup
