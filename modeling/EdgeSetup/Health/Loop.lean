import EdgeSetup.Health.Probe
import EdgeSetup.Session.World

/-!
# The ping loop

Pings the API server at a fixed period until it is told to stop. The first ping is due at once. A
ping that starts late by more than the tolerance of the timer moves the later ones back; a shorter
delay does not.
-/

namespace EdgeSetup

/-- How late a ping may start, in milliseconds, without moving the later ones back. -/
def timerTolerance : Nat := 5

/-- When the ping after one is due. -/
def nextDue (period due started : Nat) : Nat :=
  if due + timerTolerance < started then started + period else due + period

theorem lt_nextDue {period due started : Nat} (h : 0 < period) (hdue : due ≤ started) :
    due < nextDue period due started := by
  unfold nextDue
  split <;> omega

namespace HealthMonitor

variable {σ : Type}

/-- Pings from a due time on until the loop is stopped; a ping that is under way is finished
first. A loop that hangs in a ping never ends. -/
def pingUntil (monitor : HealthMonitor) (outside : Outside σ) {period : Nat} (positive : 0 < period)
    (stop due : Nat) (health : Health) (world : World σ) : Option (Health × World σ) :=
  if _ : max world.now due < stop then
    let start := max world.now due
    match (monitor.ping.run health).run outside { world with now := start } with
    | none => none
    | some ((_, after), reached) =>
      pingUntil monitor outside positive stop (nextDue period due start) after reached
  else some (health, { world with now := max world.now stop })
termination_by stop - due
decreasing_by
  have late : due ≤ max world.now due := Nat.le_max_right ..
  have early : due < stop := Nat.lt_of_le_of_lt late ‹_›
  exact Nat.sub_lt_sub_left early (lt_nextDue positive late)

end HealthMonitor

end EdgeSetup
