import EdgeSetup.Proofs.Retry.Groups
import EdgeSetup.Proofs.Retry.Settling
import Mathlib.Logic.Function.Basic

/-!
# Calls with answers of their own

Calls are made side by side, and each meets answers of its own. Latencies and waits decide whose
attempt is next, and so in which order the calls are done.

**The order does not matter** (`runAll_own`). Every call ends, with the outcome that its own answers
settle it with; no latency and no answer to another call has a part in that. The invariant is the
outcome that a call is bound for (`Flight.bound?`): an attempt of one call keeps it for all.
-/

namespace EdgeSetup

open Http

/-- The outcome of a call that ended. -/
def Ending.outcome? : Ending → Option Outcome
  | .never => none
  | .at _ outcome => some outcome

/-- The outcome of the attempt that settles a call with so many retries. -/
def settledOutcome (retries : Nat) (outcomes : Nat → Outcome) : Outcome :=
  outcomes (settlingAttempt retries outcomes - 1)

theorem settledOutcome_of_last {retries : Nat} {outcomes : Nat → Outcome}
    (h : retries = 0 ∨ ¬ Passing (outcomes 0)) : settledOutcome retries outcomes = outcomes 0 := by
  unfold settledOutcome
  rcases h with rfl | h
  · rw [settlingAttempt_zero]
  · rw [settlingAttempt_of_not_passing h]

theorem settledOutcome_of_passing {retries : Nat} {outcomes : Nat → Outcome}
    (h : Passing (outcomes 0)) :
    settledOutcome (retries + 1) outcomes =
      settledOutcome retries (fun i => outcomes (i + 1)) := by
  have hpos : 0 < settlingAttempt retries (fun i => outcomes (i + 1)) := settlingAttempt_pos
  unfold settledOutcome
  rw [settlingAttempt_of_passing h, Nat.add_sub_cancel]
  dsimp only
  rw [Nat.sub_add_cancel hpos]

/-- The outcome that a call is bound for after so many attempts, given all answers to it. -/
def Flight.bound? (answers : Nat → Answer) (made : Nat) : Flight → Option Outcome
  | .waiting retries _ _ => some (settledOutcome retries fun i => (answers (made + i)).outcome)
  | .ended ending => ending.outcome?

namespace RetryPolicy

/-- The network of the call at a place, when each call has answers of its own. The state counts the
attempts of each call. -/
def ownNetwork (answers : Nat → Nat → Answer) (place : Nat) : Network (Nat → Nat) :=
  fun _ made => (answers place (made place), Function.update made place (made place + 1))

/-- Calls with answers of their own. -/
def ownCalls (answers : Nat → Nat → Answer) (requests : List Request) :
    List (Network (Nat → Nat) × Method) :=
  requests.mapIdx fun place request => (ownNetwork answers place, request.method)

variable {policy : RetryPolicy} {answers : Nat → Nat → Answer}

/-- An attempt leaves its call bound for the same outcome. -/
theorem fly_bound? {place : Nat} {made : Nat → Nat}
    (hanswered : (answers place (made place)).latency ≠ none) (retries : Nat) (delay : Binary64)
    (now : Nat) :
    (policy.fly (ownNetwork answers place) retries delay now made).1.bound? (answers place)
        (made place + 1) =
      (Flight.waiting retries delay now).bound? (answers place) (made place) := by
  rw [fly_eq]
  simp only [ownNetwork]
  cases hlatency : (answers place (made place)).latency with
  | none => exact absurd hlatency hanswered
  | some latency =>
    rcases following?_cases policy retries delay (answers place (made place)).outcome with
      ⟨hnone, hlast⟩ | ⟨left, next, hsome, rfl, hpassing⟩
    · simp only [hnone, Flight.bound?, Ending.outcome?]
      rw [settledOutcome_of_last hlast, Nat.add_zero]
    · simp only [hsome, Flight.bound?]
      rw [settledOutcome_of_passing hpassing]
      simp only [Nat.add_assoc, Nat.add_comm 1]

theorem bound?_of_ended {flights : List Flight}
    (hended : ∀ flight ∈ flights, ∃ ending, flight = .ended ending)
    (answers : Nat → Nat → Answer) (made : Nat → Nat) :
    (flights.map Flight.ending).map Ending.outcome? =
      flights.mapIdx fun place flight => flight.bound? (answers place) (made place) := by
  refine List.ext_getElem (by simp) fun place hleft _ => ?_
  have hplace : place < flights.length := by simpa using hleft
  obtain ⟨ending, hending⟩ := hended flights[place] (List.getElem_mem hplace)
  simp [hending, Flight.ending, Flight.bound?]

/-- A group comes to what its calls are bound for. -/
theorem runGroup_own (hanswers : ∀ place i, (answers place i).latency ≠ none)
    {networks : List (Network (Nat → Nat))}
    (hown : ∀ place network, networks[place]? = some network → network = ownNetwork answers place)
    {flights : List Flight} (hlength : networks.length = flights.length) {fuel : Nat}
    (hfuel : attemptsLeft flights ≤ fuel) (made : Nat → Nat) :
    (policy.runGroup networks fuel flights made).1.endings.map Ending.outcome? =
      flights.mapIdx fun place flight => flight.bound? (answers place) (made place) := by
  induction fuel generalizing flights made with
  | zero => exact bound?_of_ended (ended_of_attemptsLeft (Nat.le_zero.1 hfuel)) answers made
  | succ fuel ih =>
    rcases policy.runGroup_succ fuel made hlength with
      ⟨hnone, hrun⟩ | ⟨place, now, network, retries, delay, hnetwork, hflight, hrun, -⟩
    · rw [hrun]
      exact bound?_of_ended (earliest?_eq_none hnone) answers made
    · have hless := attemptsLeft_set_lt hflight
        (policy.fly_attemptsLeft network retries delay now made)
      rw [hrun, ih (by rw [List.length_set]; exact hlength) (by omega)]
      obtain rfl := hown place network hnetwork
      refine List.ext_getElem? fun other => ?_
      simp only [List.getElem?_mapIdx, ownNetwork]
      by_cases hother : place = other
      · subst hother
        have hplace := (List.getElem?_eq_some_iff.1 hflight).1
        rw [List.getElem?_set_self hplace, hflight, Option.map_some, Option.map_some,
          Function.update_self, fly_bound? (hanswers place (made place))]
      · rw [List.getElem?_set_ne hother, Function.update_of_ne (Ne.symm hother)]

/-- **Calls with answers of their own are settled each by its own answers**, in whatever order
they are done. -/
theorem runAll_own (policy : RetryPolicy) (hanswers : ∀ place i, (answers place i).latency ≠ none)
    (requests : List Request) (start : Nat) :
    (policy.runAll (ownCalls answers requests) start fun _ => 0).1.endings.map Ending.outcome? =
      requests.mapIdx fun place request =>
        some (settledOutcome (policy.namedRetries request.method)
          fun i => (answers place i).outcome) := by
  have hown : ∀ place network, ((ownCalls answers requests).map Prod.fst)[place]? = some network →
      network = ownNetwork answers place := by
    intro place network hnetwork
    simp only [ownCalls, List.getElem?_map, List.getElem?_mapIdx] at hnetwork
    cases hrequest : requests[place]? with
    | none => simp [hrequest] at hnetwork
    | some request =>
      simp only [hrequest, Option.map_some, Option.some.injEq] at hnetwork
      exact hnetwork.symm
  refine (runGroup_own hanswers hown (by simp) (Nat.le_refl _) _).trans ?_
  refine List.ext_getElem? fun place => ?_
  simp only [ownCalls, List.getElem?_map, List.getElem?_mapIdx]
  cases requests[place]? with
  | none => rfl
  | some request => simp [Flight.bound?, retryBudget_toNat]

/-- Calls of one method, each with answers of its own. -/
theorem runAll_own_of_method (policy : RetryPolicy)
    (hanswers : ∀ place i, (answers place i).latency ≠ none) {requests : List Request}
    {method : Method} (hmethod : ∀ request ∈ requests, request.method = method) (start : Nat) :
    (policy.runAll (ownCalls answers requests) start fun _ => 0).1.endings.map Ending.outcome? =
      (requests.mapIdx fun place _ => settledOutcome (policy.namedRetries method)
        fun i => (answers place i).outcome).map some := by
  rw [policy.runAll_own hanswers]
  refine List.ext_getElem (by simp) fun place hplace _ => ?_
  have hrequest : place < requests.length := by simpa using hplace
  simp only [List.getElem_mapIdx, List.getElem_map]
  rw [hmethod _ (List.getElem_mem hrequest)]

end RetryPolicy

end EdgeSetup
