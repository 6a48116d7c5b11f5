import EdgeSetup.Proofs.Cluster.Tokens
import EdgeSetup.Proofs.Retry.Settling
import Mathlib.Logic.Function.Iterate

/-!
# The backoff schedule

The running delay of a call is overwritten by an answer, waited for, and advanced. What is waited
after an attempt therefore follows from the last answer that overrode the delay, and from the
initial delay when there was none (`waitFrom_of_override`, `waitFrom_of_none`).

**Main theorem (`run_backoff`)**: the attempts of a call keep this schedule (`Backoff`). All else
about an answer that can move an attempt is its latency and whether it is repeated at all
(`runFrom_congr`).
-/

namespace EdgeSetup

open Http

/-- When an ending comes, if it does. -/
def Ending.time? : Ending → Option Nat
  | .never => none
  | .at time _ => some time

/-- Two calls made their attempts at the same times, and ended at the same time. -/
def CallTrace.SameTimes (trace trace' : CallTrace) : Prop :=
  trace.attempts = trace'.attempts ∧ trace.ending.time? = trace'.ending.time?

/-- The answer without a Retry-After header. -/
def Answer.withoutRetryAfter (answer : Answer) : Answer :=
  { answer with
    outcome := answer.outcome.map fun response =>
      { response with headers := response.headers.without "retry-after" } }

namespace RetryPolicy

variable {policy : RetryPolicy} {outcomes : Nat → Outcome} {answers answers' : Nat → Answer}

/-! ## Delays -/

/-- The delay that an outcome asks for: that in the Retry-After header of a retryable status. -/
def override? (policy : RetryPolicy) : Outcome → Option Binary64
  | .ok response =>
    if response.status ∈ retryableStatuses then
      policy.retryAfter.overrideDelay? (response.headers.getText? "retry-after")
    else none
  | .error _ => none

/-- A call waits what the outcome asks for, and else the running delay. -/
theorem again?_of_passing {outcome : Outcome} (h : Passing outcome) (delay : Binary64) :
    policy.again? delay outcome =
      some ⟨(policy.override? outcome).getD delay,
        policy.nextDelay ((policy.override? outcome).getD delay)⟩ := by
  have hdelay : policy.delayAfter delay outcome = (policy.override? outcome).getD delay := by
    cases h with
    | status listed => rw [delayAfter, override?, if_pos listed]
    | failure kind => rfl
  rw [again?, if_pos (isTransient_iff.2 h), hdelay]

/-- What is waited after the outcome of each number, when the running delay is `delay` before the
first one. -/
def waitFrom (policy : RetryPolicy) (outcomes : Nat → Outcome) (delay : Binary64) : Nat → Binary64
  | 0 => (policy.override? (outcomes 0)).getD delay
  | i + 1 =>
    (policy.override? (outcomes (i + 1))).getD (policy.nextDelay (policy.waitFrom outcomes delay i))

/-- What a call waits after the attempt of each number, in milliseconds. The clock rounds it
(`waitMillis`). -/
def waitAfter (policy : RetryPolicy) (outcomes : Nat → Outcome) : Nat → Binary64 :=
  policy.waitFrom outcomes policy.initialDelay

theorem waitFrom_succ (delay : Binary64) (i : Nat) :
    policy.waitFrom outcomes delay (i + 1) =
      policy.waitFrom (fun j => outcomes (j + 1))
        (policy.nextDelay ((policy.override? (outcomes 0)).getD delay)) i := by
  induction i with
  | zero => rfl
  | succ i ih => rw [waitFrom, ih, waitFrom]

theorem waitFrom_of_override {delay value : Binary64} {m : Nat}
    (hm : policy.override? (outcomes m) = some value) (k : Nat)
    (hlater : ∀ j, m < j → j ≤ m + k → policy.override? (outcomes j) = none) :
    policy.waitFrom outcomes delay (m + k) = policy.nextDelay^[k] value := by
  induction k with
  | zero => cases m <;> simp [waitFrom, hm]
  | succ k ih =>
    rw [← Nat.add_assoc, waitFrom, hlater (m + k + 1) (by omega) (by omega), Option.getD_none,
      ih fun j hj hle => hlater j hj (by omega), Function.iterate_succ_apply']

theorem waitFrom_of_none {delay : Binary64} {i : Nat}
    (hnone : ∀ j, j ≤ i → policy.override? (outcomes j) = none) :
    policy.waitFrom outcomes delay i = policy.nextDelay^[i] delay := by
  induction i with
  | zero => rw [waitFrom, hnone 0 (Nat.le_refl 0), Option.getD_none, Function.iterate_zero_apply]
  | succ i ih =>
    rw [waitFrom, hnone (i + 1) (Nat.le_refl _), Option.getD_none,
      ih fun j hj => hnone j (by omega), Function.iterate_succ_apply']

/-- An override is waited for itself. -/
theorem waitAfter_of_override {value : Binary64} {i : Nat}
    (h : policy.override? (outcomes i) = some value) : policy.waitAfter outcomes i = value :=
  waitFrom_of_override h 0 fun _ _ _ => by omega

/-- From an override on, two schedules with the same overrides are the same, whatever came
before and however many attempts that took. -/
theorem waitFrom_forgets {policy' : RetryPolicy} {outcomes' : Nat → Outcome}
    {delay delay' : Binary64} {m m' : Nat}
    (hmultiplier : policy'.backoffMultiplier = policy.backoffMultiplier)
    (hm : policy.override? (outcomes m) ≠ none) (k : Nat)
    (hsame : ∀ j, j ≤ k →
      policy'.override? (outcomes' (m' + j)) = policy.override? (outcomes (m + j))) :
    policy'.waitFrom outcomes' delay' (m' + k) = policy.waitFrom outcomes delay (m + k) := by
  induction k with
  | zero =>
    obtain ⟨value, hvalue⟩ := Option.ne_none_iff_exists'.1 hm
    have hvalue' := (hsame 0 (Nat.le_refl 0)).trans hvalue
    cases m <;> cases m' <;> simp_all [waitFrom]
  | succ k ih =>
    have hnext : policy'.nextDelay = policy.nextDelay := by
      funext delay
      rw [nextDelay, nextDelay, hmultiplier]
    rw [← Nat.add_assoc, ← Nat.add_assoc, waitFrom, waitFrom, Nat.add_assoc, Nat.add_assoc,
      hsame (k + 1) (Nat.le_refl _), hnext, ih fun j hj => hsame j (by omega)]

/-- A wait of zero is followed by one of 100 milliseconds, unless the next outcome asks for
another. -/
theorem waitFrom_after_zero {delay : Binary64} {i : Nat}
    (hzero : (policy.waitFrom outcomes delay i).isZero = true)
    (hnone : policy.override? (outcomes (i + 1)) = none) :
    policy.waitFrom outcomes delay (i + 1) = 100 := by
  rw [waitFrom, hnone, Option.getD_none, nextDelay, if_pos hzero, minimalDelay]

/-! ## Attempts -/

/-- The network that plays a sequence of answers; its state is the number of the next one. -/
def answering (answers : Nat → Answer) : Network Nat := fun _ i => (answers i, i + 1)

/-- What a call does with retries left and a running delay, from the answer of a number on. -/
def playFrom (policy : RetryPolicy) (answers : Nat → Answer) (retries : Nat) (delay : Binary64)
    (now first : Nat) : CallTrace :=
  (policy.runFrom none (answering answers) retries delay now first).1

section Cases

variable {retries left latency now first : Nat} {delay : Binary64}

theorem playFrom_of_hangs (h : (answers first).latency = none) :
    policy.playFrom answers retries delay now first = ⟨[now], 0, .never⟩ := by
  rw [playFrom, runFrom_none]
  simp only [answering, h]

theorem playFrom_of_last (h : (answers first).latency = some latency)
    (hlast : retries = 0 ∨ ¬ Passing (answers first).outcome) :
    policy.playFrom answers retries delay now first =
      ⟨[now], 0, .at (now + latency) (answers first).outcome⟩ := by
  rw [playFrom, runFrom_none]
  rcases following?_cases policy retries delay (answers first).outcome with
    ⟨hnone, -⟩ | ⟨left, next, -, rfl, hpassing⟩
  · simp only [answering, h, hnone]
  · rcases hlast with hzero | hlast
    · cases hzero
    · exact absurd hpassing hlast

theorem playFrom_of_passing (h : (answers first).latency = some latency)
    (hpassing : Passing (answers first).outcome) {wait : Binary64}
    (hwait : (policy.override? (answers first).outcome).getD delay = wait) {later : CallTrace}
    (hlater : policy.playFrom answers left (policy.nextDelay wait)
      (now + latency + waitMillis wait) (first + 1) = later) :
    policy.playFrom answers (left + 1) delay now first =
      ⟨now :: later.attempts, later.retries + 1, later.ending⟩ := by
  subst hwait hlater
  rw [playFrom, runFrom_none]
  simp only [answering, h, following?, again?_of_passing hpassing]
  rfl

/-- An answer never comes, or is the last one, or is followed by another attempt. -/
theorem answer_cases (answers : Nat → Answer) (retries first : Nat) :
    (answers first).latency = none ∨
      (∃ latency, (answers first).latency = some latency ∧
        (retries = 0 ∨ ¬ Passing (answers first).outcome)) ∨
      ∃ latency left, (answers first).latency = some latency ∧ retries = left + 1 ∧
        Passing (answers first).outcome := by
  cases hlatency : (answers first).latency with
  | none => exact .inl rfl
  | some latency =>
    by_cases hpassing : Passing (answers first).outcome
    · cases retries with
      | zero => exact .inr (.inl ⟨latency, rfl, .inl rfl⟩)
      | succ left => exact .inr (.inr ⟨latency, left, rfl, rfl, hpassing⟩)
    · exact .inr (.inl ⟨latency, rfl, .inr hpassing⟩)

end Cases

/-- The attempts of a call begin at once, and each other one begins when what is waited after the
one before is over. -/
theorem playFrom_attempts (policy : RetryPolicy) (answers : Nat → Answer) (retries : Nat)
    (delay : Binary64) (now first : Nat) :
    (policy.playFrom answers retries delay now first).attempts[0]? = some now ∧
      ∀ i time,
        (policy.playFrom answers retries delay now first).attempts[i + 1]? = some time →
          ∃ before latency,
            (policy.playFrom answers retries delay now first).attempts[i]? = some before ∧
            (answers (first + i)).latency = some latency ∧
            time = before + latency +
              waitMillis (policy.waitFrom (fun j => (answers (first + j)).outcome) delay i) := by
  induction retries using Nat.strongRecOn generalizing delay now first with
  | ind retries ih =>
    rcases answer_cases answers retries first with
      hlatency | ⟨latency, hlatency, hlast⟩ | ⟨latency, left, hlatency, rfl, hpassing⟩
    · rw [playFrom_of_hangs hlatency]
      exact ⟨rfl, nofun⟩
    · rw [playFrom_of_last hlatency hlast]
      exact ⟨rfl, nofun⟩
    · generalize hwait : (policy.override? (answers first).outcome).getD delay = wait
      obtain ⟨hfirst, hnext⟩ := ih left (Nat.lt_succ_self left) (policy.nextDelay wait)
        (now + latency + waitMillis wait) (first + 1)
      rw [playFrom_of_passing hlatency hpassing hwait rfl]
      refine ⟨rfl, fun i time htime => ?_⟩
      rw [List.getElem?_cons_succ] at htime
      cases i with
      | zero =>
        rw [hfirst] at htime
        cases htime
        exact ⟨now, latency, rfl, hlatency, by rw [waitFrom, Nat.add_zero, hwait]⟩
      | succ i =>
        obtain ⟨before, latency', hbefore, hlatency', htime'⟩ := hnext i time htime
        have hshift : (fun j => (answers (first + (j + 1))).outcome) =
            fun j => (answers (first + 1 + j)).outcome := by
          funext j
          rw [Nat.add_assoc, Nat.add_comm 1]
        refine ⟨before, latency', hbefore, ?_, ?_⟩
        · rw [← hlatency', Nat.add_assoc, Nat.add_comm 1]
        · rw [htime', waitFrom_succ, hshift]
          simp only [Nat.add_zero, hwait]

theorem playFrom_attempts_pos (policy : RetryPolicy) (answers : Nat → Answer) (retries : Nat)
    (delay : Binary64) (now first : Nat) :
    0 < (policy.playFrom answers retries delay now first).attempts.length := by
  obtain ⟨hfirst, -⟩ := policy.playFrom_attempts answers retries delay now first
  exact (List.getElem?_eq_some_iff.1 hfirst).1

/-- **What moves the attempts of a call**: the latencies, whether outcomes pass, and the overrides
of all answers but the last. Calls that agree in these keep the same times. -/
theorem playFrom_congr (policy : RetryPolicy) {answers answers' : Nat → Answer} {retries : Nat}
    (delay : Binary64) (now first : Nat)
    (hmade : ∀ i, i < (policy.playFrom answers retries delay now first).attempts.length →
      (answers' (first + i)).latency = (answers (first + i)).latency ∧
        (Passing (answers' (first + i)).outcome ↔ Passing (answers (first + i)).outcome))
    (hrepeated : ∀ i, i + 1 < (policy.playFrom answers retries delay now first).attempts.length →
      policy.override? (answers' (first + i)).outcome =
        policy.override? (answers (first + i)).outcome) :
    (policy.playFrom answers' retries delay now first).SameTimes
      (policy.playFrom answers retries delay now first) := by
  induction retries using Nat.strongRecOn generalizing delay now first with
  | ind retries ih =>
    obtain ⟨hlatency', hpassing'⟩ := hmade 0 (policy.playFrom_attempts_pos ..)
    rw [Nat.add_zero] at hlatency' hpassing'
    rcases answer_cases answers retries first with
      hlatency | ⟨latency, hlatency, hlast⟩ | ⟨latency, left, hlatency, rfl, hpassing⟩
    · rw [playFrom_of_hangs hlatency, playFrom_of_hangs (hlatency'.trans hlatency)]
      exact ⟨rfl, rfl⟩
    · have hlast' : retries = 0 ∨ ¬ Passing (answers' first).outcome := by
        rwa [hpassing']
      rw [playFrom_of_last hlatency hlast, playFrom_of_last (hlatency'.trans hlatency) hlast']
      exact ⟨rfl, rfl⟩
    · generalize hwait : (policy.override? (answers first).outcome).getD delay = wait
      have hpos := policy.playFrom_attempts_pos answers left (policy.nextDelay wait)
        (now + latency + waitMillis wait) (first + 1)
      have hnumber : ∀ i, first + 1 + i = first + (i + 1) := fun i => by omega
      rw [playFrom_of_passing hlatency hpassing hwait rfl] at hmade hrepeated ⊢
      simp only [List.length_cons] at hmade hrepeated
      -- The first answer is not the last one, so its override counts.
      have hwait' : (policy.override? (answers' first).outcome).getD delay = wait := by
        have hoverride := hrepeated 0 (by omega)
        rw [Nat.add_zero] at hoverride
        rw [hoverride, hwait]
      obtain ⟨hattempts, htime⟩ := ih left (Nat.lt_succ_self left) (policy.nextDelay wait)
        (now + latency + waitMillis wait) (first + 1)
        (fun i hi => by rw [hnumber]; exact hmade (i + 1) (by omega))
        (fun i hi => by rw [hnumber]; exact hrepeated (i + 1) (by omega))
      rw [playFrom_of_passing (hlatency'.trans hlatency) (hpassing'.2 hpassing) hwait' rfl]
      exact ⟨congrArg (now :: ·) hattempts, htime⟩

/-! ## Calls -/

/-- What a call does that starts at a time and meets a sequence of answers. -/
def play (policy : RetryPolicy) (method : Method) (answers : Nat → Answer) (start : Nat) :
    CallTrace :=
  (policy.run none (answering answers) method start 0).1

theorem play_eq (policy : RetryPolicy) (method : Method) (answers : Nat → Answer) (start : Nat) :
    policy.play method answers start =
      policy.playFrom answers (policy.namedRetries method) policy.initialDelay start 0 := by
  rw [play, run, retryBudget_toNat, playFrom]

/-- Each attempt but the first begins when what is waited after the one before is over. -/
theorem play_next {method : Method} {start i time : Nat}
    (h : (policy.play method answers start).attempts[i + 1]? = some time) :
    ∃ before latency, (policy.play method answers start).attempts[i]? = some before ∧
      (answers i).latency = some latency ∧
      time = before + latency + waitMillis (policy.waitAfter (fun j => (answers j).outcome) i) := by
  obtain ⟨-, hnext⟩ := policy.playFrom_attempts answers (policy.namedRetries method)
    policy.initialDelay start 0
  simp only [Nat.zero_add] at hnext
  rw [play_eq] at h ⊢
  exact hnext i time h

/-- Calls that agree in latencies, in which outcomes pass, and in the overrides of all answers but
the last, keep the same times. -/
theorem play_congr {method : Method} {start : Nat}
    (hmade : ∀ i, (answers' i).latency = (answers i).latency ∧
      (Passing (answers' i).outcome ↔ Passing (answers i).outcome))
    (hrepeated : ∀ i, i + 1 < (policy.play method answers start).attempts.length →
      policy.override? (answers' i).outcome = policy.override? (answers i).outcome) :
    (policy.play method answers' start).SameTimes (policy.play method answers start) := by
  rw [play_eq] at hrepeated
  rw [play_eq, play_eq]
  refine policy.playFrom_congr policy.initialDelay start 0 (fun i _ => ?_) fun i hi => ?_
  · rw [Nat.zero_add]
    exact hmade i
  · rw [Nat.zero_add]
    exact hrepeated i hi

/-! ## Headers -/

theorem getText?_without (headers : Headers) (name : String) :
    (headers.without name).getText? name = none := by
  have hlookup : List.lookup (lowerCase name) (headers.without name) = none := by
    rw [List.lookup_eq_none_iff]
    intro header hheader
    have hother : header.1 ≠ lowerCase name := by simpa using (List.mem_filter.1 hheader).2
    simpa using hother.symm
  rw [Headers.getText?, Headers.get?, hlookup, Option.filter_none]

theorem override?_withoutRetryAfter (answer : Answer) :
    policy.override? answer.withoutRetryAfter.outcome = none := by
  unfold Answer.withoutRetryAfter
  cases answer.outcome with
  | error failure => rfl
  | ok response =>
    by_cases hlisted : response.status ∈ retryableStatuses
    · simp [Except.map, override?, getText?_without, RetryAfter.overrideDelay?]
    · simp [Except.map, override?, hlisted]

theorem passing_withoutRetryAfter (answer : Answer) :
    Passing answer.withoutRetryAfter.outcome ↔ Passing answer.outcome := by
  rw [← isTransient_iff, ← isTransient_iff]
  unfold Answer.withoutRetryAfter
  cases answer.outcome <;> rfl

/-! ## The schedule -/

/-- The outcome is repeated, and asks for no delay: a transport error, or a status without an
override. -/
def IsPlain (policy : RetryPolicy) (outcome : Outcome) : Prop :=
  Passing outcome ∧ policy.override? outcome = none

/-- The attempts of a call keep the backoff schedule. -/
structure Backoff (policy : RetryPolicy) (method : Method) (answers : Nat → Answer)
    (start : Nat) : Prop where
  first : (policy.play method answers start).attempts[0]? = some start
  /-- An attempt begins when the wait after the one before is over. -/
  next : ∀ i time, (policy.play method answers start).attempts[i + 1]? = some time →
    ∃ before latency, (policy.play method answers start).attempts[i]? = some before ∧
      (answers i).latency = some latency ∧
      time = before + latency +
        waitMillis (policy.waitAfter (fun j => (answers j).outcome) i)
  /-- The wait is the last override, advanced once for each answer since. -/
  overridden : ∀ m k value, policy.override? (answers m).outcome = some value →
    (∀ j, m < j → j ≤ m + k → policy.override? (answers j).outcome = none) →
      policy.waitAfter (fun j => (answers j).outcome) (m + k) = policy.nextDelay^[k] value
  /-- Without an override it is the initial delay, advanced once for each answer but the first. -/
  initial : ∀ i, (∀ j, j ≤ i → policy.override? (answers j).outcome = none) →
    policy.waitAfter (fun j => (answers j).outcome) i = policy.nextDelay^[i] policy.initialDelay
  /-- Nothing before the last override counts, and neither do the other fields of the policy. -/
  forgets : ∀ (policy' : RetryPolicy) (outcomes' : Nat → Outcome) (m m' k : Nat),
    policy'.backoffMultiplier = policy.backoffMultiplier →
    policy.override? (answers m).outcome ≠ none →
    (∀ j, j ≤ k →
      policy'.override? (outcomes' (m' + j)) = policy.override? (answers (m + j)).outcome) →
      policy'.waitAfter outcomes' (m' + k) =
        policy.waitAfter (fun j => (answers j).outcome) (m + k)
  /-- Transport errors and statuses without an override stand for each other. -/
  plain : ∀ answers' : Nat → Answer, (∀ i, (answers' i).latency = (answers i).latency) →
    (∀ i, (answers' i).outcome = (answers i).outcome ∨
      policy.IsPlain (answers' i).outcome ∧ policy.IsPlain (answers i).outcome) →
      (policy.play method answers' start).SameTimes (policy.play method answers start)
  /-- The last answer can ask for any delay. -/
  last : ∀ (i : Nat) (answer : Answer),
    (policy.play method answers start).attempts.length = i + 1 →
    answer.latency = (answers i).latency →
    (Passing answer.outcome ↔ Passing (answers i).outcome) →
      (policy.play method (Function.update answers i answer) start).SameTimes
        (policy.play method answers start)
  /-- Headers that ask for no delay can be removed. -/
  unread : ∀ removed : Nat → Bool,
    (∀ i, removed i = true → policy.override? (answers i).outcome = none) →
      (policy.play method (fun i => if removed i then (answers i).withoutRetryAfter else answers i)
        start).SameTimes (policy.play method answers start)
  /-- A wait of zero is followed by 100 milliseconds, unless the next answer asks for another. -/
  zero : ∀ i, (policy.waitAfter (fun j => (answers j).outcome) i).isZero = true →
    policy.override? (answers (i + 1)).outcome = none →
      policy.waitAfter (fun j => (answers j).outcome) (i + 1) = 100 ∧ waitMillis 100 = 100

/-- **The attempts of every call keep the backoff schedule.** -/
theorem run_backoff (policy : RetryPolicy) (method : Method) (answers : Nat → Answer)
    (start : Nat) : Backoff policy method answers start := by
  obtain ⟨hfirst, hnext⟩ := policy.playFrom_attempts answers (policy.namedRetries method)
    policy.initialDelay start 0
  simp only [Nat.zero_add] at hnext
  rw [← play_eq] at hfirst hnext
  constructor
  case first => exact hfirst
  case next => exact hnext
  case overridden =>
    intro m k value hm hlater
    exact waitFrom_of_override hm k hlater
  case initial =>
    intro i hnone
    exact waitFrom_of_none hnone
  case forgets =>
    intro policy' outcomes' m m' k hmultiplier hm hsame
    exact waitFrom_forgets hmultiplier hm k hsame
  case plain =>
    intro answers' hlatency halike
    refine play_congr (fun i => ⟨hlatency i, ?_⟩) fun i _ => ?_
    · rcases halike i with hsame | ⟨⟨hpassing', -⟩, hpassing, -⟩
      · rw [hsame]
      · exact iff_of_true hpassing' hpassing
    · rcases halike i with hsame | ⟨⟨-, hnone'⟩, -, hnone⟩
      · rw [hsame]
      · rw [hnone', hnone]
  case last =>
    intro i answer hlength hlatency hpassing
    refine play_congr (fun j => ?_) fun j hj => ?_
    · by_cases hlast : j = i
      · subst hlast
        rw [Function.update_self]
        exact ⟨hlatency, hpassing⟩
      · rw [Function.update_of_ne hlast]
        exact ⟨rfl, Iff.rfl⟩
    · rw [Function.update_of_ne (by omega)]
  case unread =>
    intro removed hnone
    refine play_congr (fun i => ?_) fun i _ => ?_
    · by_cases hremoved : removed i = true
      · rw [if_pos hremoved]
        exact ⟨rfl, passing_withoutRetryAfter (answers i)⟩
      · rw [if_neg hremoved]
        exact ⟨rfl, Iff.rfl⟩
    · by_cases hremoved : removed i = true
      · rw [if_pos hremoved, override?_withoutRetryAfter, hnone i hremoved]
      · rw [if_neg hremoved]
  case zero =>
    intro i hzero hnone
    exact ⟨waitFrom_after_zero hzero hnone, by decide +kernel⟩

/-- A header that is no number zeroes the delay, and the next wait is the least one. -/
example :
    (standard.play .get
      (fun i => ⟨some 0, .ok ⟨if i < 2 then 503 else 200,
        if i = 0 then [("retry-after", "later")] else [], ""⟩⟩) 0).attempts = [0, 0, 100] := by
  decide +kernel

end RetryPolicy

end EdgeSetup
