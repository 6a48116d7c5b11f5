import EdgeSetup.Retry.Call

/-!
# Single calls

What a call makes of its attempts when nothing aborts it. A call keeps what each attempt keeps and
ends with the outcome of its last attempt (`runFrom_spec`), it ends when every attempt is answered
(`runFrom_ends`), and calls whose attempts are answered alike end alike, whatever the clock shows
(`runFrom_alike`); on one clock they do the same at the same times (`runFrom_same`).
-/

namespace EdgeSetup

open Http

/-- Two calls ended with the same outcome, or neither ended. -/
inductive Ending.Alike : Ending → Ending → Prop where
  | never : Alike .never .never
  | at {time time' : Nat} {outcome : Outcome} : Alike (.at time outcome) (.at time' outcome)

namespace RetryPolicy

variable {σ τ : Type} {policy : RetryPolicy}

/-- How a call with retries left goes on after an outcome: the retries left then, and the
repetition. -/
def following? (policy : RetryPolicy) (retries : Nat) (delay : Binary64) (outcome : Outcome) :
    Option (Nat × Repetition) :=
  match retries, policy.again? delay outcome with
  | retries + 1, some next => some (retries, next)
  | _, _ => none

theorem following?_eq_some {retries left : Nat} {delay : Binary64} {outcome : Outcome}
    {next : Repetition} (h : policy.following? retries delay outcome = some (left, next)) :
    retries = left + 1 := by
  unfold following? at h
  split at h
  · cases h
    rfl
  · cases h

/-- A call that nothing aborts, one attempt at a time. -/
theorem runFrom_none (policy : RetryPolicy) (network : Network σ) (retries : Nat)
    (delay : Binary64) (now : Nat) (state : σ) :
    policy.runFrom none network retries delay now state =
      match (network now state).1.latency with
      | none => (⟨[now], 0, .never⟩, (network now state).2)
      | some latency =>
        match policy.following? retries delay (network now state).1.outcome with
        | none =>
          (⟨[now], 0, .at (now + latency) (network now state).1.outcome⟩, (network now state).2)
        | some (left, next) =>
          let later := policy.runFrom none network left next.nextDelay
            (now + latency + waitMillis next.wait) (network now state).2
          (⟨now :: later.1.attempts, later.1.retries + 1, later.1.ending⟩, later.2) := by
  rw [runFrom]
  cases hlatency : (network now state).1.latency with
  | none => simp [abortedBy, arrival, hlatency]
  | some latency =>
    cases retries with
    | zero => simp [abortedBy, arrival, hlatency, following?]
    | succ left =>
      cases hagain : policy.again? delay (network now state).1.outcome with
      | none => simp [abortedBy, arrival, hlatency, following?, hagain]
      | some next => simp [abortedBy, arrival, hlatency, following?, hagain]

/-- What each attempt keeps, a call keeps, and a call ends with the outcome of its last
attempt. -/
theorem runFrom_spec (policy : RetryPolicy) (network : Network σ) {P : σ → Prop}
    {Q : Outcome → σ → Prop}
    (hstep : ∀ now state, P state →
      P (network now state).2 ∧ Q (network now state).1.outcome (network now state).2)
    (retries : Nat) (delay : Binary64) (now : Nat) {state : σ} (h : P state) :
    P (policy.runFrom none network retries delay now state).2 ∧
      ∀ time outcome, (policy.runFrom none network retries delay now state).1.ending =
        .at time outcome → Q outcome (policy.runFrom none network retries delay now state).2 := by
  induction retries using Nat.strongRecOn generalizing delay now state with
  | ind retries ih =>
    obtain ⟨hkeep, hlast⟩ := hstep now state h
    rw [runFrom_none]
    cases (network now state).1.latency with
    | none => exact ⟨hkeep, nofun⟩
    | some latency =>
      cases hnext : policy.following? retries delay (network now state).1.outcome with
      | none =>
        refine ⟨hkeep, ?_⟩
        rintro time outcome ⟨⟩
        exact hlast
      | some following =>
        have hless := following?_eq_some hnext
        exact ih following.1 (by omega) _ _ hkeep

/-- A call whose attempts are all answered ends. -/
theorem runFrom_ends (policy : RetryPolicy) (network : Network σ)
    (hanswers : ∀ now state, (network now state).1.latency ≠ none)
    (retries : Nat) (delay : Binary64) (now : Nat) (state : σ) :
    ∃ time outcome, (policy.runFrom none network retries delay now state).1.ending =
      .at time outcome := by
  induction retries using Nat.strongRecOn generalizing delay now state with
  | ind retries ih =>
    rw [runFrom_none]
    cases hlatency : (network now state).1.latency with
    | none => exact absurd hlatency (hanswers now state)
    | some latency =>
      cases hnext : policy.following? retries delay (network now state).1.outcome with
      | none => exact ⟨_, _, rfl⟩
      | some following =>
        have hless := following?_eq_some hnext
        exact ih following.1 (by omega) _ _ _

/-- Calls whose attempts are answered alike end alike. -/
theorem runFrom_alike (policy : RetryPolicy) (network : Network σ) (network' : Network τ)
    {R : σ → τ → Prop}
    (hstep : ∀ now now' s t, R s t →
      (network now s).1 = (network' now' t).1 ∧ R (network now s).2 (network' now' t).2)
    (retries : Nat) (delay : Binary64) (now now' : Nat) {s : σ} {t : τ} (h : R s t) :
    Ending.Alike (policy.runFrom none network retries delay now s).1.ending
        (policy.runFrom none network' retries delay now' t).1.ending ∧
      R (policy.runFrom none network retries delay now s).2
        (policy.runFrom none network' retries delay now' t).2 := by
  induction retries using Nat.strongRecOn generalizing delay now now' s t with
  | ind retries ih =>
    obtain ⟨hsame, hkeep⟩ := hstep now now' s t h
    rw [runFrom_none, runFrom_none, ← hsame]
    cases (network now s).1.latency with
    | none => exact ⟨.never, hkeep⟩
    | some latency =>
      cases hnext : policy.following? retries delay (network now s).1.outcome with
      | none => exact ⟨.at, hkeep⟩
      | some following =>
        have hless := following?_eq_some hnext
        exact ih following.1 (by omega) _ _ _ hkeep

/-- The networks answer alike, and keep a relation between their states. -/
def AnswersAlike (R : σ → τ → Prop) (network : Network σ) (network' : Network τ) : Prop :=
  ∀ now s t, R s t →
    (network now s).1 = (network' now t).1 ∧ R (network now s).2 (network' now t).2

/-- Calls that start together and whose attempts are answered alike do the same. -/
theorem runFrom_same (policy : RetryPolicy) {network : Network σ} {network' : Network τ}
    {R : σ → τ → Prop} (halike : AnswersAlike R network network') (retries : Nat)
    (delay : Binary64) (now : Nat) {s : σ} {t : τ} (h : R s t) :
    (policy.runFrom none network retries delay now s).1 =
        (policy.runFrom none network' retries delay now t).1 ∧
      R (policy.runFrom none network retries delay now s).2
        (policy.runFrom none network' retries delay now t).2 := by
  induction retries using Nat.strongRecOn generalizing delay now s t with
  | ind retries ih =>
    obtain ⟨hsame, hkeep⟩ := halike now s t h
    rw [runFrom_none, runFrom_none, ← hsame]
    cases (network now s).1.latency with
    | none => exact ⟨rfl, hkeep⟩
    | some latency =>
      cases hnext : policy.following? retries delay (network now s).1.outcome with
      | none => exact ⟨rfl, hkeep⟩
      | some following =>
        have hless := following?_eq_some hnext
        obtain ⟨hlater, hlast⟩ := ih following.1 (by omega) following.2.nextDelay
          (now + latency + waitMillis following.2.wait) hkeep
        simp only [hlater]
        exact ⟨trivial, hlast⟩

end RetryPolicy

end EdgeSetup
