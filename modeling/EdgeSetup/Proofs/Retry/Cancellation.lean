import EdgeSetup.Proofs.Retry.Calls

/-!
# Aborted calls

A call that is aborted at some moment, beside the same call that nothing aborts. Up to the abort the
two do the same, so the aborted call is the other one cut short.

**Cancellation** (`RetryPolicy.run_cancelled`). A call that would end before the abort is not
affected by it. Any other call ends with the abort, at that moment, and has made exactly those of
its attempts that start earlier. When the abort came before the call, there are none.
-/

namespace EdgeSetup

open Http

/-- A call comes to an end of its own before a moment. -/
inductive Ending.Before (moment : Nat) : Ending → Prop where
  | at {time : Nat} {outcome : Outcome} (early : time < moment) : Before moment (.at time outcome)

@[simp] theorem Ending.before_at {moment time : Nat} {outcome : Outcome} :
    Ending.Before moment (.at time outcome) ↔ time < moment :=
  ⟨fun | .at early => early, .at⟩

@[simp] theorem Ending.not_before_never {moment : Nat} : ¬ Ending.Before moment .never := nofun

instance {moment : Nat} : DecidablePred (Ending.Before moment)
  | .never => .isFalse Ending.not_before_never
  | .at _ _ => decidable_of_iff _ Ending.before_at.symm

/-- The state of a network after attempts at some times. -/
def Network.after {σ : Type} (network : Network σ) (times : List Nat) (state : σ) : σ :=
  times.foldl (fun state time => (network time state).2) state

/-- The attempts of a call come one after the other, from a time on, and before its end. -/
structure CallTrace.From (now : Nat) (trace : CallTrace) : Prop where
  sorted : trace.attempts.Pairwise (· ≤ ·)
  started : ∀ time ∈ trace.attempts, now ≤ time
  ended : ∀ moment, trace.ending.Before moment → now < moment

/-- A call makes no attempt before it starts. -/
theorem CallTrace.From.filter_eq_nil {now moment : Nat} {trace : CallTrace}
    (h : trace.From now) (hle : moment ≤ now) : trace.attempts.filter (· < moment) = [] := by
  rw [List.filter_eq_nil_iff]
  intro time hmem
  have hstarted := h.started time hmem
  simp only [decide_eq_true_eq]
  omega

/-- A call that starts at a time and is aborted at a moment, beside the same call left free. -/
structure CutShort {σ : Type} (network : Network σ) (state : σ) (now moment : Nat)
    (free cut : CallTrace × σ) : Prop where
  /-- The attempts of the free call are made one after the other. -/
  sorted : free.1.attempts.Pairwise (· ≤ ·)
  /-- If the free call ends before the abort, the two are the same. -/
  settled : free.1.ending.Before moment → cut = free
  /-- Otherwise the abort is the end, and cuts off the attempts that do not start before it. -/
  aborted : ¬ free.1.ending.Before moment →
    cut.1.ending = .aborted (max now moment) ∧
      cut.1.attempts = free.1.attempts.filter (· < moment)
  /-- After an abort no attempt is made. -/
  unbegun : moment ≤ now → cut.1.ending = .aborted now ∧ cut.1.attempts = []
  /-- The attempts are what the network meets. -/
  met : cut.2 = network.after cut.1.attempts state

namespace RetryPolicy

variable {σ : Type} {policy : RetryPolicy} {network : Network σ} {retries : Nat}
  {delay : Binary64} {now moment : Nat} {state : σ}

/-! ## One attempt at a time -/

/-- A call that was aborted before it began. -/
theorem runFrom_of_aborted (h : moment ≤ now) :
    policy.runFrom (some moment) network retries delay now state =
      (⟨[], 0, .aborted now⟩, state) := by
  rw [runFrom, abortedBy, decide_eq_true h, if_pos rfl]

/-- A call before its abort, one attempt at a time. -/
theorem runFrom_some (h : now < moment) :
    policy.runFrom (some moment) network retries delay now state =
      match (network now state).1.latency with
      | none => (⟨[now], 0, .aborted moment⟩, (network now state).2)
      | some latency =>
        if moment ≤ now + latency then (⟨[now], 0, .aborted moment⟩, (network now state).2)
        else
          match policy.following? retries delay (network now state).1.outcome with
          | none =>
            (⟨[now], 0, .at (now + latency) (network now state).1.outcome⟩, (network now state).2)
          | some (left, next) =>
            let resume := now + latency + waitMillis next.wait
            if moment ≤ resume then (⟨[now], 1, .aborted moment⟩, (network now state).2)
            else
              let later := policy.runFrom (some moment) network left next.nextDelay resume
                (network now state).2
              (⟨now :: later.1.attempts, later.1.retries + 1, later.1.ending⟩, later.2) := by
  have hnow : ¬ moment ≤ now := by omega
  rw [runFrom]
  cases hlatency : (network now state).1.latency with
  | none => simp [abortedBy, arrival, hlatency, hnow]
  | some latency =>
    by_cases harrival : moment ≤ now + latency
    · have hpos : 0 < latency := by omega
      simp [abortedBy, arrival, hlatency, hnow, harrival, hpos]
    · cases retries with
      | zero => simp [abortedBy, arrival, hlatency, hnow, harrival, following?]
      | succ left =>
        cases hagain : policy.again? delay (network now state).1.outcome with
        | none => simp [abortedBy, arrival, hlatency, hnow, harrival, following?, hagain]
        | some next =>
          by_cases hresume : moment ≤ now + latency + waitMillis next.wait
          · have hwait : 0 < waitMillis next.wait := by omega
            simp [abortedBy, arrival, hlatency, hnow, harrival, following?, hagain, hresume, hwait]
          · simp [abortedBy, arrival, hlatency, hnow, harrival, following?, hagain, hresume]

/-! ## Times and states -/

/-- The attempts of a call that nothing aborts are in order. -/
theorem runFrom_from (policy : RetryPolicy) (network : Network σ) (retries : Nat)
    (delay : Binary64) (now : Nat) (state : σ) :
    (policy.runFrom none network retries delay now state).1.From now := by
  induction retries using Nat.strongRecOn generalizing delay now state with
  | ind retries ih =>
    rw [runFrom_none]
    cases (network now state).1.latency with
    | none => exact ⟨by simp, by simp, by simp⟩
    | some latency =>
      cases hnext : policy.following? retries delay (network now state).1.outcome with
      | none => exact ⟨by simp, by simp, by simp only [Ending.before_at]; omega⟩
      | some following =>
        have hless := following?_eq_some hnext
        have hlater := ih following.1 (by omega) following.2.nextDelay
          (now + latency + waitMillis following.2.wait) (network now state).2
        have hresume : now ≤ now + latency + waitMillis following.2.wait := by omega
        have hstarted : ∀ time ∈ _, now ≤ time := fun time hmem =>
          Nat.le_trans hresume (hlater.started time hmem)
        refine ⟨?sorted, ?started, ?ended⟩
        case sorted => exact List.pairwise_cons.2 ⟨hstarted, hlater.sorted⟩
        case started => exact List.forall_mem_cons.2 ⟨Nat.le_refl now, hstarted⟩
        case ended =>
          exact fun moment hbefore => Nat.lt_of_le_of_lt hresume (hlater.ended moment hbefore)

/-- The network meets the attempts of an aborted call, and nothing else. -/
theorem runFrom_after (policy : RetryPolicy) (network : Network σ) (moment retries : Nat)
    (delay : Binary64) (now : Nat) (state : σ) :
    (policy.runFrom (some moment) network retries delay now state).2 =
      network.after (policy.runFrom (some moment) network retries delay now state).1.attempts
        state := by
  induction retries using Nat.strongRecOn generalizing delay now state with
  | ind retries ih =>
    rcases Nat.lt_or_ge now moment with hnow | hnow
    · rw [runFrom_some hnow]
      cases (network now state).1.latency with
      | none => rfl
      | some latency =>
        dsimp only
        split
        · rfl
        · cases hnext : policy.following? retries delay (network now state).1.outcome with
          | none => rfl
          | some following =>
            have hless := following?_eq_some hnext
            dsimp only
            split
            · rfl
            · exact ih following.1 (by omega) _ _ _
    · rw [runFrom_of_aborted hnow]
      rfl

/-! ## Cut short -/

/-- What an abort that is still to come makes of a call. -/
structure CutAt (moment : Nat) (free cut : CallTrace × σ) : Prop where
  settled : free.1.ending.Before moment → cut = free
  aborted : ¬ free.1.ending.Before moment →
    cut.1.ending = .aborted moment ∧ cut.1.attempts = free.1.attempts.filter (· < moment)

/-- The abort comes during an attempt or the wait after it. -/
theorem CutAt.first {free : CallTrace × σ} {later : List Nat} {retries : Nat} (hnow : now < moment)
    (hending : ¬ free.1.ending.Before moment) (hattempts : free.1.attempts = now :: later)
    (hlater : later.filter (· < moment) = []) :
    CutAt moment free (⟨[now], retries, .aborted moment⟩, state) := by
  refine ⟨fun hbefore => absurd hbefore hending, fun _ => ⟨rfl, ?_⟩⟩
  rw [hattempts, List.filter_cons_of_pos (by simpa using hnow), hlater]

/-- The abort comes after an attempt and the wait after it. -/
theorem CutAt.later {free cut : CallTrace × σ} (hnow : now < moment)
    (h : CutAt moment free cut) :
    CutAt moment (⟨now :: free.1.attempts, free.1.retries + 1, free.1.ending⟩, free.2)
      (⟨now :: cut.1.attempts, cut.1.retries + 1, cut.1.ending⟩, cut.2) := by
  refine ⟨fun hbefore => ?_, fun hbefore => ?_⟩
  · rw [h.settled hbefore]
  · obtain ⟨hending, hattempts⟩ := h.aborted hbefore
    rw [List.filter_cons_of_pos (by simpa using hnow), hattempts]
    exact ⟨hending, rfl⟩

/-- The loop of a call with an abort still to come. -/
theorem runFrom_cut (policy : RetryPolicy) (network : Network σ) (retries : Nat)
    (delay : Binary64) (state : σ) (hnow : now < moment) :
    CutAt moment (policy.runFrom none network retries delay now state)
      (policy.runFrom (some moment) network retries delay now state) := by
  induction retries using Nat.strongRecOn generalizing delay now state with
  | ind retries ih =>
    rw [runFrom_none, runFrom_some hnow]
    cases (network now state).1.latency with
    | none => exact .first hnow Ending.not_before_never rfl rfl
    | some latency =>
      cases hnext : policy.following? retries delay (network now state).1.outcome with
      | none =>
        dsimp only
        by_cases harrival : moment ≤ now + latency
        · rw [if_pos harrival]
          exact .first hnow (by rw [Ending.before_at]; omega) rfl rfl
        · rw [if_neg harrival]
          exact ⟨fun _ => rfl, fun hbefore => absurd (.at (by omega)) hbefore⟩
      | some following =>
        obtain ⟨left, next⟩ := following
        have hless := following?_eq_some hnext
        dsimp only
        generalize hresume : now + latency + waitMillis next.wait = resume
        have hlater := policy.runFrom_from network left next.nextDelay resume (network now state).2
        by_cases hcut : moment ≤ resume
        · -- What follows the wait starts too late to count, whenever in the step the abort comes.
          have hending : ¬ Ending.Before moment _ := fun hbefore =>
            Nat.not_lt.2 hcut (hlater.ended moment hbefore)
          have hnone := hlater.filter_eq_nil hcut
          by_cases harrival : moment ≤ now + latency
          · rw [if_pos harrival]
            exact .first hnow hending rfl hnone
          · rw [if_neg harrival, if_pos hcut]
            exact .first hnow hending rfl hnone
        · rw [if_neg (show ¬ moment ≤ now + latency by omega), if_neg hcut]
          exact .later hnow (ih left (by omega) next.nextDelay _ (Nat.lt_of_not_le hcut))

/-- **An aborted call is the same call cut short.** -/
theorem run_cancelled (policy : RetryPolicy) (network : Network σ) (method : Method)
    (moment now : Nat) (state : σ) :
    CutShort network state now moment (policy.run none network method now state)
      (policy.run (some moment) network method now state) := by
  have hfrom : (policy.run none network method now state).1.From now :=
    policy.runFrom_from network _ _ now state
  have hmet : (policy.run (some moment) network method now state).2 =
      network.after (policy.run (some moment) network method now state).1.attempts state :=
    policy.runFrom_after network moment _ _ now state
  rcases Nat.lt_or_ge now moment with hnow | hnow
  · have hcutAt : CutAt moment (policy.run none network method now state)
        (policy.run (some moment) network method now state) :=
      policy.runFrom_cut network _ _ state hnow
    refine ⟨hfrom.sorted, hcutAt.settled, ?_, by omega, hmet⟩
    rw [Nat.max_eq_right (Nat.le_of_lt hnow)]
    exact hcutAt.aborted
  · have hcut : policy.run (some moment) network method now state =
        (⟨[], 0, .aborted now⟩, state) := runFrom_of_aborted hnow
    have hunbegun : (policy.run (some moment) network method now state).1.ending = .aborted now ∧
        (policy.run (some moment) network method now state).1.attempts = [] := by
      rw [hcut]
      exact ⟨rfl, rfl⟩
    have hnone : (policy.run none network method now state).1.attempts.filter (· < moment) = [] :=
      hfrom.filter_eq_nil hnow
    refine ⟨hfrom.sorted, fun hbefore => ?_, fun _ => ?_, fun _ => hunbegun, hmet⟩
    · have hended := hfrom.ended moment hbefore
      omega
    · rw [Nat.max_eq_left hnow, hnone]
      exact hunbegun

/-- A read finds the service unavailable and is answered by its second attempt. An abort after that
changes nothing, one during the wait cuts off the second attempt, and one at the start cuts off
both. -/
theorem run_cancelled_waiting :
    let network : Network Nat := fun _ i =>
      (⟨some 5, .ok ⟨if i = 0 then 503 else 200, [], ""⟩⟩, i + 1)
    (standard.run none network .get 0 0).1.attempts = [0, 1005] ∧
      ((standard.run none network .get 0 0).1.ending.Before 2000 ∧
        standard.run (some 2000) network .get 0 0 = standard.run none network .get 0 0) ∧
      (¬ (standard.run none network .get 0 0).1.ending.Before 700 ∧
        (standard.run (some 700) network .get 0 0).1.ending = .aborted 700 ∧
        (standard.run (some 700) network .get 0 0).1.attempts = [0]) ∧
      (standard.run (some 0) network .get 0 0).1.ending = .aborted 0 ∧
      (standard.run (some 0) network .get 0 0).1.attempts = [] := by
  intro network
  have hattempts : (standard.run none network .get 0 0).1.attempts = [0, 1005] := by
    decide +kernel
  have hsettled : (standard.run none network .get 0 0).1.ending.Before 2000 := by decide +kernel
  have hwaiting : ¬ (standard.run none network .get 0 0).1.ending.Before 700 := by decide +kernel
  have hsame := (run_cancelled standard network .get 2000 0 0).settled hsettled
  obtain ⟨hending, hcut⟩ := (run_cancelled standard network .get 700 0 0).aborted hwaiting
  rw [hattempts] at hcut
  have hunbegun := (run_cancelled standard network .get 0 0 0).unbegun (Nat.le_refl 0)
  exact ⟨hattempts, ⟨hsettled, hsame⟩, ⟨hwaiting, hending, hcut⟩, hunbegun⟩

end RetryPolicy

end EdgeSetup
