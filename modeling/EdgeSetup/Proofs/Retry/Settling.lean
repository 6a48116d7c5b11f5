import EdgeSetup.Proofs.Retry.Calls
import EdgeSetup.Session.World

/-!
# The attempt that settles a call

A call goes on while its outcomes may pass, until its retries are used up. Which attempt is its
last depends only on the outcomes and the number of retries (`settlingAttempt`): delays, latencies
and headers move the attempts in time, and no more.

**Reference semantics** (`World.call_settles`). When the cluster answers every attempt, a call
makes as many attempts as it takes to settle it, ends with the outcome of the last one, whatever
that is, and counts each attempt, and each but the first as a retry.
-/

namespace EdgeSetup

open Http

/-! ## Outcomes that may pass -/

/-- An outcome that the same request may not meet again. -/
inductive Passing : Outcome → Prop where
  | status {response : Response} (listed : response.status ∈ retryableStatuses) :
      Passing (.ok response)
  | failure {failure : Failure}
      (kind : failure.kind ∈
        [FailureKind.timeout, .connectionReset, .notFound, .networkError]) :
      Passing (.error failure)

theorem isTransient_iff {outcome : Outcome} : isTransient outcome = true ↔ Passing outcome := by
  constructor
  · intro h
    cases outcome with
    | ok response => exact .status (List.contains_iff_mem.1 h)
    | error failure =>
      obtain ⟨kind, message⟩ := failure
      refine .failure ?_
      cases kind with
      | timeout | connectionReset | notFound | networkError => simp
      | aborted | unknown | httpStatus status => simp [isTransient, FailureKind.isRetryable] at h
  · rintro (h | h)
    · exact List.contains_iff_mem.2 h
    · simp only [List.mem_cons, List.not_mem_nil, or_false] at h
      rcases h with h | h | h | h <;> simp [isTransient, FailureKind.isRetryable, h]

instance : DecidablePred Passing := fun _ => decidable_of_iff _ isTransient_iff

/-! ## The settling attempt -/

/-- The number of the attempt that settles a call with so many retries: that of the first outcome
that does not pass, if it comes in time, and else that of the attempt after the last retry. -/
def settlingAttempt (retries : Nat) (outcomes : Nat → Outcome) : Nat :=
  match (List.range (retries + 1)).find? (fun i => ¬ Passing (outcomes i)) with
  | some i => i + 1
  | none => retries + 1

variable {retries : Nat} {outcomes : Nat → Outcome}

theorem settlingAttempt_zero : settlingAttempt 0 outcomes = 1 := by
  by_cases h : Passing (outcomes 0) <;> simp [settlingAttempt, List.range_succ, h]

theorem settlingAttempt_of_not_passing (h : ¬ Passing (outcomes 0)) :
    settlingAttempt retries outcomes = 1 := by
  simp [settlingAttempt, List.range_succ_eq_map, h]

theorem settlingAttempt_of_passing (h : Passing (outcomes 0)) :
    settlingAttempt (retries + 1) outcomes =
      settlingAttempt retries (fun i => outcomes (i + 1)) + 1 := by
  rw [settlingAttempt, List.range_succ_eq_map, List.find?_cons_of_neg (by simpa using h),
    List.find?_map]
  simp only [settlingAttempt, Function.comp_def, Nat.succ_eq_add_one]
  cases (List.range (retries + 1)).find? fun i => ¬ Passing (outcomes (i + 1)) <;> rfl

theorem settlingAttempt_pos : 0 < settlingAttempt retries outcomes := by
  unfold settlingAttempt
  split <;> exact Nat.succ_pos _

/-! ## The retries of a call -/

namespace RetryPolicy

variable {σ : Type} {policy : RetryPolicy}

/-- The retries that a method has: those that the policy names, and otherwise four for a read and
none for a write. -/
def namedRetries (policy : RetryPolicy) (method : Method) : Nat :=
  match policy.maxRetries with
  | some retries => retries.toNat
  | none => if method = .get then 4 else 0

theorem retryBudget_toNat (policy : RetryPolicy) (method : Method) :
    (policy.retryBudget method).toNat = policy.namedRetries method := by
  unfold retryBudget namedRetries
  cases policy.maxRetries with
  | some retries => rfl
  | none => by_cases h : method = .get <;> simp [h, defaultReadRetries]

theorem again?_isSome_iff {delay : Binary64} {outcome : Outcome} :
    (policy.again? delay outcome).isSome = true ↔ Passing outcome := by
  rw [← isTransient_iff]
  by_cases h : isTransient outcome = true <;> simp [again?, h]

/-- A call goes on exactly after an outcome that may pass, and while it has retries. -/
theorem following?_cases (policy : RetryPolicy) (retries : Nat) (delay : Binary64)
    (outcome : Outcome) :
    (policy.following? retries delay outcome = none ∧ (retries = 0 ∨ ¬ Passing outcome)) ∨
      ∃ left next, policy.following? retries delay outcome = some (left, next) ∧
        retries = left + 1 ∧ Passing outcome := by
  unfold following?
  have hpassing : (policy.again? delay outcome).isSome = true ↔ Passing outcome :=
    again?_isSome_iff
  cases retries with
  | zero => exact .inl ⟨rfl, .inl rfl⟩
  | succ left =>
    cases hagain : policy.again? delay outcome with
    | none =>
      rw [hagain] at hpassing
      exact .inl ⟨rfl, .inr fun h => nomatch hpassing.2 h⟩
    | some next =>
      rw [hagain] at hpassing
      exact .inr ⟨left, next, rfl, rfl, hpassing.1 rfl⟩

/-- What a call comes to that makes so many attempts and ends with an outcome. -/
structure Settles (trace : CallTrace) (attempts : Nat) (outcome : Outcome) : Prop where
  made : trace.attempts.length = attempts
  retried : trace.retries = attempts - 1
  ended : ∃ time, trace.ending = .at time outcome

/-- The loop of a call, against a network whose states follow a sequence of answers: `R i` holds
of a state before the attempt of number `i`. -/
theorem runFrom_settles (policy : RetryPolicy) (network : Network σ) {answers : Nat → Answer}
    {R : Nat → σ → Prop}
    (hstep : ∀ now i state, R i state →
      (network now state).1 = answers i ∧ R (i + 1) (network now state).2)
    (hanswers : ∀ i, (answers i).latency ≠ none)
    (retries : Nat) (delay : Binary64) (now first : Nat) {state : σ} (h : R first state) :
    ∃ attempts, attempts = settlingAttempt retries (fun i => (answers (first + i)).outcome) ∧
      Settles (policy.runFrom none network retries delay now state).1 attempts
        (answers (first + (attempts - 1))).outcome ∧
      R (first + attempts) (policy.runFrom none network retries delay now state).2 := by
  refine ⟨_, rfl, ?_⟩
  induction retries using Nat.strongRecOn generalizing delay now first state with
  | ind retries ih =>
    obtain ⟨hanswer, hkeep⟩ := hstep now first state h
    rw [runFrom_none, hanswer]
    cases hlatency : (answers first).latency with
    | none => exact absurd hlatency (hanswers first)
    | some latency =>
      rcases following?_cases policy retries delay (answers first).outcome with
        ⟨hnone, hlast⟩ | ⟨left, next, hsome, rfl, hpassing⟩
      · -- The attempt is the last one, so the call is settled by it.
        have hone : settlingAttempt retries (fun i => (answers (first + i)).outcome) = 1 := by
          rcases hlast with rfl | hlast
          · exact settlingAttempt_zero
          · exact settlingAttempt_of_not_passing hlast
        simp only [hnone, hone]
        exact ⟨⟨rfl, rfl, _, rfl⟩, hkeep⟩
      · obtain ⟨hlater, hstate⟩ := ih left (Nat.lt_succ_self left) next.nextDelay
          (now + latency + waitMillis next.wait) (first + 1) hkeep
        have hmore : settlingAttempt (left + 1) (fun i => (answers (first + i)).outcome) =
            settlingAttempt left (fun i => (answers (first + 1 + i)).outcome) + 1 := by
          rw [settlingAttempt_of_passing hpassing]
          simp only [Nat.add_assoc, Nat.add_comm 1]
        have hpos : 0 < settlingAttempt left (fun i => (answers (first + 1 + i)).outcome) :=
          settlingAttempt_pos
        simp only [hsome, hmore]
        generalize settlingAttempt left (fun i => (answers (first + 1 + i)).outcome) = count at *
        have hindex : first + (count + 1 - 1) = first + 1 + (count - 1) := by omega
        have hnumber : first + (count + 1) = first + 1 + count := by omega
        rw [hindex, hnumber]
        have hretried := hlater.retried
        refine ⟨⟨?_, ?_, hlater.ended⟩, hstate⟩
        · rw [List.length_cons, hlater.made]
        · show _ + 1 = count + 1 - 1
          omega

end RetryPolicy

/-! ## Calls in a world -/

namespace Outside

variable {σ : Type}

/-- The cluster after so many attempts at a request. -/
def clusterAfter (outside : Outside σ) (request : Request) (cluster : σ) : Nat → σ
  | 0 => cluster
  | attempts + 1 => (outside.respond request (outside.clusterAfter request cluster attempts)).2

/-- What the cluster does with each of the attempts at a request, from the first on. -/
def answers (outside : Outside σ) (request : Request) (cluster : σ) (i : Nat) : Answer :=
  (outside.respond request (outside.clusterAfter request cluster i)).1

/-- The outside of a cluster that plays a sequence of answers, whatever is asked; its state is the
number of the next one. -/
def playing (script : Nat → Answer) (policy : RetryPolicy) : Outside Nat :=
  ⟨fun _ i => (script i, i + 1), fun _ => .error (.other "no issuer"), policy⟩

theorem answers_playing {script : Nat → Answer} {policy : RetryPolicy} {request : Request} :
    (playing script policy).answers request 0 = script := by
  have hcluster : ∀ i, (playing script policy).clusterAfter request 0 i = i := by
    intro i
    induction i with
    | zero => rfl
    | succ i ih => rw [clusterAfter, ih, playing]
  funext i
  rw [answers, hcluster, playing]

end Outside

namespace World

variable {σ : Type}

/-- The world after so many attempts at a request, at whatever times: the cluster has answered
them, each is in the log, and nothing is counted yet. -/
structure Attempted (outside : Outside σ) (request : Request) (world : World σ) (attempts : Nat)
    (after : World σ) : Prop where
  cluster : after.cluster = outside.clusterAfter request world.cluster attempts
  log : ∃ times : List Nat, times.length = attempts ∧
    after.log = world.log ++ times.map (fun time => .sent time request)
  counts : after.counts = world.counts

variable {outside : Outside σ} {request : Request} {world after : World σ} {i : Nat}

theorem Attempted.network (h : Attempted outside request world i after) (now : Nat) :
    (network outside request now after).1 = outside.answers request world.cluster i ∧
      Attempted outside request world (i + 1) (network outside request now after).2 := by
  obtain ⟨hcluster, ⟨times, hlength, hlog⟩, hcounts⟩ := h
  simp only [World.network]
  refine ⟨by rw [hcluster]; rfl, ?_, ⟨times ++ [now], ?_, ?_⟩, hcounts⟩
  · rw [hcluster]
    rfl
  · rw [List.length_append, hlength]
    rfl
  · rw [hlog, List.map_append, List.append_assoc]
    rfl

/-- **A call is settled by the first outcome that does not pass**, or by the attempt after its
last retry, and its outcome is that attempt's outcome. -/
theorem call_settles (outside : Outside σ) (request : Request) (world : World σ)
    (hanswers : ∀ i, (outside.answers request world.cluster i).latency ≠ none) :
    ∃ (attempts : Nat) (times : List Nat) (after : World σ),
      attempts = settlingAttempt (outside.policy.namedRetries request.method)
        (fun i => (outside.answers request world.cluster i).outcome) ∧
      world.call outside request =
        some ((outside.answers request world.cluster (attempts - 1)).outcome, after) ∧
      after.log = world.log ++ times.map (fun time => .sent time request) ∧
      times.length = attempts ∧
      after.counts = (world.counts.add .attempts attempts).add .retries (attempts - 1) := by
  obtain ⟨attempts, hattempts, hsettles, hafter⟩ := outside.policy.runFrom_settles
    (network outside request) (R := Attempted outside request world)
    (fun now i state h => h.network now) hanswers
    (outside.policy.namedRetries request.method) outside.policy.initialDelay world.now 0
    ⟨rfl, ⟨[], rfl, by simp⟩, rfl⟩
  simp only [Nat.zero_add] at hattempts hsettles hafter
  obtain ⟨time, hending⟩ := hsettles.ended
  obtain ⟨-, ⟨times, hlength, hlog⟩, hcounts⟩ := hafter
  refine ⟨attempts, times, ?_, hattempts, ?call, ?log, hlength, ?counts⟩
  case call =>
    simp only [call, RetryPolicy.run, RetryPolicy.retryBudget_toNat, hending]
    rfl
  case log => exact hlog
  case counts => simp only [count, hsettles.made, hsettles.retried, hcounts]

/-- A write with two retries meets a timeout and then a busy cluster: its third attempt is its
last, and the answer of the cluster is handed on. -/
theorem call_settles_busy :
    let script : Nat → Answer := fun i =>
      if i = 0 then ⟨some 5, .error ⟨.timeout, "timed out"⟩⟩ else ⟨some 7, .ok ⟨503, [], ""⟩⟩
    let outside := Outside.playing script (RetryPolicy.standard.withMaxRetries 2)
    let request := Request.new .post "https://cluster/apis"
    (∀ i, (outside.answers request 0 i).latency ≠ none) ∧
      ∃ (times : List Nat) (after : World Nat),
        (World.start 0).call outside request = some (.ok ⟨503, [], ""⟩, after) ∧
          after.log = times.map (fun time => .sent time request) ∧ times.length = 3 ∧
          after.counts = (Counts.zero.add .attempts 3).add .retries 2 := by
  intro script outside request
  have hscript : outside.answers request 0 = script := Outside.answers_playing
  have hanswers : ∀ i, (outside.answers request 0 i).latency ≠ none := by
    intro i
    rw [hscript]
    by_cases h : i = 0 <;> simp [script, h]
  refine ⟨hanswers, ?_⟩
  obtain ⟨attempts, times, after, hattempts, hcall, hlog, hlength, hcounts⟩ :=
    call_settles outside request (.start 0) hanswers
  simp only [World.start, hscript] at hattempts hcall hlog hcounts
  have hthree : attempts = 3 := hattempts.trans (by decide)
  subst hthree
  exact ⟨times, after, hcall, hlog, hlength, hcounts⟩

end World

end EdgeSetup
