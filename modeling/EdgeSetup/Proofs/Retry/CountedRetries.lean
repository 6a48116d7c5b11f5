import EdgeSetup.Proofs.Retry.Cancellation
import EdgeSetup.Proofs.Retry.Settling
import EdgeSetup.Proofs.Session.Counting

/-!
# Attempts and retries, as counted

A call counts an attempt when it makes it, and a retry when it makes up its mind to try again, which
is before the wait for that retry. An abort can come in between. What is counted then is told by the
same call left free: an abort is in one of its waits when it comes after the answer to an attempt
and no later than the next attempt (`Network.inWait`).

**What a call counts** (`World.callUntil_counts`). However it ends, and if it never ends, a call
counts the attempts that it made, and for the retries one less, or none if there was no attempt. If
it was aborted in a wait, it counts one retry more, which it never made.
-/

namespace EdgeSetup

open Http

/-- Whether a moment falls into one of the waits between attempts at some times: after the answer to
an attempt, and no later than the next attempt. -/
def Network.inWait {σ : Type} (network : Network σ) (moment : Nat) : List Nat → σ → Bool
  | time :: next :: later, state =>
    ((network time state).1.latency.any fun latency =>
        decide (time + latency < moment ∧ moment ≤ next)) ||
      network.inWait moment (next :: later) (network time state).2
  | [_], _ | [], _ => false

/-- No wait has begun before the first attempt. -/
theorem Network.inWait_of_le {σ : Type} {network : Network σ} {moment : Nat} {times : List Nat}
    (h : ∀ time ∈ times, moment ≤ time) (state : σ) :
    network.inWait moment times state = false := by
  induction times generalizing state with
  | nil => rfl
  | cons time later ih =>
    cases later with
    | nil => rfl
    | cons next later =>
      obtain ⟨hfirst, hlater⟩ := List.forall_mem_cons.1 h
      have hearly : ∀ latency, ¬ (time + latency < moment ∧ moment ≤ next) := by omega
      simp [Network.inWait, ih hlater, hearly]

namespace RetryPolicy

variable {σ : Type} {policy : RetryPolicy} {network : Network σ} {retries : Nat}
  {delay : Binary64} {now moment : Nat} {state : σ}

/-! ## A call left free -/

/-- A call that is not aborted before it starts begins with an attempt. -/
theorem runFrom_first (policy : RetryPolicy) (abort : Option Nat) (network : Network σ)
    (retries : Nat) (delay : Binary64) (now : Nat) (state : σ) (h : abortedBy abort now = false) :
    ∃ later, (policy.runFrom abort network retries delay now state).1.attempts = now :: later := by
  rw [runFrom, h, if_neg Bool.false_ne_true]
  dsimp only
  split
  · exact ⟨_, rfl⟩
  · exact ⟨_, rfl⟩
  · split
    · split <;> exact ⟨_, rfl⟩
    · exact ⟨_, rfl⟩

/-- The network meets the attempts of a call that nothing aborts, and nothing else. -/
theorem runFrom_met (policy : RetryPolicy) (network : Network σ) (retries : Nat)
    (delay : Binary64) (now : Nat) (state : σ) :
    (policy.runFrom none network retries delay now state).2 =
      network.after (policy.runFrom none network retries delay now state).1.attempts state := by
  induction retries using Nat.strongRecOn generalizing delay now state with
  | ind retries ih =>
    rw [runFrom_none]
    cases (network now state).1.latency with
    | none => rfl
    | some latency =>
      cases hnext : policy.following? retries delay (network now state).1.outcome with
      | none => rfl
      | some following =>
        have hless := following?_eq_some hnext
        exact ih following.1 (by omega) _ _ _

/-- A call that nothing aborts makes every retry that it makes up its mind to. -/
theorem runFrom_retries (policy : RetryPolicy) (network : Network σ) (retries : Nat)
    (delay : Binary64) (now : Nat) (state : σ) :
    (policy.runFrom none network retries delay now state).1.retries + 1 =
      (policy.runFrom none network retries delay now state).1.attempts.length := by
  induction retries using Nat.strongRecOn generalizing delay now state with
  | ind retries ih =>
    rw [runFrom_none]
    cases (network now state).1.latency with
    | none => rfl
    | some latency =>
      cases hnext : policy.following? retries delay (network now state).1.outcome with
      | none => rfl
      | some following =>
        have hless := following?_eq_some hnext
        simp only [List.length_cons]
        rw [ih following.1 (by omega)]

/-! ## A call that is aborted -/

/-- The moment is in a wait of a call that goes on: in the first one, or in one of what follows. -/
theorem inWait_cons {latency : Nat} {times later : List Nat} {next : Nat}
    (hlatency : (network now state).1.latency = some latency) (htimes : times = next :: later) :
    network.inWait moment (now :: times) state =
      (decide (now + latency < moment ∧ moment ≤ next) ||
        network.inWait moment times (network now state).2) := by
  rw [htimes, Network.inWait, hlatency, Option.any_some]

/-- An aborted call makes every retry that it makes up its mind to, but for one if the abort is in a
wait. -/
theorem runFrom_retries_aborted (policy : RetryPolicy) (network : Network σ) (retries : Nat)
    (delay : Binary64) (state : σ) (hnow : now < moment) :
    (policy.runFrom (some moment) network retries delay now state).1.retries + 1 =
      (policy.runFrom (some moment) network retries delay now state).1.attempts.length +
        (network.inWait moment (policy.runFrom none network retries delay now state).1.attempts
          state).toNat := by
  induction retries using Nat.strongRecOn generalizing delay now state with
  | ind retries ih =>
    rw [runFrom_none, runFrom_some hnow]
    cases hlatency : (network now state).1.latency with
    | none => rfl
    | some latency =>
      cases hnext : policy.following? retries delay (network now state).1.outcome with
      | none =>
        dsimp only
        split <;> rfl
      | some following =>
        obtain ⟨left, next⟩ := following
        have hless := following?_eq_some hnext
        dsimp only
        generalize hresume : now + latency + waitMillis next.wait = resume
        have hfrom := policy.runFrom_from network left next.nextDelay resume (network now state).2
        obtain ⟨times, hfirst⟩ :=
          policy.runFrom_first none network left next.nextDelay resume (network now state).2 rfl
        rw [inWait_cons hlatency hfirst]
        rcases Nat.lt_or_ge resume moment with hlater | hcut
        · -- The first wait is over by then.
          have hwait : ¬ (now + latency < moment ∧ moment ≤ resume) := by omega
          rw [if_neg (by omega), if_neg (by omega), decide_eq_false hwait, Bool.false_or]
          simp only [List.length_cons]
          rw [ih left (by omega) next.nextDelay (network now state).2 hlater]
          omega
        · -- What follows the first wait starts too late to have a wait of its own before that.
          rw [Network.inWait_of_le (fun time hmem => Nat.le_trans hcut (hfrom.started time hmem)),
            Bool.or_false]
          by_cases harrival : moment ≤ now + latency
          · rw [if_pos harrival, decide_eq_false (by omega)]
            rfl
          · rw [if_neg harrival, if_pos hcut, decide_eq_true (by omega)]
            rfl

/-- The network meets the attempts of a call, and nothing else. -/
theorem run_met (policy : RetryPolicy) (abort : Option Nat) (network : Network σ) (method : Method)
    (now : Nat) (state : σ) :
    (policy.run abort network method now state).2 =
      network.after (policy.run abort network method now state).1.attempts state := by
  cases abort with
  | none => exact policy.runFrom_met network _ _ now state
  | some moment => exact policy.runFrom_after network moment _ _ now state

/-- How often a call makes up its mind to try again: once for each attempt but the first, and once
more if it is aborted in a wait. -/
theorem run_retries (policy : RetryPolicy) (abort : Option Nat) (network : Network σ)
    (method : Method) (now : Nat) (state : σ) :
    (policy.run abort network method now state).1.retries =
      (policy.run abort network method now state).1.attempts.length - 1 +
        (abort.any fun moment =>
          network.inWait moment (policy.run none network method now state).1.attempts
            state).toNat := by
  cases abort with
  | none =>
    have hfree := policy.runFrom_retries network (policy.retryBudget method).toNat
      policy.initialDelay now state
    rw [run, Option.any_none, Bool.toNat_false]
    omega
  | some moment =>
    rw [Option.any_some]
    simp only [run]
    rcases Nat.lt_or_ge now moment with hnow | hnow
    · have hcut := policy.runFrom_retries_aborted network (policy.retryBudget method).toNat
        policy.initialDelay state hnow
      obtain ⟨later, hmade⟩ := policy.runFrom_first (some moment) network
        (policy.retryBudget method).toNat policy.initialDelay now state
        (decide_eq_false (Nat.not_le.2 hnow))
      rw [hmade, List.length_cons] at hcut ⊢
      omega
    · have hfrom := policy.runFrom_from network (policy.retryBudget method).toNat
        policy.initialDelay now state
      rw [runFrom_of_aborted hnow,
        Network.inWait_of_le (fun time hmem => Nat.le_trans hnow (hfrom.started time hmem))]
      rfl

end RetryPolicy

/-! ## Calls in a world -/

namespace World

variable {σ : Type}

/-- Makes a call that may be aborted, and counts its attempts and retries. -/
def callUntil (outside : Outside σ) (request : Request) (abort : Option Nat) (world : World σ) :
    CallTrace × World σ :=
  let (trace, world) :=
    outside.policy.run abort (network outside request) request.method world.now world
  (trace, (world.count .attempts trace.attempts.length).count .retries trace.retries)

/-- A call is one that is never aborted, and gives its outcome if it ends. -/
theorem call_eq_callUntil (outside : Outside σ) (request : Request) (world : World σ) :
    world.call outside request =
      (outcome? (world.callUntil outside request none).1.ending).map fun (time, outcome) =>
        (outcome, { (world.callUntil outside request none).2 with now := time }) := by
  simp only [call, callUntil]
  cases (outside.policy.run none (network outside request) request.method world.now
    world).1.ending <;> rfl

/-- Attempts at a request, as the network meets them: each is in the log, and none is counted
yet. -/
theorem network_after (outside : Outside σ) (request : Request) (times : List Nat)
    (world : World σ) :
    ((network outside request).after times world).log =
        world.log ++ times.map (fun time => .sent time request) ∧
      ((network outside request).after times world).counts = world.counts := by
  induction times generalizing world with
  | nil => exact ⟨(List.append_nil _).symm, rfl⟩
  | cons time later ih =>
    obtain ⟨hlog, hcounts⟩ := ih (network outside request time world).2
    refine ⟨hlog.trans ?_, hcounts⟩
    rw [List.map_cons, ← List.singleton_append, ← List.append_assoc]
    rfl

/-- **What a call counts.** The attempts that it counts are those that it made. It counts a retry
for each of them but the first, and one more if it was aborted in a wait. At the moment of an answer
or of the end of a wait, which of the two is seen is left to chance; here it is the abort. -/
theorem callUntil_counts (outside : Outside σ) (request : Request) (abort : Option Nat)
    (world : World σ) :
    let free := (world.callUntil outside request none).1
    let cut := world.callUntil outside request abort
    let made := cut.1.attempts.length
    let unmade := (abort.any fun moment =>
      (network outside request).inWait moment free.attempts world).toNat
    cut.2.log = world.log ++ cut.1.attempts.map (fun time => .sent time request) ∧
      cut.2.counts = (world.counts.add .attempts made).add .retries (made - 1 + unmade) := by
  intro free cut made unmade
  have hmet : (outside.policy.run abort (network outside request) request.method world.now
      world).2 = (network outside request).after cut.1.attempts world :=
    outside.policy.run_met abort (network outside request) request.method world.now world
  have hretries : cut.1.retries = made - 1 + unmade :=
    outside.policy.run_retries abort (network outside request) request.method world.now world
  obtain ⟨hlog, hcounts⟩ := network_after outside request cut.1.attempts world
  rw [← hmet] at hlog hcounts
  refine ⟨hlog, ?_⟩
  rw [← hretries, ← hcounts]
  rfl

/-- The cluster is busy, and the call is aborted in the wait for its first retry: the retry is
counted, and it is not made. -/
theorem callUntil_retry_unmade :
    let outside := Outside.playing (fun _ => ⟨some 0, .ok ⟨503, [], ""⟩⟩) .standard
    let request := Request.new .get "https://cluster/apis"
    let call := (World.start 0).callUntil outside request (some 500)
    call.1.attempts = [0] ∧ call.2.counts .attempts = 1 ∧ call.2.counts .retries = 1 ∧
      call.2.counts .retries ≠ call.2.counts .attempts - 1 := by
  decide +kernel

end World

end EdgeSetup
