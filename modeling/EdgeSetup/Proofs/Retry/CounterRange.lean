import EdgeSetup.Proofs.Retry.Backoff
import EdgeSetup.Proofs.Retry.CountedRetries

/-!
# The words that a call counts in

The loop of a call counts its attempts up and its retries down, in words of 32 bits. A turn of the
loop makes one attempt, and fails when a word has no room (`RetryPolicy.step`). As long as none
fails, the turns are the call (`RetryPolicy.countedRun_eq`).

**Range** (`RetryPolicy.countedRun_range`). Whenever a turn begins, the two words add up to the
retries that the method has, and no turn counts down from zero. There is one attempt more than there
are retries, so a word can be too small for it: the attempt of number 2 ^ 32 fails. A call comes to
that attempt only if its policy names as many retries as a word can hold, and then if all answers
before it pass (`RetryPolicy.countedRun_overflow_iff`).
-/

namespace EdgeSetup

open Http

/-! ## Words -/

/-- A word that has no room. -/
inductive WordFault where
  | overflow
  | underflow
  deriving DecidableEq, Repr

/-- A word counted up. -/
def countUp (word : UInt32) : Except WordFault UInt32 :=
  if word = 0xFFFFFFFF then .error .overflow else .ok (word + 1)

/-- A word counted down. -/
def countDown (word : UInt32) : Except WordFault UInt32 :=
  if word = 0 then .error .underflow else .ok (word - 1)

theorem countUp_cases (word : UInt32) :
    (countUp word = .error .overflow ∧ word.toNat + 1 = UInt32.size) ∨
      ∃ next, countUp word = .ok next ∧ next.toNat = word.toNat + 1 ∧
        word.toNat + 1 < UInt32.size := by
  unfold countUp
  by_cases hfull : word = 0xFFFFFFFF
  · subst hfull
    exact .inl ⟨rfl, rfl⟩
  · have hne : word.toNat ≠ 0xFFFFFFFF := fun h => hfull (UInt32.toNat_inj.1 h)
    have hroom : word.toNat + 1 < UInt32.size := by
      have hlt := word.toNat_lt_size
      simp only [UInt32.size] at hlt ⊢
      omega
    rw [if_neg hfull]
    refine .inr ⟨_, rfl, ?_, hroom⟩
    rw [UInt32.toNat_add, UInt32.toNat_one]
    exact Nat.mod_eq_of_lt hroom

theorem countDown_of_pos {word : UInt32} (h : word.toNat ≠ 0) :
    ∃ left, countDown word = .ok left ∧ word.toNat = left.toNat + 1 := by
  have hne : word ≠ 0 := fun hzero => h (by rw [hzero]; rfl)
  have hone : (1 : UInt32) ≤ word := UInt32.le_iff_toNat_le.2 (Nat.one_le_iff_ne_zero.2 h)
  refine ⟨word - 1, by rw [countDown, if_neg hne], ?_⟩
  rw [UInt32.toNat_sub_of_le _ _ hone, UInt32.toNat_one]
  omega

section Guard

variable {ε α : Type} {fits : Prop} [Decidable fits] {value result : α} {fault other : ε}

theorem ite_eq_ok_iff :
    (if fits then Except.ok value else .error fault) = .ok result ↔ fits ∧ value = result := by
  split <;> simp [*]

theorem ite_eq_error_iff :
    (if fits then Except.ok value else .error fault) = .error other ↔ other = fault ∧ ¬ fits := by
  split <;> simp [*, eq_comm]

end Guard

/-! ## Answers that pass -/

/-- An answer that comes and passes, so that the call goes on while it has retries. -/
def Answer.Passes (answer : Answer) : Prop :=
  answer.latency ≠ none ∧ Passing answer.outcome

/-- Where a call stops at once, it has no retries or the first answer does not pass. -/
theorem stops_iff {passes : Nat → Prop} {retries : Nat} (h : retries = 0 ∨ ¬ passes 0) :
    1 = retries + 1 ↔ ∀ i, i < retries → passes i := by
  constructor
  · intro hone i hi
    omega
  · intro hall
    rcases h with rfl | hfirst
    · rfl
    · have hzero : ¬ 0 < retries := fun hpos => hfirst (hall 0 hpos)
      omega

namespace RetryPolicy

variable {σ : Type} {policy : RetryPolicy} {abort : Option Nat} {network : Network σ}

/-! ## Turns -/

/-- The loop of a call before a turn. -/
structure LoopTop (σ : Type) where
  /-- The attempts made so far. -/
  attempts : UInt32
  /-- The retries left. -/
  retries : UInt32
  /-- The running delay. -/
  delay : Binary64
  now : Nat
  state : σ

/-- What a turn comes to: the end of the call, or the top of the next turn. -/
inductive LoopStep (σ : Type) where
  | ended (trace : CallTrace) (state : σ)
  | again (next : LoopTop σ)

/-- Whether the loop goes on after an outcome: a status is looked at before the retries that are
left, a failure together with them. -/
def goesOn (retries : UInt32) : Outcome → Bool
  | .ok response => if isRetryableStatus response.status then !(retries == 0) else false
  | .error failure => failure.kind.isRetryable && decide (0 < retries)

/-- A turn of the loop. -/
def step (policy : RetryPolicy) (abort : Option Nat) (network : Network σ) (top : LoopTop σ) :
    Except WordFault (LoopStep σ) :=
  if abortedBy abort top.now then .ok (.ended ⟨[], 0, .aborted top.now⟩ top.state)
  else do
    let attempts ← countUp top.attempts
    let (answer, state) := network top.now top.state
    match arrival abort top.now answer with
    | .never => .ok (.ended ⟨[top.now], 0, .never⟩ state)
    | .aborted time => .ok (.ended ⟨[top.now], 0, .aborted time⟩ state)
    | .answered time outcome =>
      if goesOn top.retries outcome then do
        let retries ← countDown top.retries
        let wait := policy.delayAfter top.delay outcome
        let resume := time + waitMillis wait
        if time < resume && abortedBy abort resume then
          .ok (.ended ⟨[top.now], 1, .aborted (abort.getD time)⟩ state)
        else .ok (.again ⟨attempts, retries, policy.nextDelay wait, resume, state⟩)
      else .ok (.ended ⟨[top.now], 0, .at time outcome⟩ state)

/-- A call from the top of a turn on, in numbers. -/
def callFrom (policy : RetryPolicy) (abort : Option Nat) (network : Network σ) (top : LoopTop σ) :
    CallTrace × σ :=
  policy.runFrom abort network top.retries.toNat top.delay top.now top.state

/-- What a turn does beside the call from there on: if its word has room, it ends the call, or makes
an attempt and leaves the rest. -/
inductive Steps (policy : RetryPolicy) (abort : Option Nat) (network : Network σ)
    (top : LoopTop σ) : Except WordFault (LoopStep σ) → Prop where
  | full (word : top.attempts.toNat + 1 = UInt32.size) (going : abortedBy abort top.now = false) :
      Steps policy abort network top (.error .overflow)
  | ended {trace : CallTrace} {state : σ}
      (room : top.attempts.toNat + trace.attempts.length < UInt32.size)
      (call : policy.callFrom abort network top = (trace, state)) :
      Steps policy abort network top (.ok (.ended trace state))
  | again {next : LoopTop σ} {later : CallTrace} {state : σ}
      (attempts : next.attempts.toNat = top.attempts.toNat + 1)
      (retries : top.retries.toNat = next.retries.toNat + 1)
      (rest : policy.callFrom abort network next = (later, state))
      (call : policy.callFrom abort network top =
        (⟨top.now :: later.attempts, later.retries + 1, later.ending⟩, state)) :
      Steps policy abort network top (.ok (.again next))

theorem goesOn_iff {retries : UInt32} {outcome : Outcome} :
    goesOn retries outcome = true ↔ isTransient outcome = true ∧ retries.toNat ≠ 0 := by
  have hzero : retries = 0 ↔ retries.toNat = 0 := by
    rw [← UInt32.toNat_inj]
    rfl
  have hpos : 0 < retries ↔ retries.toNat ≠ 0 := by
    rw [UInt32.lt_iff_toNat_lt, ← Nat.pos_iff_ne_zero]
    rfl
  cases outcome with
  | ok response => simp [goesOn, isTransient, hzero]
  | error failure => simp [goesOn, isTransient, hpos]

/-- The loop goes on as the call does. -/
theorem following?_of_goesOn (policy : RetryPolicy) (retries : UInt32) (delay : Binary64)
    (outcome : Outcome) :
    (goesOn retries outcome = false ∧ policy.following? retries.toNat delay outcome = none) ∨
      ∃ left, goesOn retries outcome = true ∧ countDown retries = .ok left ∧
        retries.toNat = left.toNat + 1 ∧
        policy.following? retries.toNat delay outcome = some (left.toNat,
          ⟨policy.delayAfter delay outcome,
            policy.nextDelay (policy.delayAfter delay outcome)⟩) := by
  cases hgoes : goesOn retries outcome with
  | false =>
    refine .inl ⟨rfl, ?_⟩
    rcases policy.following?_cases retries.toNat delay outcome with
      ⟨hnone, -⟩ | ⟨left, next, -, hleft, hpassing⟩
    · exact hnone
    · have hgoing : goesOn retries outcome = true :=
        goesOn_iff.2 ⟨isTransient_iff.2 hpassing, by omega⟩
      rw [hgoes] at hgoing
      cases hgoing
  | true =>
    obtain ⟨htransient, hpos⟩ := goesOn_iff.1 hgoes
    obtain ⟨left, hdown, hleft⟩ := countDown_of_pos hpos
    refine .inr ⟨left, rfl, hdown, hleft, ?_⟩
    simp only [hleft, following?, again?, if_pos htransient]

/-- A call that is not aborted before it starts, one attempt at a time. -/
theorem runFrom_arrival (policy : RetryPolicy) (abort : Option Nat) (network : Network σ)
    (retries : Nat) (delay : Binary64) (now : Nat) (state : σ) (h : abortedBy abort now = false) :
    policy.runFrom abort network retries delay now state =
      match arrival abort now (network now state).1 with
      | .never => (⟨[now], 0, .never⟩, (network now state).2)
      | .aborted time => (⟨[now], 0, .aborted time⟩, (network now state).2)
      | .answered time outcome =>
        match policy.following? retries delay outcome with
        | none => (⟨[now], 0, .at time outcome⟩, (network now state).2)
        | some (left, next) =>
          let resume := time + waitMillis next.wait
          if time < resume && abortedBy abort resume then
            (⟨[now], 1, .aborted (abort.getD time)⟩, (network now state).2)
          else
            let later := policy.runFrom abort network left next.nextDelay resume
              (network now state).2
            (⟨now :: later.1.attempts, later.1.retries + 1, later.1.ending⟩, later.2) := by
  rw [runFrom, h, if_neg Bool.false_ne_true]
  dsimp only
  cases arrival abort now (network now state).1 with
  | never | aborted time => rfl
  | answered time outcome =>
    cases retries with
    | zero => rfl
    | succ left => cases hagain : policy.again? delay outcome <;> simp only [following?, hagain]

/-- A turn does what the call from there on does first, unless its word is full. -/
theorem step_steps (policy : RetryPolicy) (abort : Option Nat) (network : Network σ)
    (top : LoopTop σ) : Steps policy abort network top (policy.step abort network top) := by
  obtain ⟨made, retries, delay, now, state⟩ := top
  cases habort : abortedBy abort now with
  | true =>
    rw [step, if_pos habort]
    refine .ended made.toNat_lt ?_
    rw [callFrom, runFrom, if_pos habort]
  | false =>
    rcases countUp_cases made with ⟨hup, hfull⟩ | ⟨count, hup, hcount, hroom⟩
    · simp only [step, habort, hup]
      exact .full hfull habort
    · -- The attempt is made, and every way on from it is one of the call.
      have hcall := policy.runFrom_arrival abort network retries.toNat delay now state habort
      simp only [step, habort, hup, bind, Except.bind, if_neg Bool.false_ne_true]
      cases harrival : arrival abort now (network now state).1 with
      | never =>
        rw [harrival] at hcall
        exact .ended hroom hcall
      | aborted time =>
        rw [harrival] at hcall
        exact .ended hroom hcall
      | answered time outcome =>
        rw [harrival] at hcall
        dsimp only at hcall ⊢
        rcases policy.following?_of_goesOn retries delay outcome with
          ⟨hgoes, hnone⟩ | ⟨left, hgoes, hdown, hleft, hsome⟩
        · rw [hnone] at hcall
          rw [hgoes, if_neg Bool.false_ne_true]
          exact .ended hroom hcall
        · rw [hsome] at hcall
          rw [hgoes, if_pos rfl, hdown]
          dsimp only at hcall ⊢
          split at hcall
          · rename_i hcut
            rw [if_pos hcut]
            exact .ended hroom hcall
          · rename_i hcut
            rw [if_neg hcut]
            exact .again hcount hleft rfl hcall

theorem steps_of_eq {top : LoopTop σ} {result : Except WordFault (LoopStep σ)}
    (h : policy.step abort network top = result) : Steps policy abort network top result :=
  h ▸ policy.step_steps abort network top

/-! ## Calls, turn by turn -/

/-- A turn that goes on uses up a retry. -/
theorem step_again_lt {top next : LoopTop σ}
    (h : policy.step abort network top = .ok (.again next)) :
    next.retries.toNat < top.retries.toNat := by
  cases steps_of_eq h with
  | again attempts retries rest call => omega

/-- A call from the top of a turn on, turn by turn. -/
def countedFrom (policy : RetryPolicy) (abort : Option Nat) (network : Network σ)
    (top : LoopTop σ) : Except WordFault (CallTrace × σ) :=
  match _ : policy.step abort network top with
  | .error fault => .error fault
  | .ok (.ended trace state) => .ok (trace, state)
  | .ok (.again next) =>
    (countedFrom policy abort network next).map fun (later, state) =>
      (⟨top.now :: later.attempts, later.retries + 1, later.ending⟩, state)
termination_by top.retries.toNat
decreasing_by exact step_again_lt ‹_›

/-- The top of the first turn. -/
def firstTop (policy : RetryPolicy) (method : Method) (now : Nat) (state : σ) : LoopTop σ :=
  ⟨0, policy.retryBudget method, policy.initialDelay, now, state⟩

/-- A call, turn by turn. -/
def countedRun (policy : RetryPolicy) (abort : Option Nat) (network : Network σ) (method : Method)
    (now : Nat) (state : σ) : Except WordFault (CallTrace × σ) :=
  policy.countedFrom abort network (policy.firstTop method now state)

/-- The loop gets from the top of a turn to that of another one. -/
inductive Reaches (policy : RetryPolicy) (abort : Option Nat) (network : Network σ) :
    LoopTop σ → LoopTop σ → Prop where
  | here (top : LoopTop σ) : Reaches policy abort network top top
  | turn {top next last : LoopTop σ} (again : policy.step abort network top = .ok (.again next))
      (rest : Reaches policy abort network next last) : Reaches policy abort network top last

/-- **The invariant of the loop**: what is counted up is counted down. -/
theorem Reaches.sum {first last : LoopTop σ} (h : Reaches policy abort network first last) :
    last.attempts.toNat + last.retries.toNat = first.attempts.toNat + first.retries.toNat := by
  induction h with
  | here top => rfl
  | @turn top next last again rest ih =>
    cases steps_of_eq again with
    | again attempts retries rest call => omega

/-- Turn by turn a call does what it does, if the words have room for its attempts. -/
theorem countedFrom_eq (policy : RetryPolicy) (abort : Option Nat) (network : Network σ)
    (top : LoopTop σ) :
    policy.countedFrom abort network top =
      if top.attempts.toNat + (policy.callFrom abort network top).1.attempts.length <
          UInt32.size then
        .ok (policy.callFrom abort network top)
      else .error .overflow := by
  induction top using countedFrom.induct policy abort network with
  | case1 top fault hstep =>
    cases steps_of_eq hstep with
    | full word going =>
      obtain ⟨later, hfirst⟩ := policy.runFrom_first abort network top.retries.toNat top.delay
        top.now top.state going
      -- The call goes on and makes an attempt, the one that the word has no room for.
      rw [countedFrom, hstep, callFrom, hfirst, List.length_cons, if_neg (by omega)]
  | case2 top trace state hstep =>
    cases steps_of_eq hstep with
    | ended room call => rw [countedFrom, hstep, call, if_pos room]
  | case3 top next hstep ih =>
    cases steps_of_eq hstep with
    | @again next later state attempts retries rest call =>
      -- One attempt moves from those to come to those made, so their sum is the same.
      have hcount : next.attempts.toNat + later.attempts.length =
          top.attempts.toNat + (later.attempts.length + 1) := by omega
      rw [countedFrom, hstep, call]
      dsimp only
      rw [ih, rest, List.length_cons, hcount]
      split <;> rfl

/-- A call makes an attempt for each retry that it has, and one more, at most. -/
theorem runFrom_length_le (policy : RetryPolicy) (abort : Option Nat) (network : Network σ)
    (retries : Nat) (delay : Binary64) (now : Nat) (state : σ) :
    (policy.runFrom abort network retries delay now state).1.attempts.length ≤ retries + 1 := by
  induction retries using Nat.strongRecOn generalizing delay now state with
  | ind retries ih =>
    cases habort : abortedBy abort now with
    | true =>
      rw [runFrom, if_pos habort]
      exact Nat.zero_le _
    | false =>
      rw [runFrom_arrival _ _ _ _ _ _ _ habort]
      cases arrival abort now (network now state).1 with
      | never | aborted time => exact Nat.succ_le_succ (Nat.zero_le _)
      | answered time outcome =>
        cases hnext : policy.following? retries delay outcome with
        | none =>
          simp only [hnext]
          exact Nat.succ_le_succ (Nat.zero_le _)
        | some following =>
          have hless := following?_eq_some hnext
          simp only [hnext]
          split
          · exact Nat.succ_le_succ (Nat.zero_le _)
          · have hlater := ih following.1 (by omega) following.2.nextDelay
              (time + waitMillis following.2.wait) (network now state).2
            simp only [List.length_cons]
            omega

/-- A call uses up its retries exactly if all answers pass but that to its last attempt. -/
theorem playFrom_length_iff (policy : RetryPolicy) (answers : Nat → Answer) (retries : Nat)
    (delay : Binary64) (now first : Nat) :
    (policy.playFrom answers retries delay now first).attempts.length = retries + 1 ↔
      ∀ i, i < retries → (answers (first + i)).Passes := by
  induction retries using Nat.strongRecOn generalizing delay now first with
  | ind retries ih =>
    rcases answer_cases answers retries first with
      hlatency | ⟨latency, hlatency, hlast⟩ | ⟨latency, left, hlatency, rfl, hpassing⟩
    · rw [playFrom_of_hangs hlatency]
      exact stops_iff (.inr fun hpasses => hpasses.1 hlatency)
    · rw [playFrom_of_last hlatency hlast]
      exact stops_iff (hlast.imp_right fun hfinal hpasses => hfinal hpasses.2)
    · have hfirst : (answers first).Passes := ⟨by simp [hlatency], hpassing⟩
      rw [playFrom_of_passing hlatency hpassing rfl rfl, List.length_cons, Nat.add_right_cancel_iff,
        ih left (Nat.lt_succ_self left)]
      constructor
      · rintro hlater (_ | i) hi
        · exact hfirst
        · rw [← Nat.add_assoc, Nat.add_right_comm]
          exact hlater i (by omega)
      · intro hall i hi
        rw [Nat.add_assoc, Nat.add_comm 1]
        exact hall (i + 1) (by omega)

/-- The only policies with as many retries as a word can hold are those that name them. -/
theorem namedRetries_eq_iff (policy : RetryPolicy) (method : Method) :
    policy.namedRetries method + 1 = UInt32.size ↔ policy.maxRetries = some 0xFFFFFFFF := by
  unfold namedRetries
  cases policy.maxRetries with
  | none => by_cases h : method = .get <;> simp [h, UInt32.size]
  | some retries =>
    rw [Option.some_inj, ← UInt32.toNat_inj]
    show retries.toNat + 1 = 0xFFFFFFFF + 1 ↔ retries.toNat = 0xFFFFFFFF
    exact Nat.add_right_cancel_iff

/-- A turn fails exactly if it makes an attempt that its word has no room for. -/
theorem step_eq_error_iff {top : LoopTop σ} {fault : WordFault} :
    policy.step abort network top = .error fault ↔
      fault = .overflow ∧ top.attempts.toNat + 1 = UInt32.size ∧
        abortedBy abort top.now = false := by
  constructor
  · intro hstep
    cases steps_of_eq hstep with
    | full word going => exact ⟨rfl, word, going⟩
  · rintro ⟨rfl, hfull, hgoing⟩
    rcases countUp_cases top.attempts with ⟨hup, -⟩ | ⟨next, -, -, hroom⟩
    · simp only [step, hgoing, hup]
      rfl
    · omega

/-- A call, turn by turn and in numbers. -/
theorem countedRun_eq (policy : RetryPolicy) (abort : Option Nat) (network : Network σ)
    (method : Method) (now : Nat) (state : σ) :
    policy.countedRun abort network method now state =
      if (policy.run abort network method now state).1.attempts.length < UInt32.size then
        .ok (policy.run abort network method now state)
      else .error .overflow := by
  have hnone : (policy.firstTop method now state).attempts.toNat = 0 := rfl
  have hcall : policy.callFrom abort network (policy.firstTop method now state) =
      policy.run abort network method now state := by rw [callFrom, firstTop, run]
  rw [countedRun, countedFrom_eq, hnone, hcall, Nat.zero_add]

/-- Only a policy that names as many retries as a word can hold lets a call outgrow its words. -/
theorem run_length_iff (policy : RetryPolicy) (abort : Option Nat) (network : Network σ)
    (method : Method) (now : Nat) (state : σ) :
    ¬ (policy.run abort network method now state).1.attempts.length < UInt32.size ↔
      policy.maxRetries = some 0xFFFFFFFF ∧
        (policy.run abort network method now state).1.attempts.length = UInt32.size := by
  have hle : (policy.run abort network method now state).1.attempts.length ≤
      (policy.retryBudget method).toNat + 1 := policy.runFrom_length_le abort network _ _ now state
  have hlt := (policy.retryBudget method).toNat_lt_size
  rw [← namedRetries_eq_iff policy method, ← retryBudget_toNat]
  omega

/-- What becomes of the words of a call. -/
structure CounterRange (policy : RetryPolicy) (abort : Option Nat) (network : Network σ)
    (method : Method) (now : Nat) (state : σ) : Prop where
  /-- Whenever a turn begins, the words add up to the retries that the method has. -/
  sum : ∀ top, Reaches policy abort network (policy.firstTop method now state) top →
    top.attempts.toNat + top.retries.toNat = policy.namedRetries method
  /-- No turn counts down from zero. -/
  retries : ∀ top, Reaches policy abort network (policy.firstTop method now state) top →
    policy.step abort network top ≠ .error .underflow
  /-- A turn counts up beyond the words exactly at the attempt of number 2 ^ 32. -/
  attempts : ∀ top, Reaches policy abort network (policy.firstTop method now state) top →
    (policy.step abort network top = .error .overflow ↔
      top.attempts.toNat + 1 = UInt32.size ∧ abortedBy abort top.now = false)
  /-- A call whose attempts have numbers that are words does what it does in numbers. -/
  fitting : ∀ result, policy.countedRun abort network method now state = .ok result ↔
    (policy.run abort network method now state).1.attempts.length < UInt32.size ∧
      policy.run abort network method now state = result
  /-- Any other call has as many retries as a word can hold, uses them up and fails at the attempt
  after them. -/
  failing : ∀ fault, policy.countedRun abort network method now state = .error fault ↔
    fault = .overflow ∧ policy.maxRetries = some 0xFFFFFFFF ∧
      (policy.run abort network method now state).1.attempts.length = UInt32.size

/-- **The range of the counters.** -/
theorem countedRun_range (policy : RetryPolicy) (abort : Option Nat) (network : Network σ)
    (method : Method) (now : Nat) (state : σ) :
    CounterRange policy abort network method now state := by
  have hlength := policy.run_length_iff abort network method now state
  have heq := policy.countedRun_eq abort network method now state
  refine ⟨?sum, ?retries, ?attempts, ?fitting, ?failing⟩
  case sum =>
    intro top hreaches
    rw [hreaches.sum, firstTop, UInt32.toNat_zero, Nat.zero_add, retryBudget_toNat]
  case retries =>
    intro top _ hfault
    cases (step_eq_error_iff.1 hfault).1
  case attempts =>
    intro top _
    rw [step_eq_error_iff, eq_self, true_and]
  case fitting =>
    intro result
    rw [heq, ite_eq_ok_iff]
  case failing =>
    intro fault
    rw [heq, ite_eq_error_iff, hlength]

/-- A call outgrows its words exactly if its policy names as many retries as a word can hold, and
all answers pass but that to the last attempt. -/
theorem countedRun_overflow_iff {answers : Nat → Answer} {method : Method} {now : Nat} :
    policy.countedRun none (answering answers) method now 0 = .error .overflow ↔
      policy.maxRetries = some 0xFFFFFFFF ∧ ∀ i, i < 0xFFFFFFFF → (answers i).Passes := by
  rw [countedRun_eq, ite_eq_error_iff, eq_self, true_and, run_length_iff]
  refine and_congr_right fun hmax => ?_
  have hnamed := (namedRetries_eq_iff policy method).2 hmax
  have hretries : policy.namedRetries method = 0xFFFFFFFF := Nat.add_right_cancel hnamed
  rw [← play, play_eq, ← hnamed, playFrom_length_iff, hretries]
  simp only [Nat.zero_add]

/-- The policy names as many retries as a word can hold, and the cluster is busy and asks each time
to be tried again at once. -/
theorem countedRun_overflows :
    (⟨some 0xFFFFFFFF, 1000, 2, .honor⟩ : RetryPolicy).countedRun none
      (answering fun _ => ⟨some 1, .ok ⟨503, [("retry-after", "0")], ""⟩⟩) .get 0 0 =
        .error .overflow := by
  have hpasses : (⟨some 1, .ok ⟨503, [("retry-after", "0")], ""⟩⟩ : Answer).Passes :=
    ⟨nofun, .status (by decide)⟩
  exact countedRun_overflow_iff.2 ⟨rfl, fun _ _ => hpasses⟩

end RetryPolicy

end EdgeSetup
