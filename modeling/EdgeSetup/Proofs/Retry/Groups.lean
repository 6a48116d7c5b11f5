import EdgeSetup.Proofs.Retry.Calls
import EdgeSetup.Retry.Group
import Mathlib.Data.List.Forall2

/-!
# Calls side by side

Calls that start together keep what each of their attempts keeps (`runGroup_keeps`). When all
attempts are answered, all calls end (`runAll_ends`): the fuel of the schedule is the number of
attempts that the calls can still make, and each attempt lowers it. Two groups whose attempts are
answered alike do the same (`runAll_same`).
-/

namespace EdgeSetup

open Http

/-! ## Schedules -/

theorem earliest?_ended (ending : Ending) (rest : List Flight) :
    earliest? (.ended ending :: rest) =
      (earliest? rest).map fun next => (next.1 + 1, next.2) := by
  simp only [earliest?, Flight.due?]

theorem earliest?_waiting_of_none {rest : List Flight} (retries : Nat) (delay : Binary64)
    (due : Nat) (h : earliest? rest = none) :
    earliest? (.waiting retries delay due :: rest) = some (0, due) := by
  simp only [earliest?, Flight.due?, h, Option.map_none]

theorem earliest?_waiting_of_some {rest : List Flight} {i other : Nat} (retries : Nat)
    (delay : Binary64) (due : Nat) (h : earliest? rest = some (i, other)) :
    earliest? (.waiting retries delay due :: rest) =
      if other < due then some (i + 1, other) else some (0, due) := by
  simp only [earliest?, Flight.due?, h, Option.map_some]

theorem earliest?_eq_some {flights : List Flight} {i now : Nat}
    (h : earliest? flights = some (i, now)) :
    ∃ retries delay, flights[i]? = some (.waiting retries delay now) := by
  induction flights generalizing i with
  | nil => simp [earliest?] at h
  | cons flight rest ih =>
    -- The earliest flight is the first one or the earliest of the rest.
    cases flight with
    | ended ending =>
      rw [earliest?_ended] at h
      obtain ⟨⟨k, due⟩, hrest, heq⟩ := Option.map_eq_some_iff.1 h
      cases heq
      exact ih hrest
    | waiting retries delay due =>
      cases hrest : earliest? rest with
      | none =>
        rw [earliest?_waiting_of_none retries delay due hrest] at h
        cases h
        exact ⟨retries, delay, rfl⟩
      | some next =>
        rw [earliest?_waiting_of_some retries delay due hrest] at h
        split at h
        · cases h
          exact ih hrest
        · cases h
          exact ⟨retries, delay, rfl⟩

theorem earliest?_eq_none {flights : List Flight} (h : earliest? flights = none) :
    ∀ flight ∈ flights, ∃ ending, flight = .ended ending := by
  induction flights with
  | nil => exact nofun
  | cons flight rest ih =>
    cases flight with
    | ended ending =>
      rw [earliest?_ended] at h
      intro other hother
      rcases List.mem_cons.1 hother with rfl | hother
      · exact ⟨ending, rfl⟩
      · exact ih (Option.map_eq_none_iff.1 h) other hother
    | waiting retries delay due =>
      cases hrest : earliest? rest with
      | none =>
        rw [earliest?_waiting_of_none retries delay due hrest] at h
        cases h
      | some next =>
        rw [earliest?_waiting_of_some retries delay due hrest] at h
        split at h <;> cases h

/-! ## Attempts left -/

/-- The attempts that flights can still make, all together. -/
def attemptsLeft (flights : List Flight) : Nat :=
  flights.foldr (fun flight rest => flight.attemptsLeft + rest) 0

theorem attemptsLeft_set_lt {flights : List Flight} {i : Nat} {flight other : Flight}
    (hget : flights[i]? = some flight) (hless : other.attemptsLeft < flight.attemptsLeft) :
    attemptsLeft (flights.set i other) < attemptsLeft flights := by
  induction flights generalizing i with
  | nil => simp at hget
  | cons first rest ih =>
    cases i with
    | zero =>
      cases hget
      show other.attemptsLeft + attemptsLeft rest < flight.attemptsLeft + attemptsLeft rest
      omega
    | succ i =>
      have hrest := ih (i := i) hget
      show first.attemptsLeft + attemptsLeft (rest.set i other) <
        first.attemptsLeft + attemptsLeft rest
      omega

theorem attemptsLeft_mem_le {flights : List Flight} {flight : Flight} (h : flight ∈ flights) :
    flight.attemptsLeft ≤ attemptsLeft flights := by
  induction flights with
  | nil => cases h
  | cons first rest ih =>
    show flight.attemptsLeft ≤ first.attemptsLeft + attemptsLeft rest
    rcases List.mem_cons.1 h with rfl | hmem
    · omega
    · have hrest := ih hmem
      omega

/-- Flights without attempts left have ended. -/
theorem ended_of_attemptsLeft {flights : List Flight} (h : attemptsLeft flights = 0) :
    ∀ flight ∈ flights, ∃ ending, flight = .ended ending := by
  intro flight hflight
  have hnone := attemptsLeft_mem_le hflight
  cases flight with
  | ended ending => exact ⟨ending, rfl⟩
  | waiting retries delay due =>
    have hsome : 0 < (Flight.waiting retries delay due).attemptsLeft := Nat.succ_pos retries
    omega

namespace RetryPolicy

variable {σ : Type} {policy : RetryPolicy}

/-- An attempt of a call among others, in the terms of a single call. -/
theorem fly_eq (policy : RetryPolicy) (network : Network σ) (retries : Nat) (delay : Binary64)
    (now : Nat) (state : σ) :
    policy.fly network retries delay now state =
      match (network now state).1.latency with
      | none => (.ended .never, false, (network now state).2)
      | some latency =>
        match policy.following? retries delay (network now state).1.outcome with
        | none =>
          (.ended (.at (now + latency) (network now state).1.outcome), false,
            (network now state).2)
        | some (left, next) =>
          (.waiting left next.nextDelay (now + latency + waitMillis next.wait), true,
            (network now state).2) := by
  rw [fly]
  cases hlatency : (network now state).1.latency with
  | none => simp [arrival, hlatency]
  | some latency =>
    cases retries with
    | zero => simp [abortedBy, arrival, hlatency, following?]
    | succ left =>
      cases hagain : policy.again? delay (network now state).1.outcome with
      | none => simp [abortedBy, arrival, hlatency, following?, hagain]
      | some next => simp [abortedBy, arrival, hlatency, following?, hagain]

theorem fly_state (policy : RetryPolicy) (network : Network σ) (retries : Nat)
    (delay : Binary64) (now : Nat) (state : σ) :
    (policy.fly network retries delay now state).2.2 = (network now state).2 := by
  rw [fly_eq]
  split
  · rfl
  · split <;> rfl

theorem fly_attemptsLeft (policy : RetryPolicy) (network : Network σ) (retries : Nat)
    (delay : Binary64) (now : Nat) (state : σ) :
    (policy.fly network retries delay now state).1.attemptsLeft < retries + 1 := by
  rw [fly_eq]
  split
  · exact Nat.succ_pos retries
  · split
    · exact Nat.succ_pos retries
    · next hnext =>
      have hless := following?_eq_some hnext
      show _ + 1 < retries + 1
      omega

/-! ## Groups -/

/-- A group makes one attempt of the flight that is due first, or is at its end. -/
theorem runGroup_succ (policy : RetryPolicy) {networks : List (Network σ)}
    {flights : List Flight} (fuel : Nat) (state : σ) (hlength : networks.length = flights.length) :
    earliest? flights = none ∧ policy.runGroup networks (fuel + 1) flights state =
        (⟨0, 0, flights.map Flight.ending⟩, state) ∨
      ∃ i now network retries delay, networks[i]? = some network ∧
        flights[i]? = some (.waiting retries delay now) ∧
        (policy.runGroup networks (fuel + 1) flights state).1.endings =
          (policy.runGroup networks fuel
            (flights.set i (policy.fly network retries delay now state).1)
            (network now state).2).1.endings ∧
        (policy.runGroup networks (fuel + 1) flights state).2 =
          (policy.runGroup networks fuel
            (flights.set i (policy.fly network retries delay now state).1)
            (network now state).2).2 := by
  rw [runGroup]
  cases hearliest : earliest? flights with
  | none => exact .inl ⟨rfl, rfl⟩
  | some due =>
    obtain ⟨i, now⟩ := due
    obtain ⟨retries, delay, hflight⟩ := earliest?_eq_some hearliest
    obtain ⟨hlt, -⟩ := List.getElem?_eq_some_iff.1 hflight
    have hi : i < networks.length := by omega
    have hnetwork : networks[i]? = some networks[i] := List.getElem?_eq_getElem hi
    refine .inr ⟨i, now, _, retries, delay, hnetwork, hflight, ?_⟩
    simp only [hnetwork, hflight, fly_state]
    trivial

/-- A group keeps what each attempt keeps. -/
theorem runGroup_keeps {P : σ → Prop} {networks : List (Network σ)}
    (hstep : ∀ network ∈ networks, ∀ now state, P state → P (network now state).2)
    {flights : List Flight} (hlength : networks.length = flights.length) (fuel : Nat) {state : σ}
    (h : P state) : P (policy.runGroup networks fuel flights state).2 := by
  induction fuel generalizing flights state with
  | zero => exact h
  | succ fuel ih =>
    rcases policy.runGroup_succ fuel state hlength with
      ⟨-, hrun⟩ | ⟨i, now, network, retries, delay, hnetwork, hflight, -, hrun⟩
    · rw [hrun]
      exact h
    · rw [hrun]
      exact ih (by rw [List.length_set]; exact hlength)
        (hstep network (List.mem_of_getElem? hnetwork) now state h)

theorem runGroup_length {networks : List (Network σ)} {flights : List Flight}
    (hlength : networks.length = flights.length) (fuel : Nat) {state : σ} :
    (policy.runGroup networks fuel flights state).1.endings.length = flights.length := by
  induction fuel generalizing flights state with
  | zero => exact List.length_map ..
  | succ fuel ih =>
    rcases policy.runGroup_succ fuel state hlength with
      ⟨-, hrun⟩ | ⟨i, now, network, retries, delay, hnetwork, hflight, hrun, -⟩
    · rw [hrun]
      exact List.length_map ..
    · rw [hrun, ih (by rw [List.length_set]; exact hlength), List.length_set]

theorem fly_ne_never {network : Network σ} {retries : Nat} {delay : Binary64} {now : Nat}
    {state : σ} (hanswered : (network now state).1.latency ≠ none) :
    (policy.fly network retries delay now state).1 ≠ .ended .never := by
  rw [fly_eq]
  cases hlatency : (network now state).1.latency with
  | none => exact absurd hlatency hanswered
  | some latency =>
    cases policy.following? retries delay (network now state).1.outcome with
    | none => exact nofun
    | some following => exact nofun

theorem ending_ne_never {flights : List Flight}
    (hended : ∀ flight ∈ flights, ∃ ending, flight = .ended ending)
    (hopen : ∀ flight ∈ flights, flight ≠ .ended .never) :
    ∀ ending ∈ flights.map Flight.ending, ending ≠ .never := by
  intro ending hmem
  obtain ⟨flight, hflight, rfl⟩ := List.mem_map.1 hmem
  obtain ⟨ending, rfl⟩ := hended flight hflight
  rintro ⟨⟩
  exact hopen _ hflight rfl

/-- With fuel for all attempts left, a group whose attempts are all answered ends. -/
theorem runGroup_ends {networks : List (Network σ)}
    (hanswers : ∀ network ∈ networks, ∀ now state, (network now state).1.latency ≠ none)
    {flights : List Flight} (hlength : networks.length = flights.length)
    (hopen : ∀ flight ∈ flights, flight ≠ .ended .never) {fuel : Nat}
    (hfuel : attemptsLeft flights ≤ fuel) {state : σ} :
    ∀ ending ∈ (policy.runGroup networks fuel flights state).1.endings, ending ≠ .never := by
  induction fuel generalizing flights state with
  | zero => exact ending_ne_never (ended_of_attemptsLeft (Nat.le_zero.1 hfuel)) hopen
  | succ fuel ih =>
    rcases policy.runGroup_succ fuel state hlength with
      ⟨hnone, hrun⟩ | ⟨i, now, network, retries, delay, hnetwork, hflight, hrun, -⟩
    · rw [hrun]
      exact ending_ne_never (earliest?_eq_none hnone) hopen
    · rw [hrun]
      have hanswered := hanswers network (List.mem_of_getElem? hnetwork) now state
      have hless := attemptsLeft_set_lt hflight
        (policy.fly_attemptsLeft network retries delay now state)
      refine ih (by rw [List.length_set]; exact hlength) (fun flight hmem => ?_) (by omega)
      rcases List.mem_or_eq_of_mem_set hmem with hmem | rfl
      · exact hopen flight hmem
      · exact fly_ne_never hanswered

/-! ## Groups that start together -/

variable (policy : RetryPolicy) (calls : List (Network σ × Method)) (now : Nat)

theorem runAll_keeps {P : σ → Prop}
    (hstep : ∀ call ∈ calls, ∀ now state, P state → P (call.1 now state).2) {state : σ}
    (h : P state) : P (policy.runAll calls now state).2 := by
  refine runGroup_keeps (fun network hnetwork => ?_) (by simp) _ h
  obtain ⟨call, hcall, rfl⟩ := List.mem_map.1 hnetwork
  exact hstep call hcall

theorem runAll_length (state : σ) :
    (policy.runAll calls now state).1.endings.length = calls.length :=
  (runGroup_length (by simp) _).trans (List.length_map ..)

/-- Calls side by side whose attempts are all answered all end. -/
theorem runAll_ends (hanswers : ∀ call ∈ calls, ∀ now state, (call.1 now state).1.latency ≠ none)
    (state : σ) : ∀ ending ∈ (policy.runAll calls now state).1.endings, ending ≠ .never := by
  refine runGroup_ends (fun network hnetwork => ?_) (by simp) (fun flight hflight => ?_)
    (Nat.le_refl _)
  · obtain ⟨call, hcall, rfl⟩ := List.mem_map.1 hnetwork
    exact hanswers call hcall
  · obtain ⟨call, -, rfl⟩ := List.mem_map.1 hflight
    exact nofun

/-! ## Two groups -/

variable {τ : Type} {R : σ → τ → Prop}

/-- Related lists have related items at each place. -/
theorem forall₂_getElem? {α β : Type} {S : α → β → Prop} {xs : List α} {ys : List β}
    (h : List.Forall₂ S xs ys) (i : Nat) : Option.Rel S xs[i]? ys[i]? := by
  induction h generalizing i with
  | nil => exact .none
  | cons hhead _ ih =>
    cases i with
    | zero => exact .some hhead
    | succ i => exact ih i

theorem fly_same {network : Network σ} {network' : Network τ}
    (halike : AnswersAlike R network network') (retries : Nat) (delay : Binary64) (now : Nat)
    {s : σ} {t : τ} (h : R s t) :
    (policy.fly network retries delay now s).1 = (policy.fly network' retries delay now t).1 ∧
      (policy.fly network retries delay now s).2.1 =
        (policy.fly network' retries delay now t).2.1 ∧
      R (policy.fly network retries delay now s).2.2
        (policy.fly network' retries delay now t).2.2 := by
  obtain ⟨hsame, hkeep⟩ := halike now s t h
  rw [fly_eq, fly_eq, ← hsame]
  cases (network now s).1.latency with
  | none => exact ⟨rfl, rfl, hkeep⟩
  | some latency =>
    cases policy.following? retries delay (network now s).1.outcome with
    | none => exact ⟨rfl, rfl, hkeep⟩
    | some following => exact ⟨rfl, rfl, hkeep⟩

/-- Groups whose attempts are answered alike do the same. -/
theorem runGroup_same {networks : List (Network σ)} {networks' : List (Network τ)}
    (halike : List.Forall₂ (AnswersAlike R) networks networks') (fuel : Nat)
    (flights : List Flight) {s : σ} {t : τ} (h : R s t) :
    (policy.runGroup networks fuel flights s).1 = (policy.runGroup networks' fuel flights t).1 ∧
      R (policy.runGroup networks fuel flights s).2
        (policy.runGroup networks' fuel flights t).2 := by
  induction fuel generalizing flights s t with
  | zero => exact ⟨rfl, h⟩
  | succ fuel ih =>
    rw [runGroup, runGroup]
    cases earliest? flights with
    | none => exact ⟨rfl, h⟩
    | some due =>
      obtain ⟨i, now⟩ := due
      have hnetworks := forall₂_getElem? halike i
      simp only
      generalize networks[i]? = found at *
      generalize networks'[i]? = found' at *
      cases hnetworks with
      | none => exact ⟨rfl, h⟩
      | @some network network' hnetwork =>
        match flights[i]? with
        | none => exact ⟨rfl, h⟩
        | some (.ended ending) => exact ⟨rfl, h⟩
        | some (.waiting retries delay _) =>
          obtain ⟨hflight, hagain, hstate⟩ := policy.fly_same hnetwork retries delay now h
          simp only [hflight, hagain]
          obtain ⟨hlater, hlast⟩ := ih
            (flights.set i (policy.fly network' retries delay now t).1) hstate
          simp only [hlater]
          exact ⟨trivial, hlast⟩

/-- Calls side by side whose attempts are answered alike do the same. -/
theorem runAll_same {calls : List (Network σ × Method)} {calls' : List (Network τ × Method)}
    (halike : List.Forall₂ (fun call call' => AnswersAlike R call.1 call'.1 ∧ call.2 = call'.2)
      calls calls') (now : Nat) {s : σ} {t : τ} (h : R s t) :
    (policy.runAll calls now s).1 = (policy.runAll calls' now t).1 ∧
      R (policy.runAll calls now s).2 (policy.runAll calls' now t).2 := by
  have hmethods : calls.map Prod.snd = calls'.map Prod.snd := by
    induction halike with
    | nil => rfl
    | cons hhead _ ih => rw [List.map_cons, List.map_cons, hhead.2, ih]
  have hflights : ∀ {ρ : Type} (calls : List (Network ρ × Method)),
      calls.map (fun call => Flight.waiting (policy.retryBudget call.2).toNat
        policy.initialDelay now) =
      (calls.map Prod.snd).map fun method => Flight.waiting (policy.retryBudget method).toNat
        policy.initialDelay now := fun calls => by rw [List.map_map]; rfl
  have hnetworks : List.Forall₂ (AnswersAlike R) (calls.map Prod.fst) (calls'.map Prod.fst) :=
    List.forall₂_map_left_iff.2 (List.forall₂_map_right_iff.2 (halike.imp fun _ _ h => h.1))
  simp only [runAll, hflights, hmethods]
  exact policy.runGroup_same hnetworks _ _ h

end RetryPolicy

end EdgeSetup
