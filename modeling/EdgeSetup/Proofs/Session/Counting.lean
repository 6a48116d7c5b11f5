import EdgeSetup.Proofs.Session.Plays

/-!
# What is counted

Calls count their attempts and retries. All other counters are left to the session, so they grow by
what the events of a play count (`World.Undergoes.counts`). When every attempt is answered, every
play ends (`Session.exists_run`).
-/

namespace EdgeSetup

open Http

/-- How much an event counts on a counter. -/
def Event.amount (counter : Counter) : Event → Nat
  | .counted other amount => if other = counter then amount else 0
  | .called _ _ | .calledAll _ | .issued _ _ => 0

/-- How much events count on a counter. -/
def tallied (counter : Counter) : List Event → Nat
  | [] => 0
  | event :: events => event.amount counter + tallied counter events

namespace World

variable {σ : Type} {outside : Outside σ} {world after : World σ} {counter : Counter}

@[simp] theorem count_counts (world : World σ) (counter : Counter) (amount : Nat) :
    (world.count counter amount).counts = world.counts.add counter amount := rfl

/-- An attempt counts nothing; its call does, at its end. -/
theorem network_counts (outside : Outside σ) (request : Request) (now : Nat) (world : World σ) :
    (network outside request now world).2.counts = world.counts := rfl

theorem call_counts {request : Request} {outcome : Outcome}
    (hcall : world.call outside request = some (outcome, after)) (hattempts : counter ≠ .attempts)
    (hretries : counter ≠ .retries) : after.counts counter = world.counts counter := by
  have hkept := (outside.policy.runFrom_spec (network outside request)
    (P := fun state => state.counts = world.counts) (Q := fun _ _ => True)
    (fun now state h => ⟨(network_counts outside request now state).trans h, trivial⟩)
    (outside.policy.retryBudget request.method).toNat outside.policy.initialDelay world.now rfl).1
  simp only [call, RetryPolicy.run] at hcall
  split at hcall
  · cases hcall
  · cases hcall
    simp only [count_counts]
    rw [Counts.add_of_ne _ hretries, Counts.add_of_ne _ hattempts, hkept]

theorem callAll_counts {requests : List Request} {outcomes : List Outcome}
    (hcall : world.callAll outside requests = some (outcomes, after))
    (hattempts : counter ≠ .attempts) (hretries : counter ≠ .retries) :
    after.counts counter = world.counts counter := by
  have hkept := outside.policy.runAll_keeps
    (requests.map fun request => (network outside request, request.method)) world.now
    (P := fun state => state.counts = world.counts)
    (fun call hmem now state h => by
      obtain ⟨request, -, rfl⟩ := List.mem_map.1 hmem
      exact (network_counts outside request now state).trans h) rfl
  simp only [callAll] at hcall
  obtain ⟨ends, -, heq⟩ := Option.map_eq_some_iff.1 hcall
  cases heq
  simp only [count_counts]
  rw [Counts.add_of_ne _ hretries, Counts.add_of_ne _ hattempts, hkept]

/-- **A counter that calls leave alone grows by what the events count on it.** -/
theorem Undergoes.counts {events : List Event} (h : Undergoes outside world events after)
    (hattempts : counter ≠ .attempts) (hretries : counter ≠ .retries) :
    after.counts counter = world.counts counter + tallied counter events := by
  induction h with
  | nil world => rfl
  | called step rest ih =>
    rw [ih, call_counts step hattempts hretries, tallied]
    simp [Event.amount]
  | calledAll step rest ih =>
    rw [ih, callAll_counts step hattempts hretries, tallied]
    simp [Event.amount]
  | issued rest ih =>
    rw [ih, tallied]
    simp [Event.amount]
  | @counted world after other amount events rest ih =>
    rw [ih, tallied, Event.amount, count_counts]
    by_cases hother : other = counter
    · subst hother
      rw [if_pos rfl, Counts.add_self, Nat.add_assoc]
    · rw [if_neg hother, Counts.add_of_ne _ (Ne.symm hother), Nat.zero_add]

end World

/-- A play in which every attempt is answered ends. -/
theorem Session.exists_run {σ α : Type} {outside : Outside σ}
    (hanswers : ∀ request cluster, (outside.respond request cluster).1.latency ≠ none)
    (session : Session α) (world : World σ) :
    ∃ value after, session.run outside world = some (value, after) := by
  induction session generalizing world with
  | done value => exact ⟨value, world, rfl⟩
  | send request rest ih =>
    obtain ⟨outcome, middle, hcall⟩ := World.call_answered (hanswers request) world
    obtain ⟨value, after, hrest⟩ := ih outcome middle
    exact ⟨value, after, by rw [run, hcall, Option.bind_some]; exact hrest⟩
  | sendAll requests rest ih =>
    obtain ⟨outcomes, middle, hcall⟩ :=
      World.callAll_answered (fun request _ => hanswers request) world
    obtain ⟨value, after, hrest⟩ := ih outcomes middle
    exact ⟨value, after, by rw [run, hcall, Option.bind_some]; exact hrest⟩
  | issue domain rest ih => exact ih _ _
  | count counter amount rest ih => exact ih _

end EdgeSetup
