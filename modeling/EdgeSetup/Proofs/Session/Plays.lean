import EdgeSetup.Proofs.Retry.Groups
import EdgeSetup.Proofs.Session.Histories
import EdgeSetup.Session.World

/-!
# Sessions in a world

A world that plays a session undergoes events, and these are a history of the session
(`Session.run_eq_some`). So what is proved of all histories holds of every play.

A call changes the cluster and the log as its attempts do: what each attempt keeps, the call keeps
(`World.call_spec`), and calls that are answered end (`World.call_answered`).
-/

namespace EdgeSetup

open Http

/-- Results can be compared, so that plays can be tested. -/
instance decidableEqExcept {ε α : Type} [DecidableEq ε] [DecidableEq α] :
    DecidableEq (Except ε α)
  | .ok a, .ok b => decidable_of_iff (a = b) (by simp)
  | .error a, .error b => decidable_of_iff (a = b) (by simp)
  | .ok _, .error _ => isFalse nofun
  | .error _, .ok _ => isFalse nofun

namespace World

variable {σ τ : Type} {outside : Outside σ} {world after : World σ} {request : Request}

/-! ## Calls -/

/-- What each attempt keeps of the cluster and the log, a call keeps, and its outcome is that of
its last attempt. -/
theorem call_spec {P : σ → List LogEntry → Prop} {Q : Outcome → σ → Prop}
    (hstep : ∀ now cluster log, P cluster log →
      P (outside.respond request cluster).2 (log ++ [.sent now request]) ∧
        Q (outside.respond request cluster).1.outcome (outside.respond request cluster).2)
    {outcome : Outcome} (h : P world.cluster world.log)
    (hcall : world.call outside request = some (outcome, after)) :
    P after.cluster after.log ∧ Q outcome after.cluster := by
  have hspec := outside.policy.runFrom_spec (network outside request)
    (P := fun world => P world.cluster world.log)
    (Q := fun outcome world => Q outcome world.cluster)
    (fun now (world : World σ) hworld => hstep now world.cluster world.log hworld)
    (outside.policy.retryBudget request.method).toNat outside.policy.initialDelay world.now h
  simp only [call, RetryPolicy.run] at hcall
  split at hcall
  · cases hcall
  · next time outcome' hending =>
    cases hcall
    exact ⟨hspec.1, hspec.2 time _ hending⟩

/-- A call whose attempts are all answered ends. -/
theorem call_answered (hanswers : ∀ cluster, (outside.respond request cluster).1.latency ≠ none)
    (world : World σ) : ∃ outcome after, world.call outside request = some (outcome, after) := by
  obtain ⟨time, outcome, hending⟩ := outside.policy.runFrom_ends (network outside request)
    (fun now (world : World σ) => hanswers world.cluster)
    (outside.policy.retryBudget request.method).toNat outside.policy.initialDelay world.now world
  simp only [call, RetryPolicy.run]
  split
  · next hnever => cases hnever.symm.trans hending
  · exact ⟨_, _, rfl⟩

/-- Calls whose attempts are answered alike end alike. -/
theorem call_alike (request : Request) {outside' : Outside τ}
    (hpolicy : outside.policy = outside'.policy)
    {R : σ → List LogEntry → τ → List LogEntry → Prop}
    (hstep : ∀ now now' cluster log cluster' log', R cluster log cluster' log' →
      (outside.respond request cluster).1 = (outside'.respond request cluster').1 ∧
        R (outside.respond request cluster).2 (log ++ [.sent now request])
          (outside'.respond request cluster').2 (log' ++ [.sent now' request]))
    {world : World σ} {world' : World τ}
    (h : R world.cluster world.log world'.cluster world'.log) :
    Option.Rel (fun p q => p.1 = q.1 ∧ R p.2.cluster p.2.log q.2.cluster q.2.log)
      (world.call outside request) (world'.call outside' request) := by
  have halike := outside.policy.runFrom_alike (network outside request)
    (network outside' request)
    (R := fun world world' => R world.cluster world.log world'.cluster world'.log)
    (fun now now' world world' hworld => hstep now now' _ _ _ _ hworld)
    (outside.policy.retryBudget request.method).toNat outside.policy.initialDelay
    world.now world'.now h
  simp only [call, RetryPolicy.run, ← hpolicy]
  generalize outside.policy.runFrom none (network outside request) _ _ world.now world = run at *
  generalize outside.policy.runFrom none (network outside' request) _ _ world'.now world' =
    run' at *
  obtain ⟨⟨attempts, retries, ending⟩, state⟩ := run
  obtain ⟨⟨attempts', retries', ending'⟩, state'⟩ := run'
  obtain ⟨hending, hstate⟩ := halike
  cases hending with
  | never => exact .none
  | «at» => exact .some ⟨rfl, hstate⟩

/-! ## Calls side by side -/

theorem mapM_outcome?_length {endings : List Ending} {ends : List (Nat × Outcome)}
    (h : endings.mapM outcome? = some ends) : ends.length = endings.length := by
  induction endings generalizing ends with
  | nil =>
    cases h
    rfl
  | cons ending endings ih =>
    rw [List.mapM_cons] at h
    obtain ⟨first, -, hrest⟩ := Option.bind_eq_some_iff.1 h
    obtain ⟨rest, hmap, hends⟩ := Option.bind_eq_some_iff.1 hrest
    cases hends
    rw [List.length_cons, List.length_cons, ih hmap]

theorem mapM_outcome?_answered {endings : List Ending} (h : ∀ ending ∈ endings, ending ≠ .never) :
    ∃ ends, endings.mapM outcome? = some ends := by
  induction endings with
  | nil => exact ⟨[], rfl⟩
  | cons ending endings ih =>
    obtain ⟨ends, hends⟩ := ih fun other hother => h other (List.mem_cons_of_mem _ hother)
    cases ending with
    | never => exact absurd rfl (h _ (List.mem_cons_self ..))
    | «at» time outcome =>
      refine ⟨(time, outcome) :: ends, ?_⟩
      rw [List.mapM_cons, hends]
      rfl

theorem callAll_eq_some {requests : List Request} {outcomes : List Outcome}
    (h : world.callAll outside requests = some (outcomes, after)) :
    ∃ calls : List (Network (World σ) × Method),
      calls = requests.map (fun request => (network outside request, request.method)) ∧
        outcomes.length = (outside.policy.runAll calls world.now world).1.endings.length ∧
        after.cluster = (outside.policy.runAll calls world.now world).2.cluster ∧
        after.log = (outside.policy.runAll calls world.now world).2.log := by
  simp only [callAll] at h
  obtain ⟨ends, hends, heq⟩ := Option.map_eq_some_iff.1 h
  cases heq
  exact ⟨_, rfl, by rw [List.length_map, mapM_outcome?_length hends], rfl, rfl⟩

/-- Calls side by side have one outcome each. -/
theorem callAll_length {requests : List Request} {outcomes : List Outcome}
    (h : world.callAll outside requests = some (outcomes, after)) :
    outcomes.length = requests.length := by
  obtain ⟨calls, rfl, hlength, -⟩ := callAll_eq_some h
  rw [hlength, RetryPolicy.runAll_length, List.length_map]

/-- What each attempt keeps of the cluster and the log, calls side by side keep. -/
theorem callAll_keeps {P : σ → List LogEntry → Prop} {requests : List Request}
    (hstep : ∀ request ∈ requests, ∀ now cluster log, P cluster log →
      P (outside.respond request cluster).2 (log ++ [.sent now request]))
    {outcomes : List Outcome} (h : P world.cluster world.log)
    (hcall : world.callAll outside requests = some (outcomes, after)) :
    P after.cluster after.log := by
  obtain ⟨calls, rfl, -, hcluster, hlog⟩ := callAll_eq_some hcall
  rw [hcluster, hlog]
  refine outside.policy.runAll_keeps _ _ (P := fun world : World σ => P world.cluster world.log)
    (fun call hmem now world hworld => ?_) h
  obtain ⟨request, hrequest, rfl⟩ := List.mem_map.1 hmem
  exact hstep request hrequest now world.cluster world.log hworld

/-- Calls side by side whose attempts are all answered all end. -/
theorem callAll_answered {requests : List Request}
    (hanswers : ∀ request ∈ requests, ∀ cluster,
      (outside.respond request cluster).1.latency ≠ none) (world : World σ) :
    ∃ outcomes after, world.callAll outside requests = some (outcomes, after) := by
  have hends := outside.policy.runAll_ends
    (requests.map fun request => (network outside request, request.method)) world.now
    (fun call hmem now world => by
      obtain ⟨request, hrequest, rfl⟩ := List.mem_map.1 hmem
      exact hanswers request hrequest world.cluster) world
  obtain ⟨ends, hends⟩ := mapM_outcome?_answered hends
  simp only [callAll, hends]
  exact ⟨_, _, rfl⟩

/-! ## Events of a world -/

end World

/-- The requests that an event exchanges. -/
def Event.requests : Event → List Request
  | .called request _ => [request]
  | .calledAll exchanges => exchanges.map Prod.fst
  | .issued _ _ | .counted _ _ => []

namespace World

variable {σ : Type} {outside : Outside σ}

/-- The world undergoes the events, in order. -/
inductive Undergoes (outside : Outside σ) : World σ → List Event → World σ → Prop where
  | nil (world : World σ) : Undergoes outside world [] world
  | called {world middle after : World σ} {request : Request} {outcome : Outcome}
      {events : List Event} (step : world.call outside request = some (outcome, middle))
      (rest : Undergoes outside middle events after) :
      Undergoes outside world (.called request outcome :: events) after
  | calledAll {world middle after : World σ} {requests : List Request} {outcomes : List Outcome}
      {events : List Event} (step : world.callAll outside requests = some (outcomes, middle))
      (rest : Undergoes outside middle events after) :
      Undergoes outside world (.calledAll (requests.zip outcomes) :: events) after
  | issued {world after : World σ} {domain : String} {events : List Event}
      (rest : Undergoes outside { world with log := world.log ++ [.issued world.now domain] }
        events after) :
      Undergoes outside world (.issued domain (outside.issuer domain) :: events) after
  | counted {world after : World σ} {counter : Counter} {amount : Nat} {events : List Event}
      (rest : Undergoes outside (world.count counter amount) events after) :
      Undergoes outside world (.counted counter amount :: events) after

theorem Undergoes.split {first rest : List Event} {world after : World σ}
    (h : Undergoes outside world (first ++ rest) after) :
    ∃ middle, Undergoes outside world first middle ∧ Undergoes outside middle rest after := by
  induction first generalizing world with
  | nil => exact ⟨world, .nil world, h⟩
  | cons event first ih =>
    cases h with
    | called step later =>
      obtain ⟨middle, hfirst, hrest⟩ := ih later
      exact ⟨middle, .called step hfirst, hrest⟩
    | calledAll step later =>
      obtain ⟨middle, hfirst, hrest⟩ := ih later
      exact ⟨middle, .calledAll step hfirst, hrest⟩
    | issued later =>
      obtain ⟨middle, hfirst, hrest⟩ := ih later
      exact ⟨middle, .issued hfirst, hrest⟩
    | counted later =>
      obtain ⟨middle, hfirst, hrest⟩ := ih later
      exact ⟨middle, .counted hfirst, hrest⟩

/-- What each attempt at the requests of the events keeps of the cluster, the events keep. -/
theorem Undergoes.keeps {P : σ → Prop} {events : List Event} {world after : World σ}
    (h : Undergoes outside world events after)
    (hstep : ∀ event ∈ events, ∀ request ∈ event.requests, ∀ cluster, P cluster →
      P (outside.respond request cluster).2) (hworld : P world.cluster) : P after.cluster := by
  induction h with
  | nil world => exact hworld
  | called step rest ih =>
    refine ih (fun event hmem => hstep event (List.mem_cons_of_mem _ hmem)) ?_
    have hrequest := hstep _ (List.mem_cons_self ..) _ (List.mem_singleton_self _)
    exact (call_spec (P := fun cluster _ => P cluster) (Q := fun _ _ => True)
      (fun _ cluster _ hcluster => ⟨hrequest cluster hcluster, trivial⟩) hworld step).1
  | @calledAll _ _ _ requests outcomes _ step rest ih =>
    refine ih (fun event hmem => hstep event (List.mem_cons_of_mem _ hmem)) ?_
    have hrequests := hstep _ (List.mem_cons_self ..)
    have hfst : (requests.zip outcomes).map Prod.fst = requests :=
      List.map_fst_zip (Nat.le_of_eq (callAll_length step).symm)
    refine callAll_keeps (P := fun cluster _ => P cluster)
      (fun request hmem _ cluster _ hcluster => hrequests request ?_ cluster hcluster) hworld step
    rw [Event.requests, hfst]
    exact hmem
  | issued rest ih =>
    exact ih (fun event hmem => hstep event (List.mem_cons_of_mem _ hmem)) hworld
  | counted rest ih =>
    exact ih (fun event hmem => hstep event (List.mem_cons_of_mem _ hmem)) hworld

end World

namespace Session

variable {σ α β : Type} {outside : Outside σ}

/-- Playing a composed session is playing its parts. -/
theorem run_bind (session : Session α) (next : α → Session β) (world : World σ) :
    (session.bind next).run outside world =
      (session.run outside world).bind fun (value, world) => (next value).run outside world := by
  induction session generalizing world with
  | done value => rfl
  | send request rest ih =>
    simp only [bind, run, ih, Option.bind_assoc]
  | sendAll requests rest ih =>
    simp only [bind, run, ih, Option.bind_assoc]
  | issue domain rest ih => exact ih _ _
  | count counter amount rest ih => exact ih _

/-- **Every play is a history**: the events that the world undergoes are ones that the session can
meet. -/
theorem run_eq_some {session : Session α} {world after : World σ} {value : α}
    (h : session.run outside world = some (value, after)) :
    ∃ events, session.Runs events value ∧ World.Undergoes outside world events after := by
  induction session generalizing world with
  | done value =>
    cases h
    exact ⟨[], .done _, .nil _⟩
  | send request rest ih =>
    obtain ⟨⟨outcome, middle⟩, hcall, hrest⟩ := Option.bind_eq_some_iff.1 h
    obtain ⟨events, hruns, hundergoes⟩ := ih outcome hrest
    exact ⟨_, .send hruns, .called hcall hundergoes⟩
  | sendAll requests rest ih =>
    obtain ⟨⟨outcomes, middle⟩, hcall, hrest⟩ := Option.bind_eq_some_iff.1 h
    obtain ⟨events, hruns, hundergoes⟩ := ih outcomes hrest
    exact ⟨_, .sendAll (World.callAll_length hcall) hruns, .calledAll hcall hundergoes⟩
  | issue domain rest ih =>
    obtain ⟨events, hruns, hundergoes⟩ := ih _ h
    exact ⟨_, .issue hruns, .issued hundergoes⟩
  | count counter amount rest ih =>
    obtain ⟨events, hruns, hundergoes⟩ := ih h
    exact ⟨_, .count hruns, .counted hundergoes⟩

theorem runs_of_run {session : Session α} {world : World σ} {value : α}
    (h : (session.run outside world).map Prod.fst = some value) :
    ∃ events, session.Runs events value := by
  obtain ⟨⟨_, after⟩, hrun, rfl⟩ := Option.map_eq_some_iff.1 h
  obtain ⟨events, hruns, -⟩ := run_eq_some hrun
  exact ⟨events, hruns⟩

end Session

end EdgeSetup
