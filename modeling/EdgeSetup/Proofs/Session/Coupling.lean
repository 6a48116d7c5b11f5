import EdgeSetup.Proofs.Session.Plays

/-!
# Sessions in two worlds

Two worlds are related by what one of them shows (`Coupling`): requests that decide are answered
alike in both, and other requests, the quiet ones, change nothing that is shown. Sessions whose
events decide then have the same result in both worlds (`coupled_of_decisive`), and sessions whose
events are quiet end in both (`coupled_of_quiet`). Couplings compose (`Coupled.bind`).
-/

namespace EdgeSetup

open Http

/-! ## Kinds of events -/

/-- The event is one exchange of a permitted request, an issuance or a count. -/
inductive Event.Decides (decisive : Request → Prop) : Event → Prop where
  | called {request : Request} {outcome : Outcome} (h : decisive request) :
      Decides decisive (.called request outcome)
  | issued {hostname : String} {result : Except SetupError CertificateBundle} :
      Decides decisive (.issued hostname result)
  | counted {counter : Counter} {amount : Nat} : Decides decisive (.counted counter amount)

/-- The event exchanges quiet requests only, or is a count. -/
inductive Event.IsQuiet (quiet : Request → Prop) : Event → Prop where
  | called {request : Request} {outcome : Outcome} (h : quiet request) :
      IsQuiet quiet (.called request outcome)
  | calledAll {exchanges : List (Request × Outcome)}
      (h : ∀ exchange ∈ exchanges, quiet exchange.1) : IsQuiet quiet (.calledAll exchanges)
  | counted {counter : Counter} {amount : Nat} : IsQuiet quiet (.counted counter amount)

/-! ## Related worlds -/

/-- What two outsides have in common when only quiet requests may be answered differently. -/
structure Coupling {σ τ : Type} (outside : Outside σ) (outside' : Outside τ)
    (decisive quiet : Request → Prop)
    (R : σ → List LogEntry → τ → List LogEntry → Prop) : Prop where
  policy : outside.policy = outside'.policy
  issuer : outside.issuer = outside'.issuer
  issued : ∀ {hostname now now' cluster log cluster' log'}, R cluster log cluster' log' →
    R cluster (log ++ [.issued now hostname]) cluster' (log' ++ [.issued now' hostname])
  decides : ∀ {request}, decisive request → ∀ {now now' cluster log cluster' log'},
    R cluster log cluster' log' →
      (outside.respond request cluster).1 = (outside'.respond request cluster').1 ∧
        R (outside.respond request cluster).2 (log ++ [.sent now request])
          (outside'.respond request cluster').2 (log' ++ [.sent now' request])
  quietLeft : ∀ {request}, quiet request → ∀ {now cluster log cluster' log'},
    R cluster log cluster' log' →
      R (outside.respond request cluster).2 (log ++ [.sent now request]) cluster' log'
  quietRight : ∀ {request}, quiet request → ∀ {now cluster log cluster' log'},
    R cluster log cluster' log' →
      R cluster log (outside'.respond request cluster').2 (log' ++ [.sent now request])
  answeredLeft : ∀ {request}, quiet request → ∀ cluster,
    (outside.respond request cluster).1.latency ≠ none
  answeredRight : ∀ {request}, quiet request → ∀ cluster,
    (outside'.respond request cluster).1.latency ≠ none

variable {σ τ α β : Type} {outside : Outside σ} {outside' : Outside τ}
  {decisive quiet : Request → Prop} {R : σ → List LogEntry → τ → List LogEntry → Prop}

namespace Session

/-- From related worlds, neither session ends, or both end in related values and worlds. -/
def Coupled (outside : Outside σ) (outside' : Outside τ)
    (R : σ → List LogEntry → τ → List LogEntry → Prop) (rel : α → β → Prop)
    (session : Session α) (session' : Session β) : Prop :=
  ∀ (world : World σ) (world' : World τ), R world.cluster world.log world'.cluster world'.log →
    Option.Rel (fun p q => rel p.1 q.1 ∧ R p.2.cluster p.2.log q.2.cluster q.2.log)
      (session.run outside world) (session'.run outside' world')

theorem Coupled.done {rel : α → β → Prop} {value : α} {value' : β} (h : rel value value') :
    Coupled outside outside' R rel (.done value) (.done value') :=
  fun _ _ hworld => .some ⟨h, hworld⟩

theorem Coupled.mono {rel rel' : α → β → Prop} {session : Session α} {session' : Session β}
    (h : Coupled outside outside' R rel session session')
    (hrel : ∀ value value', rel value value' → rel' value value') :
    Coupled outside outside' R rel' session session' := by
  intro world world' hworld
  have hrun := h _ _ hworld
  generalize session.run outside world = run at *
  generalize session'.run outside' world' = run' at *
  cases hrun with
  | none => exact .none
  | some hends => exact .some ⟨hrel _ _ hends.1, hends.2⟩

/-- Coupled sessions that go on coupled are coupled. -/
theorem Coupled.bind {γ δ : Type} {rel : α → β → Prop} {rel' : γ → δ → Prop}
    {session : Session α} {session' : Session β} {next : α → Session γ} {next' : β → Session δ}
    (h : Coupled outside outside' R rel session session')
    (hnext : ∀ value value', rel value value' →
      Coupled outside outside' R rel' (next value) (next' value')) :
    Coupled outside outside' R rel' (session.bind next) (session'.bind next') := by
  intro world world' hworld
  have hrun := h _ _ hworld
  rw [run_bind, run_bind]
  generalize session.run outside world = run at *
  generalize session'.run outside' world' = run' at *
  cases hrun with
  | none => exact .none
  | some hends => exact hnext _ _ hends.1 _ _ hends.2

/-- Sessions whose events decide have the same result in related worlds. -/
theorem coupled_of_decisive (coupling : Coupling outside outside' decisive quiet R)
    {session : Session α}
    (hdecides : ∀ events value, session.Runs events value →
      ∀ event ∈ events, Event.Decides decisive event) :
    Coupled outside outside' R Eq session session := by
  induction session with
  | done value => exact Coupled.done rfl
  | send request rest ih =>
    obtain ⟨events, value, hruns⟩ := (rest (.error .aborted)).exists_runs
    have hrequest : decisive request := by
      cases hdecides _ _ (.send hruns) _ (List.mem_cons_self ..) with
      | called h => exact h
    intro world world' hworld
    have hcall := World.call_alike request coupling.policy
      (fun _ _ _ _ _ _ h => coupling.decides hrequest h) hworld
    simp only [run]
    generalize world.call outside request = call at *
    generalize world'.call outside' request = call' at *
    cases hcall with
    | none => exact .none
    | @some p q hends =>
      obtain ⟨outcome, after⟩ := p
      obtain ⟨_, after'⟩ := q
      obtain ⟨rfl, hafter⟩ := hends
      exact ih outcome (fun events value h event hmem =>
        hdecides _ _ (.send h) event (List.mem_cons_of_mem _ hmem)) _ _ hafter
  | sendAll requests rest ih =>
    obtain ⟨events, value, hruns⟩ :=
      (rest (List.replicate requests.length (.error .aborted))).exists_runs
    cases hdecides _ _ (.sendAll List.length_replicate hruns) _ (List.mem_cons_self ..)
  | issue domain rest ih =>
    intro world world' hworld
    simp only [run]
    rw [coupling.issuer]
    exact ih _ (fun events value h event hmem =>
      hdecides _ _ (.issue h) event (List.mem_cons_of_mem _ hmem)) _ _ (coupling.issued hworld)
  | count counter amount rest ih =>
    intro world world' hworld
    exact ih (fun events value h event hmem =>
      hdecides _ _ (.count h) event (List.mem_cons_of_mem _ hmem)) _ _ hworld

/-- A session whose events decide ends when each call that decides does. -/
theorem exists_run_of_decisive
    (hends : ∀ {request}, decisive request → ∀ world : World σ,
      ∃ outcome after, world.call outside request = some (outcome, after))
    {session : Session α}
    (hdecides : ∀ events value, session.Runs events value →
      ∀ event ∈ events, Event.Decides decisive event) (world : World σ) :
    ∃ value after, session.run outside world = some (value, after) := by
  induction session generalizing world with
  | done value => exact ⟨value, world, rfl⟩
  | send request rest ih =>
    obtain ⟨events, value, hruns⟩ := (rest (.error .aborted)).exists_runs
    have hrequest : decisive request := by
      cases hdecides _ _ (.send hruns) _ (List.mem_cons_self ..) with
      | called h => exact h
    obtain ⟨outcome, middle, hcall⟩ := hends hrequest world
    simp only [run, hcall, Option.bind_some]
    exact ih outcome (fun events value h event hmem =>
      hdecides _ _ (.send h) event (List.mem_cons_of_mem _ hmem)) middle
  | sendAll requests rest ih =>
    obtain ⟨events, value, hruns⟩ :=
      (rest (List.replicate requests.length (.error .aborted))).exists_runs
    cases hdecides _ _ (.sendAll List.length_replicate hruns) _ (List.mem_cons_self ..)
  | issue domain rest ih =>
    exact ih _ (fun events value h event hmem =>
      hdecides _ _ (.issue h) event (List.mem_cons_of_mem _ hmem)) _
  | count counter amount rest ih =>
    exact ih (fun events value h event hmem =>
      hdecides _ _ (.count h) event (List.mem_cons_of_mem _ hmem)) _

/-- A session whose events are quiet ends when quiet requests are answered, and it keeps what they
keep. -/
theorem run_of_quiet (hanswered : ∀ {request}, quiet request → ∀ cluster,
      (outside.respond request cluster).1.latency ≠ none)
    {P : σ → List LogEntry → Prop}
    (hkeeps : ∀ {request}, quiet request → ∀ {now cluster log}, P cluster log →
      P (outside.respond request cluster).2 (log ++ [.sent now request]))
    {session : Session α}
    (hquiet : ∀ events value, session.Runs events value →
      ∀ event ∈ events, Event.IsQuiet quiet event)
    {world : World σ} (h : P world.cluster world.log) :
    ∃ value after, session.run outside world = some (value, after) ∧
      P after.cluster after.log := by
  induction session generalizing world with
  | done value => exact ⟨value, world, rfl, h⟩
  | send request rest ih =>
    obtain ⟨events, value, hruns⟩ := (rest (.error .aborted)).exists_runs
    have hrequest : quiet request := by
      cases hquiet _ _ (.send hruns) _ (List.mem_cons_self ..) with
      | called h => exact h
    obtain ⟨outcome, middle, hcall⟩ := World.call_answered (hanswered hrequest) world
    obtain ⟨hmiddle, -⟩ := World.call_spec (Q := fun _ _ => True)
      (fun _ _ _ h => ⟨hkeeps hrequest h, trivial⟩) h hcall
    simp only [run, hcall, Option.bind_some]
    exact ih outcome (fun events value h event hmem =>
      hquiet _ _ (.send h) event (List.mem_cons_of_mem _ hmem)) hmiddle
  | sendAll requests rest ih =>
    have hrequests : ∀ request ∈ requests, quiet request := by
      obtain ⟨events, value, hruns⟩ :=
        (rest (List.replicate requests.length (.error .aborted))).exists_runs
      cases hquiet _ _ (.sendAll List.length_replicate hruns) _ (List.mem_cons_self ..) with
      | calledAll hexchanges =>
        intro request hmem
        have hfst : (requests.zip (List.replicate requests.length
            (.error .aborted : Outcome))).map Prod.fst = requests :=
          List.map_fst_zip (Nat.le_of_eq List.length_replicate.symm)
        rw [← hfst] at hmem
        obtain ⟨exchange, hexchange, hsent⟩ := List.mem_map.1 hmem
        exact hsent ▸ hexchanges exchange hexchange
    obtain ⟨outcomes, middle, hcall⟩ := World.callAll_answered
      (fun request hmem => hanswered (hrequests request hmem)) world
    have hmiddle := World.callAll_keeps
      (fun request hmem _ _ _ h => hkeeps (hrequests request hmem) h) h hcall
    simp only [run, hcall, Option.bind_some]
    exact ih outcomes (fun events value h event hmem =>
      hquiet _ _ (.sendAll (World.callAll_length hcall) h) event (List.mem_cons_of_mem _ hmem))
      hmiddle
  | issue domain rest ih =>
    obtain ⟨events, value, hruns⟩ := (rest (.error (.other ""))).exists_runs
    cases hquiet _ _ (.issue hruns) _ (List.mem_cons_self ..)
  | count counter amount rest ih =>
    exact ih (fun events value h event hmem =>
      hquiet _ _ (.count h) event (List.mem_cons_of_mem _ hmem)) h

/-- Sessions whose events are quiet end in related worlds, with values of their own. -/
theorem coupled_of_quiet (coupling : Coupling outside outside' decisive quiet R)
    {session : Session α} {session' : Session β}
    (hquiet : ∀ events value, session.Runs events value →
      ∀ event ∈ events, Event.IsQuiet quiet event)
    (hquiet' : ∀ events value, session'.Runs events value →
      ∀ event ∈ events, Event.IsQuiet quiet event) :
    Coupled outside outside' R
      (fun value value' => (∃ events, session.Runs events value) ∧
        ∃ events, session'.Runs events value') session session' := by
  intro world world' hworld
  obtain ⟨value, after, hrun, hafter⟩ :=
    run_of_quiet (fun hrequest => coupling.answeredLeft hrequest)
    (P := fun cluster log => R cluster log world'.cluster world'.log)
    (fun hrequest _ _ _ h => coupling.quietLeft hrequest h) hquiet hworld
  obtain ⟨value', after', hrun', hafter'⟩ :=
    run_of_quiet (fun hrequest => coupling.answeredRight hrequest)
    (P := fun cluster log => R after.cluster after.log cluster log)
    (fun hrequest _ _ _ h => coupling.quietRight hrequest h) hquiet' hafter
  obtain ⟨events, hruns, -⟩ := run_eq_some hrun
  obtain ⟨events', hruns', -⟩ := run_eq_some hrun'
  rw [hrun, hrun']
  exact .some ⟨⟨⟨events, hruns⟩, events', hruns'⟩, hafter'⟩

end Session

/-! ## Sessions that may fail -/

namespace Attempting

/-- Both failed alike, or both have related values. -/
inductive Matches (rel : α → β → Prop) : Except SetupError α → Except SetupError β → Prop where
  | error (error : SetupError) : Matches rel (.error error) (.error error)
  | ok {value : α} {value' : β} (h : rel value value') : Matches rel (.ok value) (.ok value')

/-- From related worlds, neither session ends, or both end in related worlds and either fail alike
or have related values. -/
def Coupled (outside : Outside σ) (outside' : Outside τ)
    (R : σ → List LogEntry → τ → List LogEntry → Prop) (rel : α → β → Prop)
    (action : Attempting α) (action' : Attempting β) : Prop :=
  Session.Coupled outside outside' R (Matches rel) action.run action'.run

theorem Coupled.ofExcept (known : Except SetupError α) :
    Coupled outside outside' R Eq (liftM known) (liftM known) := by
  refine Session.Coupled.done ?_
  cases known with
  | error error => exact .error error
  | ok value => exact .ok rfl

theorem Coupled.pure {rel : α → β → Prop} {value : α} {value' : β} (h : rel value value') :
    Coupled outside outside' R rel (pure value) (pure value') :=
  Session.Coupled.done (.ok h)

theorem Coupled.bind {γ δ : Type} {rel : α → β → Prop} {rel' : γ → δ → Prop}
    {action : Attempting α} {action' : Attempting β} {next : α → Attempting γ}
    {next' : β → Attempting δ} (h : Coupled outside outside' R rel action action')
    (hnext : ∀ value value', rel value value' →
      Coupled outside outside' R rel' (next value) (next' value')) :
    Coupled outside outside' R rel' (action >>= next) (action' >>= next') := by
  refine Session.Coupled.bind h fun result result' hresult => ?_
  cases hresult with
  | error error => exact Session.Coupled.done (.error error)
  | ok hvalue => exact hnext _ _ hvalue

theorem coupled_of_decisive (coupling : Coupling outside outside' decisive quiet R)
    {action : Attempting α}
    (hdecides : ∀ {events result}, Runs action events result →
      ∀ event ∈ events, Event.Decides decisive event) :
    Coupled outside outside' R Eq action action := by
  refine (Session.coupled_of_decisive coupling fun _ _ => hdecides).mono ?_
  rintro (error | value) _ rfl
  · exact .error error
  · exact .ok rfl

/-- Quiet sessions that never fail go on in both worlds, with values of their own. -/
theorem coupled_of_quiet (coupling : Coupling outside outside' decisive quiet R)
    {action action' : Attempting α}
    (hquiet : ∀ {events result}, Runs action events result →
      (∃ value, result = .ok value) ∧ ∀ event ∈ events, Event.IsQuiet quiet event)
    (hquiet' : ∀ {events result}, Runs action' events result →
      (∃ value, result = .ok value) ∧ ∀ event ∈ events, Event.IsQuiet quiet event) :
    Coupled outside outside' R (fun _ _ => True) action action' := by
  refine (Session.coupled_of_quiet coupling (fun _ _ h => (hquiet h).2)
    (fun _ _ h => (hquiet' h).2)).mono ?_
  rintro result result' ⟨⟨events, hruns⟩, events', hruns'⟩
  obtain ⟨value, rfl⟩ := (hquiet hruns).1
  obtain ⟨value', rfl⟩ := (hquiet' hruns').1
  exact .ok trivial

end Attempting

end EdgeSetup
