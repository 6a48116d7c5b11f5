import EdgeSetup.Proofs.Session.Plays

/-!
# Sessions that differ in their requests

What a session can send is read off its histories (`Session.OnlySends`). Two sessions are alike
(`Session.Alike`) when they make requests at the same points, the same up to a relation, and go on
alike after the same answers. Sessions that may fail are alike when they are so as sessions
(`Attempting.Alike`), and both kinds compose.

Main statements: whatever one of two alike sessions can meet the other can meet too, up to the
relation, and it ends with the same value (`Session.Alike.runs`); in worlds that answer such
requests alike, sessions that are alike do the same at the same times, up to the relation
(`Session.Alike.run`).
-/

namespace EdgeSetup

open Http

variable {same : Request → Request → Prop} {α β : Type}

/-! ## What sessions send -/

namespace Session

/-- Every request that the session can send is of the kind. -/
def OnlySends (session : Session α) (kind : Request → Prop) : Prop :=
  ∀ events value, session.Runs events value → ∀ event ∈ events, ∀ sent ∈ event.requests,
    kind sent

namespace OnlySends

variable {session : Session α} {next : α → Session β} {kind kind' : Request → Prop}

theorem done (value : α) : (done value).OnlySends kind := by
  intro events result hruns event hevent
  rw [(runs_done.1 hruns).1] at hevent
  cases hevent

theorem mono (h : session.OnlySends kind) (himp : ∀ sent, kind sent → kind' sent) :
    session.OnlySends kind' :=
  fun events value hruns event hevent sent hsent =>
    himp sent (h events value hruns event hevent sent hsent)

theorem bind (h : session.OnlySends kind) (hnext : ∀ value, (next value).OnlySends kind) :
    (session.bind next).OnlySends kind := by
  intro events result hruns event hevent
  obtain ⟨first, rest, middle, rfl, hfirst, hrest⟩ := runs_bind.1 hruns
  rcases List.mem_append.1 hevent with hevent | hevent
  · exact h _ _ hfirst event hevent
  · exact hnext middle _ _ hrest event hevent

end OnlySends

end Session

/-! ## Events -/

theorem exists_like_of_mem {ι κ : Type} {like : ι → κ → Prop} {items : List ι} {items' : List κ}
    (h : List.Forall₂ like items items') {item : ι} (hmem : item ∈ items) :
    ∃ item', like item item' := by
  induction h with
  | nil => cases hmem
  | cons hhead _ ih =>
    rcases List.mem_cons.1 hmem with rfl | hmem
    · exact ⟨_, hhead⟩
    · exact ih hmem

/-- The events are the same, up to the relation of requests. -/
inductive Event.Alike (same : Request → Request → Prop) : Event → Event → Prop where
  | called {request request' : Request} {outcome : Outcome} (h : same request request') :
      Alike same (.called request outcome) (.called request' outcome)
  | calledAll {exchanges exchanges' : List (Request × Outcome)}
      (h : List.Forall₂ (fun exchange exchange' => same exchange.1 exchange'.1 ∧
        exchange.2 = exchange'.2) exchanges exchanges') :
      Alike same (.calledAll exchanges) (.calledAll exchanges')
  | issued {domain : String} {result : Except SetupError CertificateBundle} :
      Alike same (.issued domain result) (.issued domain result)
  | counted {counter : Counter} {amount : Nat} :
      Alike same (.counted counter amount) (.counted counter amount)

/-- What an event sends has its like in an event that is alike. -/
theorem Event.Alike.exists_like {event event' : Event} (h : Event.Alike same event event')
    {sent : Request} (hsent : sent ∈ event.requests) : ∃ sent', same sent sent' := by
  cases h with
  | called hrequest => exact ⟨_, List.mem_singleton.1 hsent ▸ hrequest⟩
  | calledAll hexchanges =>
    obtain ⟨exchange, hexchange, rfl⟩ := List.mem_map.1 hsent
    obtain ⟨exchange', hsame, -⟩ := exists_like_of_mem hexchanges hexchange
    exact ⟨_, hsame⟩
  | issued => cases hsent
  | counted => cases hsent

/-! ## Alike sessions -/

namespace Session

/-- The sessions make related requests at the same points, and go on alike after the same
answers. -/
inductive Alike (same : Request → Request → Prop) : Session α → Session α → Prop where
  | done (value : α) : Alike same (.done value) (.done value)
  | send {request request' : Request} {next next' : Outcome → Session α}
      (h : same request request') (rest : ∀ outcome, Alike same (next outcome) (next' outcome)) :
      Alike same (.send request next) (.send request' next')
  | sendAll {requests requests' : List Request} {next next' : List Outcome → Session α}
      (h : List.Forall₂ same requests requests')
      (rest : ∀ outcomes, Alike same (next outcomes) (next' outcomes)) :
      Alike same (.sendAll requests next) (.sendAll requests' next')
  | issue {domain : String} {next next' : Except SetupError CertificateBundle → Session α}
      (rest : ∀ result, Alike same (next result) (next' result)) :
      Alike same (.issue domain next) (.issue domain next')
  | count {counter : Counter} {amount : Nat} {next next' : Session α}
      (rest : Alike same next next') :
      Alike same (.count counter amount next) (.count counter amount next')

namespace Alike

variable {session session' : Session α} {next next' : α → Session β}

theorem bind (h : Alike same session session')
    (hnext : ∀ value, Alike same (next value) (next' value)) :
    Alike same (session.bind next) (session'.bind next') := by
  induction h with
  | done value => exact hnext value
  | send h _ ih => exact .send h ih
  | sendAll h _ ih => exact .sendAll h ih
  | issue _ ih => exact .issue ih
  | count _ ih => exact .count ih

/-- A session is like itself. -/
theorem refl (hsame : ∀ request, same request request) (session : Session α) :
    Alike same session session := by
  induction session with
  | done value => exact .done value
  | send request next ih => exact .send (hsame request) ih
  | sendAll requests next ih =>
    exact .sendAll (List.forall₂_same.2 fun request _ => hsame request) ih
  | issue domain next ih => exact .issue ih
  | count counter amount next ih => exact .count ih

theorem zip_alike {requests requests' : List Request} (h : List.Forall₂ same requests requests')
    (outcomes : List Outcome) :
    List.Forall₂ (fun exchange exchange' => same exchange.1 exchange'.1 ∧
      exchange.2 = exchange'.2) (requests.zip outcomes) (requests'.zip outcomes) := by
  induction h generalizing outcomes with
  | nil => exact .nil
  | cons hhead _ ih =>
    cases outcomes with
    | nil => exact .nil
    | cons outcome outcomes => exact .cons ⟨hhead, rfl⟩ (ih outcomes)

/-- Whatever the first session can meet the second can meet too, up to the relation, and it ends
with the same value. -/
theorem runs (h : Alike same session session') {events : List Event} {value : α}
    (hruns : session.Runs events value) :
    ∃ events', List.Forall₂ (Event.Alike same) events events' ∧ session'.Runs events' value := by
  induction hruns generalizing session' with
  | done value =>
    cases h
    exact ⟨[], .nil, .done value⟩
  | send _ ih =>
    cases h with
    | send hrequest rest =>
      obtain ⟨events', hevents, hruns⟩ := ih (rest _)
      exact ⟨_, .cons (.called hrequest) hevents, .send hruns⟩
  | @sendAll _ _ outcomes _ _ hlength _ ih =>
    cases h with
    | sendAll hrequests rest =>
      obtain ⟨events', hevents, hruns⟩ := ih (rest _)
      exact ⟨_, .cons (.calledAll (zip_alike hrequests outcomes)) hevents,
        .sendAll (hlength.trans hrequests.length_eq) hruns⟩
  | issue _ ih =>
    cases h with
    | issue rest =>
      obtain ⟨events', hevents, hruns⟩ := ih (rest _)
      exact ⟨_, .cons .issued hevents, .issue hruns⟩
  | count _ ih =>
    cases h with
    | count rest =>
      obtain ⟨events', hevents, hruns⟩ := ih rest
      exact ⟨_, .cons .counted hevents, .count hruns⟩

/-- Whatever the first session sends has its like. -/
theorem onlySends (h : Alike same session session') :
    session.OnlySends fun sent => ∃ sent', same sent sent' := by
  intro events value hruns event hevent sent hsent
  obtain ⟨events', hevents, -⟩ := h.runs hruns
  obtain ⟨event', hlike⟩ := exists_like_of_mem hevents hevent
  exact hlike.exists_like hsent

end Alike

end Session

/-! ## Worlds -/

/-- The entries record the same at the same time, up to the relation of requests. -/
inductive LogEntry.Alike (same : Request → Request → Prop) : LogEntry → LogEntry → Prop where
  | sent {time : Nat} {request request' : Request} (h : same request request') :
      Alike same (.sent time request) (.sent time request')
  | issued {time : Nat} {domain : String} : Alike same (.issued time domain) (.issued time domain)

variable {σ τ : Type} {R : σ → τ → Prop}

/-- The worlds show the same time and counts, and their logs and clusters are related. -/
structure World.Alike (same : Request → Request → Prop) (R : σ → τ → Prop) (world : World σ)
    (world' : World τ) : Prop where
  now : world.now = world'.now
  log : List.Forall₂ (LogEntry.Alike same) world.log world'.log
  counts : world.counts = world'.counts
  cluster : R world.cluster world'.cluster

/-- The outsides answer related requests alike and keep the clusters related. -/
structure Outside.Alike (same : Request → Request → Prop) (R : σ → τ → Prop)
    (outside : Outside σ) (outside' : Outside τ) : Prop where
  policy : outside.policy = outside'.policy
  issuer : outside.issuer = outside'.issuer
  respond : ∀ {request request' cluster cluster'}, same request request' → R cluster cluster' →
    (outside.respond request cluster).1 = (outside'.respond request' cluster').1 ∧
      R (outside.respond request cluster).2 (outside'.respond request' cluster').2

namespace World

variable {outside : Outside σ} {outside' : Outside τ} {world : World σ} {world' : World τ}

theorem Alike.start {cluster : σ} {cluster' : τ} (h : R cluster cluster') :
    Alike same R (start cluster) (start cluster') :=
  ⟨rfl, .nil, rfl, h⟩

theorem Alike.logged {entry entry' : LogEntry} (h : Alike same R world world')
    (hentry : LogEntry.Alike same entry entry') :
    Alike same R { world with log := world.log ++ [entry] }
      { world' with log := world'.log ++ [entry'] } :=
  ⟨h.now, List.rel_append h.log (.cons hentry .nil), h.counts, h.cluster⟩

theorem Alike.issued (h : Alike same R world world') (domain : String) :
    Alike same R { world with log := world.log ++ [.issued world.now domain] }
      { world' with log := world'.log ++ [.issued world'.now domain] } :=
  h.logged (h.now ▸ .issued)

theorem Alike.count (h : Alike same R world world') (counter : Counter) (amount : Nat) :
    Alike same R (world.count counter amount) (world'.count counter amount) :=
  ⟨h.now, h.log, congrArg (·.add counter amount) h.counts, h.cluster⟩

theorem Alike.at (h : Alike same R world world') (time : Nat) :
    Alike same R { world with now := time } { world' with now := time } :=
  ⟨rfl, h.log, h.counts, h.cluster⟩

theorem network_alike (h : outside.Alike same R outside') {request request' : Request}
    (hsame : same request request') :
    RetryPolicy.AnswersAlike (Alike same R) (network outside request)
      (network outside' request') := by
  intro now world world' hworld
  obtain ⟨hanswer, hcluster⟩ := h.respond hsame hworld.cluster
  obtain ⟨htime, hlog, hcounts, -⟩ := hworld.logged (@LogEntry.Alike.sent same now _ _ hsame)
  exact ⟨hanswer, htime, hlog, hcounts, hcluster⟩

/-- Related calls end alike, at the same time. -/
theorem call_same (h : outside.Alike same R outside') {request request' : Request}
    (hsame : same request request') (hmethod : request.method = request'.method)
    (hworld : Alike same R world world') :
    Option.Rel (fun p q => p.1 = q.1 ∧ Alike same R p.2 q.2) (world.call outside request)
      (world'.call outside' request') := by
  obtain ⟨htrace, hafter⟩ := outside.policy.runFrom_same (network_alike h hsame)
    (outside.policy.retryBudget request.method).toNat outside.policy.initialDelay world.now hworld
  simp only [call, RetryPolicy.run, ← h.policy, ← hmethod, ← hworld.now, ← htrace]
  split
  · exact .none
  · next time outcome hending => exact .some ⟨rfl, ((hafter.count _ _).count _ _).at time⟩

/-- Related calls side by side end alike, at the same time. -/
theorem callAll_same (h : outside.Alike same R outside')
    (hmethod : ∀ {request request'}, same request request' → request.method = request'.method)
    {requests requests' : List Request} (hsame : List.Forall₂ same requests requests')
    (hworld : Alike same R world world') :
    Option.Rel (fun p q => p.1 = q.1 ∧ Alike same R p.2 q.2) (world.callAll outside requests)
      (world'.callAll outside' requests') := by
  have hcalls : List.Forall₂ (fun call call' => RetryPolicy.AnswersAlike (Alike same R) call.1
        call'.1 ∧ call.2 = call'.2)
      (requests.map fun request => (network outside request, request.method))
      (requests'.map fun request => (network outside' request, request.method)) :=
    List.forall₂_map_left_iff.2 <| List.forall₂_map_right_iff.2 <|
      hsame.imp fun _ _ hsame => ⟨network_alike h hsame, hmethod hsame⟩
  obtain ⟨htrace, hafter⟩ := outside.policy.runAll_same hcalls world.now hworld
  simp only [callAll, ← h.policy, ← hworld.now, ← htrace]
  cases (outside.policy.runAll _ world.now world).1.endings.mapM outcome? with
  | none => exact .none
  | some ends => exact .some ⟨rfl, ((hafter.count _ _).count _ _).at _⟩

end World

/-- **Sessions that are alike do the same**: from related worlds neither ends, or both end with the
same value, at the same time, after the same requests up to the relation. -/
theorem Session.Alike.run {outside : Outside σ} {outside' : Outside τ}
    (houtside : outside.Alike same R outside')
    (hmethod : ∀ {request request'}, same request request' → request.method = request'.method)
    {session session' : Session α} (h : Session.Alike same session session') {world : World σ}
    {world' : World τ} (hworld : World.Alike same R world world') :
    Option.Rel (fun p q => p.1 = q.1 ∧ World.Alike same R p.2 q.2) (session.run outside world)
      (session'.run outside' world') := by
  induction h generalizing world world' with
  | done value => exact .some ⟨rfl, hworld⟩
  | @send request request' _ _ hsame _ ih =>
    have hcall := World.call_same houtside hsame (hmethod hsame) hworld
    simp only [Session.run]
    generalize world.call outside request = call at *
    generalize world'.call outside' request' = call' at *
    cases hcall with
    | none => exact .none
    | @some p q hends =>
      obtain ⟨outcome, after⟩ := p
      obtain ⟨_, after'⟩ := q
      obtain ⟨rfl, hafter⟩ := hends
      exact ih outcome hafter
  | @sendAll requests requests' _ _ hsame _ ih =>
    have hcalls := World.callAll_same houtside hmethod hsame hworld
    simp only [Session.run]
    generalize world.callAll outside requests = calls at *
    generalize world'.callAll outside' requests' = calls' at *
    cases hcalls with
    | none => exact .none
    | @some p q hends =>
      obtain ⟨outcomes, after⟩ := p
      obtain ⟨_, after'⟩ := q
      obtain ⟨rfl, hafter⟩ := hends
      exact ih outcomes hafter
  | @issue domain _ _ _ ih =>
    simp only [Session.run, ← houtside.issuer]
    exact ih (outside.issuer domain) (hworld.issued domain)
  | count _ ih => exact ih (hworld.count _ _)

/-! ## Sessions that may fail -/

namespace Attempting

/-- The sessions that may fail are alike. -/
def Alike (same : Request → Request → Prop) (action action' : Attempting α) : Prop :=
  Session.Alike same action.run action'.run

namespace Alike

variable {action action' : Attempting α} {next next' : α → Attempting β}

theorem refl (hsame : ∀ request, same request request) (action : Attempting α) :
    Alike same action action :=
  Session.Alike.refl hsame action.run

theorem ofExcept (known : Except SetupError α) :
    Alike same (liftM known : Attempting α) (liftM known) :=
  .done known

theorem pure (value : α) : Alike same (Pure.pure value : Attempting α) (Pure.pure value) :=
  Session.Alike.done (Except.ok value)

theorem throw (error : SetupError) :
    Alike same (throwThe SetupError error : Attempting α) (throwThe SetupError error) :=
  Session.Alike.done (Except.error error)

theorem lift {session session' : Session α} (h : Session.Alike same session session') :
    Alike same (liftM session) (liftM session') :=
  Session.Alike.bind h fun value => Session.Alike.done (Except.ok value)

theorem bind (h : Alike same action action')
    (hnext : ∀ value, Alike same (next value) (next' value)) :
    Alike same (action >>= next) (action' >>= next') := by
  refine Session.Alike.bind h fun result => ?_
  cases result with
  | error error => exact Session.Alike.done (Except.error error)
  | ok value => exact hnext value

theorem tryCatch (h : Alike same action action') {handle handle' : SetupError → Attempting α}
    (hhandle : ∀ error, Alike same (handle error) (handle' error)) :
    Alike same (MonadExcept.tryCatch action handle) (MonadExcept.tryCatch action' handle') := by
  refine Session.Alike.bind h fun result => ?_
  cases result with
  | error error => exact hhandle error
  | ok value => exact Session.Alike.done (Except.ok value)

end Alike

end Attempting

end EdgeSetup
