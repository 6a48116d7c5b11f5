import EdgeSetup.Proofs.Cluster.Calls
import EdgeSetup.Proofs.Session.Coupling
import EdgeSetup.StaticIps

/-!
# The course of a batch of hosts

A batch writes its hosts one after the other, each with one request, and the first host that is
turned down or not written ends it (`Course`).

**Main theorem (`course_of_runs`).** Every run over a batch takes such a course, with the status
that its result is reported with.

A batch over `before ++ after` is the batch over `before` and then the one over `after`
(`applyAll_append`), so what stands after a host does not matter to the hosts up to it.
-/

namespace EdgeSetup

open Json Http

namespace StaticIps

variable {client : Client} {token : String}

/-! ## One host -/

/-- The request that writes a host: it patches the policy that the host names, or creates one. -/
def hostWrite (client : Client) (token : String) (host : Host) : Request :=
  match existingPolicy? host with
  | some name =>
    client.patchRequest token (.cluster .nodePolicy name) (.operations host.policyPatch)
  | none => client.postRequest token policies (encode host.policy)

/-- What a written host is counted as. -/
def writeLabel (host : Host) : HostLabel :=
  match existingPolicy? host with
  | some _ => .patched
  | none => .created

/-- The status of a batch that ends at a host whose write came to the outcome. A rejected creation
passes on the error status of the cluster; all else is an error of the service. -/
def refusalStatus (host : Host) : Outcome → Nat
  | .ok response =>
    if existingPolicy? host = none ∧ 400 ≤ response.status ∧ response.status ≤ 599 then
      response.status
    else 500
  | .error _ => 500

/-- Writes the policy of a host. -/
def writePolicy (client : Client) (token : String) (host : Host) : Attempting Unit :=
  match existingPolicy? host with
  | some name => patchPolicy client token host name
  | none => createPolicy client token host

/-- The count of written policies after a host. -/
def countHost (outcome : StaticIpOutcome) (host : Host) : StaticIpOutcome :=
  match existingPolicy? host with
  | some _ => { outcome with patched := outcome.patched + 1 }
  | none => { outcome with created := outcome.created + 1 }

theorem applyAll_cons (outcome : StaticIpOutcome) (host : Host) (rest : List Host) :
    applyAll client token outcome (host :: rest) = (do
      check host
      writePolicy client token host
      Session.tally (.staticIpHosts (writeLabel host)) 1
      applyAll client token (countHost outcome host) rest) := by
  unfold writePolicy writeLabel countHost
  rw [applyAll]
  cases existingPolicy? host <;> rfl

/-- A write was carried out, or its host ends the batch with a status. -/
inductive Written (host : Host) (outcome : Outcome) : Except SetupError Unit → Prop where
  | done (accepted : Accepted outcome) : Written host outcome (.ok ())
  | refused {error : SetupError} (refused : ¬ Accepted outcome)
      (status : error.httpStatus = refusalStatus host outcome) :
      Written host outcome (.error error)

theorem accepted_iff_isSuccess (response : Response) :
    Accepted (.ok response) ↔ (WriteResult.ofResponse response).isSuccess = true := by
  simp only [Accepted, Except.ok.injEq, exists_eq_left']
  rfl

theorem not_accepted_error {failure : Failure} : ¬ Accepted (.error failure) := nofun

theorem patchPolicy_runs {host : Host} {name : String} {events : List Event}
    {result : Except SetupError Unit} (hname : existingPolicy? host = some name)
    (h : Attempting.Runs (patchPolicy client token host name) events result) :
    ∃ outcome, events = [.called (client.patchRequest token (.cluster .nodePolicy name)
        (.operations host.policyPatch)) outcome] ∧ Written host outcome result := by
  have hstatus : ∀ outcome, refusalStatus host outcome = 500 := by
    intro outcome
    cases outcome <;> simp [refusalStatus, hname]
  rcases Attempting.runs_bind.1 h with ⟨_, -, h⟩ | ⟨first, rest, answer, rfl, hpatch, hrest⟩
  · obtain ⟨_, ⟨⟩, -⟩ := Attempting.runs_lift.1 h
  · obtain ⟨_, ⟨⟩, hpatch⟩ := Attempting.runs_lift.1 hpatch
    obtain ⟨outcome, rfl, rfl⟩ := Client.write_result hpatch
    refine ⟨outcome, ?_⟩
    cases outcome with
    | error failure =>
      obtain ⟨rfl, rfl⟩ := Attempting.runs_throw.1 hrest
      exact ⟨rfl, .refused not_accepted_error (hstatus _).symm⟩
    | ok response =>
      have haccepted := accepted_iff_isSuccess response
      change Attempting.Runs
        (if (WriteResult.ofResponse response).isSuccess = true then _ else _) _ _ at hrest
      split at hrest
      · next hsuccess =>
        obtain ⟨rfl, rfl⟩ := Attempting.runs_pure.1 hrest
        exact ⟨rfl, .done (haccepted.2 hsuccess)⟩
      · next hsuccess =>
        obtain ⟨rfl, rfl⟩ := Attempting.runs_throw.1 hrest
        exact ⟨rfl, .refused (fun h => hsuccess (haccepted.1 h)) (hstatus _).symm⟩

theorem createPolicy_runs {host : Host} {events : List Event} {result : Except SetupError Unit}
    (hnone : existingPolicy? host = none)
    (h : Attempting.Runs (createPolicy client token host) events result) :
    ∃ outcome, events = [.called (client.postRequest token policies (encode host.policy))
        outcome] ∧ Written host outcome result := by
  rcases Attempting.runs_bind.1 h with
    ⟨error, rfl, hpost⟩ | ⟨first, rest, written, rfl, hpost, hrest⟩
  · obtain ⟨outcome, rfl, hresult⟩ := Client.write_result hpost
    refine ⟨outcome, rfl, ?_⟩
    cases outcome with
    | ok response => cases hresult
    | error failure =>
      cases hresult
      exact .refused not_accepted_error rfl
  · obtain ⟨outcome, rfl, hresult⟩ := Client.write_result hpost
    refine ⟨outcome, ?_⟩
    cases outcome with
    | error failure => cases hresult
    | ok response =>
      cases hresult
      have haccepted := accepted_iff_isSuccess response
      split at hrest
      · next hfailed =>
        obtain ⟨rfl, rfl⟩ := Attempting.runs_throw.1 hrest
        refine ⟨rfl, .refused (fun h => ?_) ?_⟩
        · simp [haccepted.1 h] at hfailed
        · simp only [SetupError.httpStatus, refusalStatus, hnone, WriteResult.ofResponse, true_and]
          rfl
      · next hsuccess =>
        obtain ⟨rfl, rfl⟩ := Attempting.runs_pure.1 hrest
        exact ⟨rfl, .done (haccepted.2 (by simpa using hsuccess))⟩

/-- Writing a host takes its one request. -/
theorem writePolicy_runs {host : Host} {events : List Event} {result : Except SetupError Unit}
    (h : Attempting.Runs (writePolicy client token host) events result) :
    ∃ outcome, events = [.called (hostWrite client token host) outcome] ∧
      Written host outcome result := by
  unfold writePolicy at h
  unfold hostWrite
  cases hname : existingPolicy? host with
  | some name =>
    rw [hname] at h
    exact patchPolicy_runs hname h
  | none =>
    rw [hname] at h
    exact createPolicy_runs hname h

/-! ## Batches -/

/-- A batch over more hosts goes on from the batch over the first ones. -/
theorem applyAll_append (outcome : StaticIpOutcome) (before after : List Host) :
    applyAll client token outcome (before ++ after) =
      applyAll client token outcome before >>= fun outcome =>
        applyAll client token outcome after := by
  induction before generalizing outcome with
  | nil => rfl
  | cons host before ih =>
    rw [List.cons_append, applyAll_cons, applyAll_cons]
    simp only [ih, bind_assoc]

/-- A host that is turned down ends the batch without an event. -/
theorem applyAll_refused {host : Host} {error : HostError} (h : host.validate = .error error)
    {outcome : StaticIpOutcome} {rest : List Host} {events : List Event}
    {result : Except SetupError StaticIpOutcome}
    (hruns : Attempting.Runs (applyAll client token outcome (host :: rest)) events result) :
    events = [] ∧ ∃ message, result = .error (.invalidInput message) := by
  rw [applyAll_cons, check, h] at hruns
  rcases Attempting.runs_bind.1 hruns with ⟨error, rfl, hcheck⟩ | ⟨first, later, _, rfl, hcheck, -⟩
  · obtain ⟨rfl, hresult⟩ := Attempting.runs_ofExcept.1 hcheck
    cases hresult
    exact ⟨rfl, _, rfl⟩
  · obtain ⟨-, hresult⟩ := Attempting.runs_ofExcept.1 hcheck
    cases hresult

/-- The status that the result of a batch is reported with. -/
def statusOf : Except SetupError StaticIpOutcome → Nat
  | .ok _ => 200
  | .error error => error.httpStatus

/-- A host that is accepted is written. If that fails the batch ends, and otherwise it is counted
and the batch goes on. -/
theorem applyAll_accepted {host : Host} (h : host.validate = .ok ()) {outcome : StaticIpOutcome}
    {rest : List Host} {events : List Event} {result : Except SetupError StaticIpOutcome}
    (hruns : Attempting.Runs (applyAll client token outcome (host :: rest)) events result) :
    ∃ answer,
      (¬ Accepted answer ∧ events = [.called (hostWrite client token host) answer] ∧
        statusOf result = refusalStatus host answer) ∨
      (Accepted answer ∧ ∃ later,
        events = .called (hostWrite client token host) answer ::
          .counted (.staticIpHosts (writeLabel host)) 1 :: later ∧
        Attempting.Runs (applyAll client token (countHost outcome host) rest) later result) := by
  have hstep : applyAll client token outcome (host :: rest) = (do
      writePolicy client token host
      Session.tally (.staticIpHosts (writeLabel host)) 1
      applyAll client token (countHost outcome host) rest) := by
    rw [applyAll_cons, check, h]
    rfl
  rw [hstep] at hruns
  rcases Attempting.runs_bind.1 hruns with
    ⟨error, rfl, hwrite⟩ | ⟨first, others, _, rfl, hwrite, hrest⟩
  · obtain ⟨answer, rfl, hwritten⟩ := writePolicy_runs hwrite
    cases hwritten with
    | refused refused status => exact ⟨answer, .inl ⟨refused, rfl, status⟩⟩
  · obtain ⟨answer, rfl, hwritten⟩ := writePolicy_runs hwrite
    cases hwritten with
    | done accepted =>
      rcases Attempting.runs_bind.1 hrest with
        ⟨_, -, hcount⟩ | ⟨counted, later, _, rfl, hcount, hlater⟩
      · obtain ⟨_, ⟨⟩, -⟩ := Attempting.runs_lift.1 hcount
      · obtain ⟨_, -, hcount⟩ := Attempting.runs_lift.1 hcount
        rw [Session.runs_tally.1 hcount]
        exact ⟨answer, .inr ⟨accepted, later, rfl, hlater⟩⟩

/-- Every run over a batch that begins with the host sends the request first. -/
def SendsFirst (client : Client) (token : String) (host : Host) (sent : Request) : Prop :=
  ∀ (outcome : StaticIpOutcome) (rest : List Host) (events : List Event)
    (result : Except SetupError StaticIpOutcome),
    Attempting.Runs (applyAll client token outcome (host :: rest)) events result →
      ∃ answer later, events = .called sent answer :: later

/-- The first request for a host that is accepted is its write. -/
theorem sendsFirst_hostWrite {host : Host} (h : host.validate = .ok ()) :
    SendsFirst client token host (hostWrite client token host) := by
  intro outcome rest events result hruns
  obtain ⟨answer, ⟨-, rfl, -⟩ | ⟨-, later, rfl, -⟩⟩ := applyAll_accepted h hruns
  · exact ⟨answer, [], rfl⟩
  · exact ⟨answer, _, rfl⟩

/-- A host that is accepted and names a policy is written by a patch of that policy. -/
theorem sendsFirst_patch {host : Host} {name : String} (h : host.validate = .ok ())
    (hname : name ≠ "") :
    SendsFirst client token { host with policyName := some name }
      (client.patchRequest token (.cluster .nodePolicy name) (.operations host.policyPatch)) := by
  have hexisting : existingPolicy? { host with policyName := some name } = some name := by
    simp [existingPolicy?, Option.filter_eq_some_iff, hname]
  have hwrite : hostWrite client token { host with policyName := some name } =
      client.patchRequest token (.cluster .nodePolicy name) (.operations host.policyPatch) := by
    rw [hostWrite, hexisting]
    rfl
  rw [← hwrite]
  -- What a host is checked for does not include the name of its policy.
  exact sendsFirst_hostWrite h

/-! ## The course of a batch -/

/-- All hosts are accepted and written, in order; these are the events. -/
inductive WritesAll (client : Client) (token : String) : List Host → List Event → Prop where
  | nil : WritesAll client token [] []
  | cons {host : Host} {rest : List Host} {outcome : Outcome} {events : List Event}
      (valid : host.validate = .ok ()) (accepted : Accepted outcome)
      (later : WritesAll client token rest events) :
      WritesAll client token (host :: rest)
        (.called (hostWrite client token host) outcome ::
          .counted (.staticIpHosts (writeLabel host)) 1 :: events)

/-- The course of a batch: its hosts, the events and the status. All hosts are written, or there is
a first one that is not: it is turned down, or its write is not carried out. -/
inductive Course (client : Client) (token : String) : List Host → List Event → Nat → Prop where
  | done {hosts : List Host} {events : List Event} (writes : WritesAll client token hosts events) :
      Course client token hosts events 200
  | invalid {before : List Host} {host : Host} {after : List Host} {events : List Event}
      (writes : WritesAll client token before events) (invalid : host.validate ≠ .ok ()) :
      Course client token (before ++ host :: after) events 422
  | refused {before : List Host} {host : Host} {after : List Host} {events : List Event}
      {outcome : Outcome} (writes : WritesAll client token before events)
      (valid : host.validate = .ok ()) (refused : ¬ Accepted outcome) :
      Course client token (before ++ host :: after)
        (events ++ [.called (hostWrite client token host) outcome]) (refusalStatus host outcome)

/-- The course of a batch, one written host earlier. -/
theorem Course.cons {host : Host} {rest : List Host} {outcome : Outcome} {events : List Event}
    {status : Nat} (valid : host.validate = .ok ()) (accepted : Accepted outcome)
    (later : Course client token rest events status) :
    Course client token (host :: rest)
      (.called (hostWrite client token host) outcome ::
        .counted (.staticIpHosts (writeLabel host)) 1 :: events) status := by
  cases later with
  | done writes => exact .done (.cons valid accepted writes)
  | invalid writes invalid => exact .invalid (.cons valid accepted writes) invalid
  | refused writes valid' refused => exact .refused (.cons valid accepted writes) valid' refused

/-- **Every run over a batch takes a course.** -/
theorem course_of_runs {outcome : StaticIpOutcome} {hosts : List Host} {events : List Event}
    {result : Except SetupError StaticIpOutcome}
    (h : Attempting.Runs (applyAll client token outcome hosts) events result) :
    Course client token hosts events (statusOf result) := by
  induction hosts generalizing outcome events with
  | nil =>
    obtain ⟨rfl, rfl⟩ := Attempting.runs_pure.1 h
    exact .done .nil
  | cons host rest ih =>
    cases hvalid : host.validate with
    | error error =>
      obtain ⟨rfl, message, rfl⟩ := applyAll_refused hvalid h
      show Course client token ([] ++ host :: rest) [] _
      exact .invalid .nil (by simp [hvalid])
    | ok value =>
      obtain ⟨answer, ⟨refused, rfl, hstatus⟩ | ⟨accepted, later, rfl, hlater⟩⟩ :=
        applyAll_accepted hvalid h
      · rw [hstatus]
        show Course client token ([] ++ host :: rest) ([] ++ [_]) _
        exact .refused .nil hvalid refused
      · exact (ih hlater).cons hvalid accepted

/-- Every run over a batch of some hosts takes a course; without hosts nothing is done. -/
theorem run_runs {hosts : List Host} {events : List Event}
    {result : Except SetupError StaticIpOutcome}
    (h : Attempting.Runs (run client token hosts) events result) :
    (hosts = [] → events = [] ∧ statusOf result = 422) ∧
      (hosts ≠ [] → Course client token hosts events (statusOf result)) := by
  cases hosts with
  | nil =>
    obtain ⟨rfl, rfl⟩ := Attempting.runs_throw.1 h
    exact ⟨fun _ => ⟨rfl, rfl⟩, fun hsome => absurd rfl hsome⟩
  | cons host rest => exact ⟨nofun, fun _ => course_of_runs h⟩

/-! ## What courses have -/

theorem WritesAll.valid {hosts : List Host} {events : List Event}
    (h : WritesAll client token hosts events) : ∀ host ∈ hosts, host.validate = .ok () := by
  induction h with
  | nil => exact nofun
  | cons valid accepted later ih => exact List.forall_mem_cons.2 ⟨valid, ih⟩

theorem WritesAll.accepted {hosts : List Host} {events : List Event}
    (h : WritesAll client token hosts events) {request : Request} {outcome : Outcome}
    (hmem : .called request outcome ∈ events) : Accepted outcome := by
  induction h with
  | nil => cases hmem
  | cons valid accepted later ih =>
    rcases List.mem_cons.1 hmem with heq | hmem
    · cases heq
      exact accepted
    · rcases List.mem_cons.1 hmem with heq | hmem
      · cases heq
      · exact ih hmem

/-- The status is that of success exactly when all hosts are written. -/
theorem Course.status_eq_ok_iff {hosts : List Host} {events : List Event} {status : Nat}
    (h : Course client token hosts events status) :
    status = 200 ↔ WritesAll client token hosts events := by
  cases h with
  | done writes => exact iff_of_true rfl writes
  | @invalid before host after events writes invalid =>
    refine iff_of_false (by decide) fun hall => invalid (hall.valid host ?_)
    exact List.mem_append_right _ (List.mem_cons_self ..)
  | @refused before host after events outcome writes valid refused =>
    refine iff_of_false ?_ fun hall =>
      refused (hall.accepted (List.mem_append_right _ (List.mem_singleton_self _)))
    unfold refusalStatus
    split
    · split
      · next h => omega
      · decide
    · decide

theorem WritesAll.decides {decisive : Request → Prop} {hosts : List Host} {events : List Event}
    (h : WritesAll client token hosts events)
    (hdecisive : ∀ host ∈ hosts, decisive (hostWrite client token host)) :
    ∀ event ∈ events, Event.Decides decisive event := by
  induction h with
  | nil => exact nofun
  | cons valid accepted later ih =>
    obtain ⟨hhost, hrest⟩ := List.forall_mem_cons.1 hdecisive
    exact List.forall_mem_cons.2 ⟨.called hhost, List.forall_mem_cons.2 ⟨.counted, ih hrest⟩⟩

/-- A batch writes its hosts and counts them, and does no more. -/
theorem Course.decides {decisive : Request → Prop} {hosts : List Host} {events : List Event}
    {status : Nat} (h : Course client token hosts events status)
    (hdecisive : ∀ host ∈ hosts, decisive (hostWrite client token host)) :
    ∀ event ∈ events, Event.Decides decisive event := by
  cases h with
  | done writes => exact writes.decides hdecisive
  | invalid writes invalid => exact writes.decides (List.forall_mem_append.1 hdecisive).1
  | refused writes valid refused =>
    obtain ⟨hbefore, hafter⟩ := List.forall_mem_append.1 hdecisive
    refine List.forall_mem_append.2 ⟨writes.decides hbefore, ?_⟩
    exact List.forall_mem_singleton.2 (.called (List.forall_mem_cons.1 hafter).1)

theorem run_decides {decisive : Request → Prop} {hosts : List Host} {events : List Event}
    {result : Except SetupError StaticIpOutcome}
    (hdecisive : ∀ host ∈ hosts, decisive (hostWrite client token host))
    (h : Attempting.Runs (run client token hosts) events result) :
    ∀ event ∈ events, Event.Decides decisive event := by
  obtain ⟨hempty, hcourse⟩ := run_runs h
  by_cases hhosts : hosts = []
  · rw [(hempty hhosts).1]
    exact nofun
  · exact (hcourse hhosts).decides hdecisive

end StaticIps

end EdgeSetup
