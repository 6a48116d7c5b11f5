import EdgeSetup.Certificate.Store
import EdgeSetup.Proofs.Session.Histories

/-!
# What the calls of the client come to

Each call of the client is one event, and its result is settled by the outcome: a read succeeds
when a document of the wanted type came back (`Reads`), a creation when it was carried out and
named (`Created`), and a patch that is required to be carried out when it was (`Accepted`).
-/

namespace EdgeSetup

open Json Http

/-! ## Outcomes -/

/-- The call was answered, and its request was carried out. -/
def Accepted (outcome : Outcome) : Prop :=
  ∃ response, outcome = .ok response ∧ response.isSuccess = true

/-- The call was answered with a document that reads as the value. -/
def Reads {α : Type} [Decode α] (outcome : Outcome) (value : α) : Prop :=
  ∃ response, outcome = .ok response ∧ response.isSuccess = true ∧
    response.json? α = some value

/-- The call created an object of the name. -/
def Created (outcome : Outcome) (name : String) : Prop :=
  ∃ response, outcome = .ok response ∧ response.status = createdStatus ∧
    (WriteResult.ofResponse response).objectName? = some name

theorem Reads.unique {α : Type} [Decode α] {outcome : Outcome} {a b : α} (ha : Reads outcome a)
    (hb : Reads outcome b) : a = b := by
  obtain ⟨response, rfl, -, hread⟩ := ha
  obtain ⟨_, ⟨⟩, -, hread'⟩ := hb
  exact Option.some.inj (hread.symm.trans hread')

theorem Created.unique {outcome : Outcome} {a b : String} (ha : Created outcome a)
    (hb : Created outcome b) : a = b := by
  obtain ⟨response, rfl, -, hname⟩ := ha
  obtain ⟨_, ⟨⟩, -, hname'⟩ := hb
  exact Option.some.inj (hname.symm.trans hname')

/-! ## Calls -/

namespace Client

variable {α : Type} {client : Client} {token : String} {events : List Event}

/-- A call is one event, and fails only with the failure of its transport. -/
theorem exchange_result {request : Request} {result : Except SetupError Response}
    (h : Attempting.Runs (exchange request) events result) :
    ∃ outcome, events = [.called request outcome] ∧ result = outcome.mapError .transport := by
  rcases Attempting.runs_bind.1 h with ⟨error, -, h⟩ | ⟨first, rest, outcome, rfl, hcall, hrest⟩
  · obtain ⟨_, ⟨⟩, -⟩ := Attempting.runs_lift.1 h
  · obtain ⟨_, ⟨⟩, hcall⟩ := Attempting.runs_lift.1 hcall
    rw [Session.runs_call.1 hcall]
    cases outcome with
    | ok response =>
      obtain ⟨rfl, rfl⟩ := Attempting.runs_pure.1 hrest
      exact ⟨.ok response, rfl, rfl⟩
    | error failure =>
      obtain ⟨rfl, rfl⟩ := Attempting.runs_throw.1 hrest
      exact ⟨.error failure, rfl, rfl⟩

theorem exchange_runs {request : Request} {result : Except SetupError Response}
    (h : Attempting.Runs (exchange request) events result) :
    ∃ outcome, events = [.called request outcome] ∧
      ∀ response, result = .ok response ↔ outcome = .ok response := by
  obtain ⟨outcome, rfl, rfl⟩ := exchange_result h
  refine ⟨outcome, rfl, fun response => ?_⟩
  cases outcome with
  | ok answer =>
    show (.ok answer : Except SetupError Response) = .ok response ↔ _
    simp
  | error failure => exact iff_of_false nofun nofun

/-- A write is one event, and fails only with the failure of its transport. -/
theorem write_result {request : Request} {result : Except SetupError WriteResult}
    (h : Attempting.Runs
      (exchange request >>= fun response => pure (WriteResult.ofResponse response)) events
      result) :
    ∃ outcome, events = [.called request outcome] ∧
      result = (outcome.mapError .transport).map WriteResult.ofResponse := by
  rcases Attempting.runs_bind.1 h with
    ⟨error, rfl, hcall⟩ | ⟨first, rest, response, rfl, hcall, hrest⟩
  · obtain ⟨outcome, rfl, hresult⟩ := exchange_result hcall
    exact ⟨outcome, rfl, by rw [← hresult]; rfl⟩
  · obtain ⟨outcome, rfl, hresult⟩ := exchange_result hcall
    obtain ⟨rfl, rfl⟩ := Attempting.runs_pure.1 hrest
    exact ⟨outcome, rfl, by rw [← hresult]; rfl⟩

/-- A call whose response is worked on without further calls. -/
theorem exchange_bind_runs {request : Request} (next : Response → Except SetupError α)
    {result : Except SetupError α}
    (h : Attempting.Runs (exchange request >>= fun response => liftM (next response)) events
      result) :
    ∃ outcome, events = [.called request outcome] ∧
      ∀ value, result = .ok value ↔ ∃ response, outcome = .ok response ∧
        next response = .ok value := by
  rcases Attempting.runs_bind.1 h with
    ⟨error, rfl, hcall⟩ | ⟨first, rest, response, rfl, hcall, hrest⟩
  · obtain ⟨outcome, rfl, hresult⟩ := exchange_runs hcall
    refine ⟨outcome, rfl, fun value => ⟨nofun, ?_⟩⟩
    rintro ⟨response, houtcome, -⟩
    cases (hresult response).2 houtcome
  · obtain ⟨outcome, rfl, hresult⟩ := exchange_runs hcall
    obtain ⟨rfl, rfl⟩ := Attempting.runs_ofExcept.1 hrest
    refine ⟨outcome, rfl, fun value => ⟨fun h => ⟨response, (hresult response).1 rfl, h⟩, ?_⟩⟩
    rintro ⟨answer, houtcome, h⟩
    cases (hresult answer).2 houtcome
    exact h

theorem readResponse_eq_ok [Decode α] {response : Response} {value : α} :
    readResponse α response = .ok value ↔
      response.isSuccess = true ∧ response.json? α = some value := by
  unfold readResponse
  split
  · next hsuccess =>
    cases hjson : response.json? α <;> simp [hsuccess]
  · next hfailed => simp [hfailed]

theorem getPath_runs [Decode α] {path : String} {result : Except SetupError α}
    (h : Attempting.Runs (client.getPath α token path) events result) :
    ∃ outcome, events = [.called (client.readRequest token path) outcome] ∧
      ∀ value, result = .ok value ↔ Reads outcome value := by
  obtain ⟨outcome, rfl, hresult⟩ := exchange_bind_runs (readResponse α) h
  refine ⟨outcome, rfl, fun value => (hresult value).trans ?_⟩
  simp only [readResponse_eq_ok, Reads]

theorem list_runs [Decode α] {kind : ResourceKind} {result : Except SetupError (List α)}
    (h : Attempting.Runs (client.list α token kind) events result) :
    ∃ outcome, events = [.called (client.readRequest token (listPath kind)) outcome] ∧
      ∀ items, result = .ok items ↔ Reads outcome (⟨items⟩ : ItemList α) := by
  rcases Attempting.runs_bind.1 h with
    ⟨error, rfl, hread⟩ | ⟨first, rest, answer, rfl, hread, hrest⟩
  · obtain ⟨outcome, rfl, hresult⟩ := getPath_runs hread
    refine ⟨outcome, rfl, fun items => ⟨nofun, fun h => ?_⟩⟩
    cases (hresult _).2 h
  · obtain ⟨outcome, rfl, hresult⟩ := getPath_runs hread
    obtain ⟨rfl, rfl⟩ := Attempting.runs_pure.1 hrest
    have hreads := (hresult answer).1 rfl
    refine ⟨outcome, rfl, fun items => ⟨?_, fun h => ?_⟩⟩
    · rintro ⟨⟩
      exact hreads
    · rw [hreads.unique h]

/-- A call that is answered gives its response. -/
theorem exchange_answered (request : Request) (response : Response) :
    Attempting.Runs (exchange request) [.called request (.ok response)] (.ok response) := by
  have hcall : Attempting.Runs (liftM (Session.call request)) [.called request (.ok response)]
      (.ok (.ok response)) := Attempting.runs_lift.2 ⟨_, rfl, Session.runs_call.2 rfl⟩
  exact Attempting.runs_bind.2
    (.inr ⟨_, [], .ok response, rfl, hcall, Attempting.runs_pure.2 ⟨rfl, rfl⟩⟩)

/-- A list that reads is listed. -/
theorem list_of_reads [Decode α] {kind : ResourceKind} {outcome : Outcome} {items : List α}
    (h : Reads outcome (⟨items⟩ : ItemList α)) :
    Attempting.Runs (client.list α token kind)
      [.called (client.readRequest token (listPath kind)) outcome] (.ok items) := by
  obtain ⟨response, rfl, hsuccess, hjson⟩ := h
  have hread : Attempting.Runs (client.getPath (ItemList α) token (listPath kind))
      [.called (client.readRequest token (listPath kind)) (.ok response)] (.ok ⟨items⟩) :=
    Attempting.runs_bind.2 (.inr ⟨_, [], response, rfl, exchange_answered _ response,
      Attempting.runs_ofExcept.2 ⟨rfl, (readResponse_eq_ok.2 ⟨hsuccess, hjson⟩).symm⟩⟩)
  exact Attempting.runs_bind.2 (.inr ⟨_, [], _, rfl, hread, Attempting.runs_pure.2 ⟨rfl, rfl⟩⟩)

theorem patch_runs {ref : ResourceRef} {body : PatchBody} {result : Except SetupError WriteResult}
    (h : Attempting.Runs (client.patch token ref body) events result) :
    ∃ outcome, events = [.called (client.patchRequest token ref body) outcome] ∧
      ∀ written, result = .ok written ↔
        ∃ response, outcome = .ok response ∧ written = .ofResponse response := by
  obtain ⟨outcome, rfl, hresult⟩ :=
    exchange_bind_runs (fun response => .ok (WriteResult.ofResponse response)) h
  refine ⟨outcome, rfl, fun written => (hresult written).trans ?_⟩
  simp only [Except.ok.injEq, eq_comm]

theorem post_runs {collection : ResourceRef} {object : Value}
    {result : Except SetupError WriteResult}
    (h : Attempting.Runs (client.post token collection object) events result) :
    ∃ outcome, events = [.called (client.postRequest token collection object) outcome] ∧
      ∀ written, result = .ok written ↔
        ∃ response, outcome = .ok response ∧ written = .ofResponse response := by
  obtain ⟨outcome, rfl, hresult⟩ :=
    exchange_bind_runs (fun response => .ok (WriteResult.ofResponse response)) h
  refine ⟨outcome, rfl, fun written => (hresult written).trans ?_⟩
  simp only [Except.ok.injEq, eq_comm]

end Client

/-- Storing a bundle is one creation, and it gives the name of what was created. -/
theorem storeCertificate_runs {client : Client} {token inNamespace namePrefix : String}
    {bundle : CertificateBundle} {events : List Event} {result : Except SetupError String}
    (h : Attempting.Runs (storeCertificate client token inNamespace namePrefix bundle) events
      result) :
    ∃ outcome, events = [.called (client.postRequest token (.collection .secret (some inNamespace))
        (bundle.tlsSecret inNamespace namePrefix)) outcome] ∧
      ∀ name, result = .ok name ↔ Created outcome name := by
  rcases Attempting.runs_bind.1 h with
    ⟨error, rfl, hpost⟩ | ⟨first, rest, written, rfl, hpost, hrest⟩
  · obtain ⟨outcome, rfl, hwritten⟩ := Client.post_runs hpost
    refine ⟨outcome, rfl, fun name => ⟨nofun, ?_⟩⟩
    rintro ⟨response, rfl, -⟩
    cases (hwritten _).2 ⟨response, rfl, rfl⟩
  · obtain ⟨outcome, rfl, hwritten⟩ := Client.post_runs hpost
    obtain ⟨response, rfl, rfl⟩ := (hwritten written).1 rfl
    have hcreated : ∀ name, Created (.ok response) name ↔
        createdSecret? (.ofResponse response) = some name := by
      intro name
      by_cases hstatus : response.status = createdStatus <;>
        simp [Created, createdSecret?, WriteResult.ofResponse, hstatus]
    cases hname : createdSecret? (.ofResponse response) with
    | some name =>
      simp only [hname] at hrest
      obtain ⟨rfl, rfl⟩ := Attempting.runs_pure.1 hrest
      exact ⟨_, rfl, fun other => by rw [hcreated, hname]; simp⟩
    | none =>
      simp only [hname] at hrest
      obtain ⟨rfl, rfl⟩ := Attempting.runs_throw.1 hrest
      exact ⟨_, rfl, fun other => by rw [hcreated, hname]; simp⟩

end EdgeSetup
