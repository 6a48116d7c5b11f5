import EdgeSetup.Session.Basic

/-!
# Histories of composed sessions

What a session does is read off its parts: a history of `session.bind next` is a history of
`session` followed by one of `next` (`Session.runs_bind`), and a session that may fail stops at its
first error (`Attempting.runs_bind`).
-/

namespace EdgeSetup

open Http

namespace Session

variable {α β : Type}

theorem Runs.append {session : Session α} {next : α → Session β} {first rest : List Event}
    {middle : α} {value : β} (h : session.Runs first middle) (h' : (next middle).Runs rest value) :
    (session.bind next).Runs (first ++ rest) value := by
  induction h with
  | done value => exact h'
  | send _ ih => exact .send (ih h')
  | sendAll same _ ih => exact .sendAll same (ih h')
  | issue _ ih => exact .issue (ih h')
  | count _ ih => exact .count (ih h')

/-- The histories of a composed session are those of its parts, one after the other. -/
theorem runs_bind {session : Session α} {next : α → Session β} {events : List Event} {value : β} :
    (session.bind next).Runs events value ↔
      ∃ first rest middle, events = first ++ rest ∧ session.Runs first middle ∧
        (next middle).Runs rest value := by
  constructor
  · intro h
    induction session generalizing events with
    | done middle => exact ⟨[], events, middle, rfl, .done middle, h⟩
    | send request rest ih =>
      cases h with
      | send h =>
        obtain ⟨first, last, middle, rfl, hfirst, hlast⟩ := ih _ h
        exact ⟨_ :: first, last, middle, rfl, .send hfirst, hlast⟩
    | sendAll requests rest ih =>
      cases h with
      | sendAll same h =>
        obtain ⟨first, last, middle, rfl, hfirst, hlast⟩ := ih _ h
        exact ⟨_ :: first, last, middle, rfl, .sendAll same hfirst, hlast⟩
    | issue domain rest ih =>
      cases h with
      | issue h =>
        obtain ⟨first, last, middle, rfl, hfirst, hlast⟩ := ih _ h
        exact ⟨_ :: first, last, middle, rfl, .issue hfirst, hlast⟩
    | count counter amount rest ih =>
      cases h with
      | count h =>
        obtain ⟨first, last, middle, rfl, hfirst, hlast⟩ := ih h
        exact ⟨_ :: first, last, middle, rfl, .count hfirst, hlast⟩
  · rintro ⟨first, rest, middle, rfl, hfirst, hrest⟩
    exact hfirst.append hrest

/-- Every session has a history. -/
theorem exists_runs (session : Session α) : ∃ events value, session.Runs events value := by
  induction session with
  | done value => exact ⟨_, _, .done value⟩
  | send request rest ih =>
    obtain ⟨events, value, h⟩ := ih (.error .aborted)
    exact ⟨_, _, .send h⟩
  | sendAll requests rest ih =>
    obtain ⟨events, value, h⟩ := ih (List.replicate requests.length (.error .aborted))
    exact ⟨_, _, .sendAll List.length_replicate h⟩
  | issue domain rest ih =>
    obtain ⟨events, value, h⟩ := ih (.error (.other ""))
    exact ⟨_, _, .issue h⟩
  | count counter amount rest ih =>
    obtain ⟨events, value, h⟩ := ih
    exact ⟨_, _, .count h⟩

/-- A session that starts with a call goes on to an end whatever the call comes to. -/
theorem exists_runs_send {session : Session α} {request : Request} {next : Outcome → Session α}
    (h : session = .send request next) (outcome : Outcome) :
    ∃ rest value, session.Runs (.called request outcome :: rest) value := by
  obtain ⟨rest, value, hrest⟩ := (next outcome).exists_runs
  subst h
  exact ⟨rest, value, .send hrest⟩

theorem runs_done {value result : α} {events : List Event} :
    (done value).Runs events result ↔ events = [] ∧ result = value := by
  constructor
  · rintro ⟨⟩
    exact ⟨rfl, rfl⟩
  · rintro ⟨rfl, rfl⟩
    exact .done _

theorem runs_call {request : Request} {events : List Event} {result : Outcome} :
    (call request).Runs events result ↔ events = [.called request result] := by
  constructor
  · rintro (_ | ⟨⟨⟩⟩)
    rfl
  · rintro rfl
    exact .send (.done _)

theorem runs_callAll {requests : List Request} {events : List Event} {results : List Outcome} :
    (callAll requests).Runs events results ↔
      results.length = requests.length ∧ events = [.calledAll (requests.zip results)] := by
  constructor
  · rintro (_ | _ | ⟨same, ⟨⟩⟩)
    exact ⟨same, rfl⟩
  · rintro ⟨same, rfl⟩
    exact .sendAll same (.done _)

theorem runs_certificate {domain : String} {events : List Event}
    {result : Except SetupError CertificateBundle} :
    (certificate domain).Runs events result ↔ events = [.issued domain result] := by
  constructor
  · rintro (_ | _ | _ | ⟨⟨⟩⟩)
    rfl
  · rintro rfl
    exact .issue (.done _)

theorem runs_tally {counter : Counter} {amount : Nat} {events : List Event} {result : Unit} :
    (tally counter amount).Runs events result ↔ events = [.counted counter amount] := by
  constructor
  · rintro (_ | _ | _ | _ | ⟨⟨⟩⟩)
    rfl
  · rintro rfl
    exact .count (.done _)

end Session

/-! ## Sessions that may fail -/

namespace Attempting

variable {α β : Type}

/-- The histories of a session that may fail. -/
def Runs (action : Attempting α) (events : List Event) (result : Except SetupError α) : Prop :=
  Session.Runs action.run events result

theorem runs_pure {value : α} {events : List Event} {result : Except SetupError α} :
    Runs (pure value) events result ↔ events = [] ∧ result = .ok value :=
  Session.runs_done

theorem runs_throw {error : SetupError} {events : List Event} {result : Except SetupError α} :
    Runs (throw error) events result ↔ events = [] ∧ result = .error error :=
  Session.runs_done

/-- A result that is known already takes no event. -/
theorem runs_ofExcept {known result : Except SetupError α} {events : List Event} :
    Runs (liftM known) events result ↔ events = [] ∧ result = known :=
  Session.runs_done

theorem runs_mk {session : Session (Except SetupError α)} {events : List Event}
    {result : Except SetupError α} :
    Runs (ExceptT.mk session) events result ↔ session.Runs events result :=
  Iff.rfl

theorem runs_lift {session : Session α} {events : List Event} {result : Except SetupError α} :
    Runs (liftM session) events result ↔
      ∃ value, result = .ok value ∧ session.Runs events value := by
  refine Session.runs_bind.trans ⟨?_, ?_⟩
  · rintro ⟨first, rest, middle, rfl, hfirst, hrest⟩
    obtain ⟨rfl, rfl⟩ := Session.runs_done.1 hrest
    exact ⟨middle, rfl, by simpa using hfirst⟩
  · rintro ⟨value, rfl, h⟩
    exact ⟨events, [], value, by simp, h, .done _⟩

/-- A composed session stops at the first error of its parts. -/
theorem runs_bind {action : Attempting α} {next : α → Attempting β} {events : List Event}
    {result : Except SetupError β} :
    Runs (action >>= next) events result ↔
      (∃ error, result = .error error ∧ Runs action events (.error error)) ∨
        ∃ first rest value, events = first ++ rest ∧ Runs action first (.ok value) ∧
          Runs (next value) rest result := by
  refine Session.runs_bind.trans ⟨?_, ?_⟩
  · rintro ⟨first, rest, middle, rfl, hfirst, hrest⟩
    cases middle with
    | error error =>
      obtain ⟨rfl, rfl⟩ := Session.runs_done.1 hrest
      rw [List.append_nil]
      exact .inl ⟨error, rfl, hfirst⟩
    | ok value => exact .inr ⟨first, rest, value, rfl, hfirst, hrest⟩
  · rintro (⟨error, rfl, h⟩ | ⟨first, rest, value, rfl, hfirst, hrest⟩)
    · exact ⟨events, [], .error error, by simp, h, .done _⟩
    · exact ⟨first, rest, .ok value, rfl, hfirst, hrest⟩

end Attempting

end EdgeSetup
