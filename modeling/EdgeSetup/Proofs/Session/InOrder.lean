import EdgeSetup.Session.Basic

/-!
# Rules for the order of events

A rule says what may happen next after what happened before. A history keeps the rule when each of
its events may happen after all events before it.
-/

namespace EdgeSetup

/-- Every event is one that the rule permits after all events before it. -/
def InOrder (permits : List Event → Event → Prop) (before events : List Event) : Prop :=
  ∀ earlier event later, events = earlier ++ event :: later → permits (before ++ earlier) event

variable {permits : List Event → Event → Prop} {before first rest events : List Event}
  {event : Event}

theorem inOrder_nil : InOrder permits before [] := by
  intro earlier event later h
  simp at h

theorem inOrder_append :
    InOrder permits before (first ++ rest) ↔
      InOrder permits before first ∧ InOrder permits (before ++ first) rest := by
  constructor
  · intro h
    refine ⟨fun earlier event later hfirst => ?_, fun earlier event later hrest => ?_⟩
    · exact h earlier event (later ++ rest) (by simp [hfirst])
    · rw [List.append_assoc]
      exact h (first ++ earlier) event later (by simp [hrest])
  · rintro ⟨hfirst, hrest⟩ earlier event later h
    rcases List.append_eq_append_iff.1 h with ⟨middle, rfl, hmiddle⟩ | ⟨middle, rfl, hmiddle⟩
    · rw [← List.append_assoc]
      exact hrest middle event later hmiddle
    · cases middle with
      | nil =>
        have h' := hrest [] event later hmiddle.symm
        simpa using h'
      | cons head middle =>
        obtain ⟨rfl, rfl⟩ := List.cons.inj hmiddle
        exact hfirst earlier event middle rfl

theorem inOrder_cons :
    InOrder permits before (event :: events) ↔
      permits before event ∧ InOrder permits (before ++ [event]) events := by
  rw [← List.singleton_append, inOrder_append]
  refine and_congr_left fun _ => ⟨fun h => ?_, fun h earlier other later heq => ?_⟩
  · have h' := h [] event [] rfl
    simpa using h'
  · cases earlier with
    | nil =>
      cases heq
      simpa using h
    | cons head tail => simp at heq

/-- A rule that permits an event at any later time permits such events in any order. -/
theorem inOrder_of_forall
    (h : ∀ event ∈ events, ∀ between, permits (before ++ between) event) :
    InOrder permits before events := by
  rintro earlier event later rfl
  exact h event (by simp) earlier

theorem InOrder.of_mem (h : InOrder permits before events) (hmem : event ∈ events) :
    ∃ earlier, permits earlier event := by
  obtain ⟨earlier, later, rfl⟩ := List.append_of_mem hmem
  exact ⟨before ++ earlier, h earlier event later rfl⟩

end EdgeSetup
