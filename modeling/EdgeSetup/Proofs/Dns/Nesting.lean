import EdgeSetup.Proofs.Dns.Rehosting

/-!
# Domains that lie under each other

A host that was moved is the new domain or lies under it. Whether the same move applies to it once
more depends on how the two domains lie to each other.

**Side by side** (`rehost?_moves_once_iff`). No host is moved twice exactly when neither domain lies
under the other.

**One under the other.** When the new domain lies under the old one, every host that was moved is
moved again (`rehost?_again_of_isUnder`). When the old one lies under the new one, those are whose
start repeats the labels between the two (`rehost?_again_iff`).
-/

namespace EdgeSetup.Dns

variable {name domain host moved old new start rest : String}

/-- The name ends with a dot and the domain. -/
def IsUnder (name domain : String) : Prop := ∃ start, name = routeHost start domain

theorem isUnder_iff_suffix : IsUnder name domain ↔ ('.' :: domain.toList) <:+ name.toList :=
  exists_routeHost_iff

instance : Decidable (IsUnder name domain) := decidable_of_iff _ isUnder_iff_suffix.symm

theorem isUnder_routeHost : IsUnder (routeHost start domain) domain := ⟨start, rfl⟩

theorem not_isUnder_self : ¬ IsUnder name name := fun ⟨_, h⟩ => routeHost_ne h.symm

theorem routeHost_inj : routeHost start domain = routeHost rest domain ↔ start = rest := by
  simp [routeHost, ← String.toList_inj]

theorem routeHost_routeHost :
    routeHost start (routeHost rest domain) = routeHost (routeHost start rest) domain := by
  simp [routeHost, String.append_assoc]

theorem IsUnder.trans {middle : String} (h : IsUnder name middle) (h' : IsUnder middle domain) :
    IsUnder name domain := by
  obtain ⟨start, rfl⟩ := h
  obtain ⟨rest, rfl⟩ := h'
  exact ⟨routeHost start rest, routeHost_routeHost⟩

theorem IsUnder.asymm (h : IsUnder name domain) : ¬ IsUnder domain name :=
  fun h' => not_isUnder_self (h.trans h')

/-- Two domains that a name lies under lie under each other. -/
theorem IsUnder.nested (h : IsUnder name old) (h' : IsUnder name new) (hne : old ≠ new) :
    IsUnder new old ∨ IsUnder old new := by
  rw [isUnder_iff_suffix] at h h'
  rcases List.suffix_or_suffix_of_suffix h h' with hends | hends
  · rcases List.suffix_cons_iff.1 hends with heq | hunder
    · exact absurd (String.toList_inj.1 (List.cons.inj heq).2) hne
    · exact .inl (isUnder_iff_suffix.2 hunder)
  · rcases List.suffix_cons_iff.1 hends with heq | hunder
    · exact absurd (String.toList_inj.1 (List.cons.inj heq).2).symm hne
    · exact .inr (isUnder_iff_suffix.2 hunder)

/-! ## Hosts that were moved -/

theorem domains_of_rehost? (h : rehost? host old new = some moved) : old ≠ "" ∧ old ≠ new := by
  by_cases hguard : old = "" ∨ old = new
  · simp [rehost?, hguard] at h
  · exact not_or.1 hguard

/-- What a host that moves was, and what it is then. -/
theorem rehost?_cases (h : rehost? host old new = some moved) :
    moved = new ∧ (∀ start, start ≠ "" → host ≠ routeHost start old) ∨
      ∃ start, start ≠ "" ∧ host = routeHost start old ∧ moved = routeHost start new := by
  obtain ⟨hold, hne⟩ := domains_of_rehost? h
  rcases (rehost?_eq_some_iff hold hne).1 h with ⟨rfl, rfl⟩ | ⟨rfl, rfl⟩ | hstart
  · exact .inl ⟨rfl, fun start _ => routeHost_ne.symm⟩
  · refine .inl ⟨rfl, fun start hstart heq => hstart ?_⟩
    rw [← routeHost_empty] at heq
    exact (routeHost_inj.1 heq).symm
  · exact .inr hstart

theorem isSome_rehost?_iff_isUnder (hold : old ≠ "") (hne : old ≠ new) :
    (rehost? host old new).isSome = true ↔ host = old ∨ IsUnder host old := by
  rw [isSome_rehost?_iff hold hne, isUnder_iff_suffix]

/-- Domains that lie side by side move no host twice. -/
theorem rehost?_of_moved (h : rehost? host old new = some moved) (hnew : ¬ IsUnder new old)
    (hold : ¬ IsUnder old new) : rehost? moved old new = none := by
  obtain ⟨hfilled, hne⟩ := domains_of_rehost? h
  rw [← Option.not_isSome_iff_eq_none, isSome_rehost?_iff_isUnder hfilled hne]
  rcases rehost?_cases h with ⟨rfl, -⟩ | ⟨start, -, -, rfl⟩
  · rintro (heq | hunder)
    · exact hne heq.symm
    · exact hnew hunder
  · rintro (heq | hunder)
    · exact hold ⟨start, heq.symm⟩
    · rcases hunder.nested isUnder_routeHost hne with hnested | hnested
      · exact hnew hnested
      · exact hold hnested

/-- A host that was moved to a domain under the old one is moved again. -/
theorem rehost?_again_of_isUnder (h : rehost? host old new = some moved)
    (hunder : IsUnder new old) : (rehost? moved old new).isSome = true := by
  obtain ⟨hfilled, hne⟩ := domains_of_rehost? h
  rw [isSome_rehost?_iff_isUnder hfilled hne]
  rcases rehost?_cases h with ⟨rfl, -⟩ | ⟨start, -, -, rfl⟩
  · exact .inr hunder
  · exact .inr (isUnder_routeHost.trans hunder)

/-- A host that was moved out of a domain under the new one is moved again when its start is, or
lies under, what the old domain puts before the new one. -/
theorem rehost?_again_iff (h : rehost? host (routeHost rest new) new = some moved) :
    (rehost? moved (routeHost rest new) new).isSome = true ↔
      ∃ start, start ≠ "" ∧ host = routeHost start (routeHost rest new) ∧
        (start = rest ∨ IsUnder start rest) := by
  obtain ⟨hfilled, hne⟩ := domains_of_rehost? h
  rw [isSome_rehost?_iff_isUnder hfilled hne]
  rcases rehost?_cases h with ⟨rfl, hwhole⟩ | ⟨start, hstart, rfl, rfl⟩
  · constructor
    · rintro (heq | hunder)
      · exact absurd heq.symm hne
      · exact absurd isUnder_routeHost hunder.asymm
    · rintro ⟨start, hstart, heq, -⟩
      exact absurd heq (hwhole start hstart)
  · have hagain : routeHost start new = routeHost rest new ∨
        IsUnder (routeHost start new) (routeHost rest new) ↔ start = rest ∨ IsUnder start rest := by
      simp only [IsUnder, routeHost_routeHost, routeHost_inj]
    rw [hagain]
    constructor
    · intro hstarts
      exact ⟨start, hstart, rfl, hstarts⟩
    · rintro ⟨other, -, heq, hother⟩
      rwa [routeHost_inj.1 heq]

/-- **No host is moved twice exactly when neither domain lies under the other.** -/
theorem rehost?_moves_once_iff (hold : old ≠ "") :
    (∀ host moved, rehost? host old new = some moved → rehost? moved old new = none) ↔
      ¬ IsUnder new old ∧ ¬ IsUnder old new := by
  constructor
  · intro honce
    by_cases hne : old = new
    · subst hne
      exact ⟨not_isUnder_self, not_isUnder_self⟩
    refine ⟨fun hunder => ?_, ?_⟩
    · have hmoved := rehost?_self hold hne
      have hagain := rehost?_again_of_isUnder hmoved hunder
      rw [honce _ _ hmoved] at hagain
      cases hagain
    · rintro ⟨rest, rfl⟩
      -- A start that ends with the labels between the domains, whatever these are.
      have hstart : routeHost "a" rest ≠ "" := by
        simp [routeHost, ← String.toList_inj]
      have hmoved : rehost? (routeHost (routeHost "a" rest) (routeHost rest new))
          (routeHost rest new) new = some (routeHost (routeHost "a" rest) new) := by
        rw [rehost?_routeHost hold hne, if_neg hstart]
      have hagain := (rehost?_again_iff hmoved).2
        ⟨_, hstart, rfl, .inr isUnder_routeHost⟩
      rw [honce _ _ hmoved] at hagain
      cases hagain
  · rintro ⟨hnew, hunder⟩ host moved h
    exact rehost?_of_moved h hnew hunder

end EdgeSetup.Dns
