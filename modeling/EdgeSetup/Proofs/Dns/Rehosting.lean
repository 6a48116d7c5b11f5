import EdgeSetup.Dns.ClusterDomains

/-!
# Moving hosts between application domains

`rehost?` compares a host with the old domain and cuts the old domain off behind a dot, and both
tests are about the end of the host only.

**What is moved and where to** (`rehost?_eq_some_iff`). The domain itself moves to the new domain,
and a host under it keeps all that stands before the new domain. The domain behind a bare dot is let
through as well, and loses the dot.

**Moving is reversible** (`rehost?_reversible`). Apart from that last case, moving back gives the
host again, whatever the two domains have in common.
-/

namespace EdgeSetup.Dns

variable {host host' old new moved start : String}

/-! ## Hosts under a domain -/

theorem toList_routeHost : (routeHost start old).toList = start.toList ++ '.' :: old.toList := by
  simp [routeHost]

theorem routeHost_ne : routeHost start old ≠ old := by
  intro h
  have hlength := congrArg (fun text => text.toList.length) h
  simp only [toList_routeHost, List.length_append, List.length_cons] at hlength
  omega

theorem eq_routeHost_iff :
    host = routeHost start old ↔
      Text.stripEnd? ('.' :: old.toList) host.toList = some start.toList := by
  rw [Text.stripEnd?_eq_some_iff, ← toList_routeHost, String.toList_inj]

theorem routeHost_empty : routeHost "" old = "." ++ old := by
  simp [routeHost]

theorem exists_routeHost_iff :
    (∃ start, host = routeHost start old) ↔ ('.' :: old.toList) <:+ host.toList := by
  constructor
  · rintro ⟨start, rfl⟩
    exact ⟨start.toList, toList_routeHost.symm⟩
  · rintro ⟨start, hstart⟩
    refine ⟨String.ofList start, ?_⟩
    rw [← String.toList_inj, toList_routeHost, String.toList_ofList, hstart]

/-! ## What is moved -/

section Moves

variable (hold : old ≠ "") (hne : old ≠ new)

include hold hne

theorem rehost?_self : rehost? old old new = some new := by
  simp [rehost?, hold, hne]

theorem rehost?_routeHost :
    rehost? (routeHost start old) old new =
      some (if start = "" then new else routeHost start new) := by
  have hcut : Text.stripEnd? ('.' :: old.toList) (routeHost start old).toList = some start.toList :=
    eq_routeHost_iff.1 rfl
  rw [rehost?, if_neg (by simp [hold, hne]), if_neg routeHost_ne, hcut]
  cases hstart : start.toList with
  | nil => simp [String.toList_eq_nil_iff.1 hstart]
  | cons c rest =>
    have hne' : start ≠ "" := by
      rintro rfl
      cases hstart
    have hwhole : String.ofList (c :: rest) = start := by
      rw [← hstart, String.ofList_toList]
    rw [if_neg hne', routeHost, ← hwhole]

theorem routeHost_of_rehost? (h : rehost? host old new = some moved) (hhost : host ≠ old) :
    ∃ start, host = routeHost start old := by
  rw [rehost?, if_neg (by simp [hold, hne]), if_neg hhost] at h
  cases hcut : Text.stripEnd? ('.' :: old.toList) host.toList with
  | none =>
    rw [hcut] at h
    cases h
  | some kept =>
    refine ⟨String.ofList kept, eq_routeHost_iff.2 ?_⟩
    rw [hcut, String.toList_ofList]

/-- All that is moved, and where to. -/
theorem rehost?_eq_some_iff :
    rehost? host old new = some moved ↔
      (host = old ∧ moved = new) ∨ (host = "." ++ old ∧ moved = new) ∨
        ∃ start, start ≠ "" ∧ host = routeHost start old ∧ moved = routeHost start new := by
  constructor
  · intro h
    -- The domain itself is tested first, before anything is cut off.
    by_cases hhost : host = old
    · subst hhost
      rw [rehost?_self hold hne] at h
      exact .inl ⟨rfl, (Option.some.inj h).symm⟩
    · obtain ⟨start, rfl⟩ := routeHost_of_rehost? hold hne h hhost
      rw [rehost?_routeHost hold hne] at h
      by_cases hstart : start = ""
      · rw [if_pos hstart] at h
        exact .inr (.inl ⟨hstart ▸ routeHost_empty, (Option.some.inj h).symm⟩)
      · rw [if_neg hstart] at h
        exact .inr (.inr ⟨start, hstart, rfl, (Option.some.inj h).symm⟩)
  · rintro (⟨rfl, rfl⟩ | ⟨rfl, rfl⟩ | ⟨start, hstart, rfl, rfl⟩)
    · exact rehost?_self hold hne
    · rw [← routeHost_empty, rehost?_routeHost hold hne, if_pos rfl]
    · rw [rehost?_routeHost hold hne, if_neg hstart]

theorem isSome_rehost?_iff :
    (rehost? host old new).isSome = true ↔
      host = old ∨ ('.' :: old.toList) <:+ host.toList := by
  rw [← exists_routeHost_iff]
  constructor
  · intro h
    obtain ⟨moved, hmoved⟩ := Option.isSome_iff_exists.1 h
    by_cases hhost : host = old
    · exact .inl hhost
    · exact .inr (routeHost_of_rehost? hold hne hmoved hhost)
  · rintro (rfl | ⟨start, rfl⟩)
    · rw [rehost?_self hold hne, Option.isSome_some]
    · rw [rehost?_routeHost hold hne, Option.isSome_some]

end Moves

/-! ## Moving back -/

theorem rehost?_back (hold : old ≠ "") (hnew : new ≠ "") (hne : old ≠ new)
    (h : rehost? host old new = some moved) (hhost : host ≠ "." ++ old) :
    rehost? moved new old = some host := by
  rcases (rehost?_eq_some_iff hold hne).1 h with ⟨rfl, rfl⟩ | ⟨hdot, -⟩ | ⟨start, hstart, rfl, rfl⟩
  · exact rehost?_self hnew hne.symm
  · exact absurd hdot hhost
  · rw [rehost?_routeHost hnew hne.symm, if_neg hstart]

/-- How hosts move from one domain to another. -/
structure Rehosting (old new : String) : Prop where
  /-- The hosts that are moved are the domain and those that end with a dot and the domain. -/
  exact : ∀ host, (rehost? host old new).isSome = true ↔
    host = old ∨ ('.' :: old.toList) <:+ host.toList
  /-- Moving back gives the host again. -/
  back : ∀ host moved, host ≠ "." ++ old → rehost? host old new = some moved →
    rehost? moved new old = some host
  /-- Two hosts never meet. -/
  apart : ∀ host host', host ≠ "." ++ old → host' ≠ "." ++ old → host ≠ host' →
    ∀ moved, rehost? host old new = some moved → rehost? host' old new ≠ some moved
  /-- The part that is replaced is all of the host or stands behind a dot, and what stands before
  it is kept. -/
  kept : ∀ host moved, host ≠ "." ++ old → rehost? host old new = some moved →
    ∃ before, host = before ++ old ∧ moved = before ++ new ∧
      (before = "" ∨ ∃ start, before = start ++ ".")

/-- **Moving is exact and reversible.** -/
theorem rehost?_reversible (hold : old ≠ "") (hnew : new ≠ "") (hne : old ≠ new) :
    Rehosting old new where
  exact _ := isSome_rehost?_iff hold hne
  back _ _ hhost h := rehost?_back hold hnew hne h hhost
  apart host host' hhost hhost' hdiffer moved h h' := by
    have hback := rehost?_back hold hnew hne h hhost
    have hback' := rehost?_back hold hnew hne h' hhost'
    exact hdiffer (Option.some.inj (hback.symm.trans hback'))
  kept host moved hhost h := by
    rcases (rehost?_eq_some_iff hold hne).1 h with ⟨rfl, rfl⟩ | ⟨hdot, -⟩ | ⟨start, -, rfl, rfl⟩
    · exact ⟨"", String.empty_append.symm, String.empty_append.symm, .inl rfl⟩
    · exact absurd hdot hhost
    · exact ⟨start ++ ".", rfl, rfl, .inr ⟨start, rfl⟩⟩

/-- One domain may be the end of the other. -/
theorem rehost?_reversible_nested :
    Rehosting "apps.io" "apps.apps.io" ∧
      rehost? "console.apps.io" "apps.io" "apps.apps.io" = some "console.apps.apps.io" :=
  ⟨rehost?_reversible (by decide) (by decide) (by decide), by decide⟩

end EdgeSetup.Dns
