import EdgeSetup.Text.Split

/-!
# Replaced texts

A text is read from the left: it is empty, or a pattern begins it, or a character at which no
occurrence begins (`replaceAll_induction`). In the second case the occurrence is replaced, and in
the third the character stays.

**Replacing a pattern by a shorter text** changes exactly the texts that it occurs in
(`replaceAll_eq_self_iff`).
-/

namespace EdgeSetup.Text

variable {pattern replacement text rest : List Char} {c : Char}

theorem stripStart?_eq_none_iff {start : List Char} :
    stripStart? start text = none ↔ ¬ start <+: text := by
  rw [Option.eq_none_iff_forall_ne_some]
  constructor
  · rintro h ⟨rest, hrest⟩
    exact h rest (stripStart?_eq_some_iff.2 hrest.symm)
  · intro h rest hrest
    exact h ⟨rest, (stripStart?_eq_some_iff.1 hrest).symm⟩

/-! ## One step -/

/-- Steps that are not needed change nothing. -/
theorem replaceFuel_congr (hpattern : pattern ≠ []) {fuel fuel' : Nat}
    (h : text.length ≤ fuel) (h' : text.length ≤ fuel') :
    replaceFuel pattern replacement fuel text = replaceFuel pattern replacement fuel' text := by
  induction fuel generalizing fuel' text with
  | zero =>
    obtain rfl := List.length_eq_zero_iff.1 (Nat.le_zero.1 h)
    cases fuel' <;> rfl
  | succ fuel ih =>
    cases text with
    | nil => cases fuel' <;> rfl
    | cons c rest =>
      obtain ⟨fuel', rfl⟩ := Nat.exists_eq_add_of_lt (Nat.lt_of_lt_of_le (Nat.succ_pos _) h')
      simp only [Nat.zero_add, List.length_cons] at h h' ⊢
      rw [replaceFuel, replaceFuel]
      cases hstrip : stripStart? pattern (c :: rest) with
      | none => exact congrArg (c :: ·) (ih (by omega) (by omega))
      | some after =>
        have hlength := congrArg List.length (stripStart?_eq_some_iff.1 hstrip)
        have hpos := List.length_pos_iff.2 hpattern
        rw [List.length_cons, List.length_append] at hlength
        exact congrArg (replacement ++ ·) (ih (by omega) (by omega))

@[simp] theorem replaceAll_nil : replaceAll pattern replacement [] = [] := rfl

/-- A character at which the pattern does not begin stays. -/
theorem replaceAll_cons (h : ¬ pattern <+: c :: rest) :
    replaceAll pattern replacement (c :: rest) = c :: replaceAll pattern replacement rest := by
  rw [replaceAll, List.length_cons, replaceFuel, stripStart?_eq_none_iff.2 h]
  rfl

/-- An occurrence is replaced. -/
theorem replaceAll_append (hpattern : pattern ≠ []) :
    replaceAll pattern replacement (pattern ++ rest) =
      replacement ++ replaceAll pattern replacement rest := by
  obtain ⟨p, others, rfl⟩ := List.exists_cons_of_ne_nil hpattern
  rw [replaceAll, List.cons_append, List.length_cons, replaceFuel, ← List.cons_append,
    stripStart?_eq_some_iff.2 rfl]
  exact congrArg (replacement ++ ·) (replaceFuel_congr hpattern (by simp) (Nat.le_refl _))

/-- Reads a text from the left. -/
theorem replaceAll_induction (hpattern : pattern ≠ []) {motive : List Char → Prop}
    (nil : motive []) (occurrence : ∀ rest, motive rest → motive (pattern ++ rest))
    (other : ∀ c rest, ¬ pattern <+: c :: rest → motive rest → motive (c :: rest))
    (text : List Char) : motive text := by
  induction hlength : text.length using Nat.strongRecOn generalizing text with
  | ind length ih =>
    cases text with
    | nil => exact nil
    | cons c rest =>
      subst hlength
      by_cases hbegins : pattern <+: c :: rest
      · obtain ⟨after, hafter⟩ := hbegins
        have hshorter : after.length < (c :: rest).length := by
          rw [← hafter, List.length_append]
          exact Nat.lt_add_of_pos_left (List.length_pos_iff.2 hpattern)
        exact hafter ▸ occurrence after (ih _ hshorter after rfl)
      · exact other c rest hbegins (ih _ (Nat.lt_succ_self _) rest rfl)

/-! ## Whole texts -/

/-- A start without the first character of the pattern stays. -/
theorem replaceAll_skip {p : Char} (others : List Char) {start : List Char} (h : p ∉ start) :
    replaceAll (p :: others) replacement (start ++ rest) =
      start ++ replaceAll (p :: others) replacement rest := by
  induction start with
  | nil => rfl
  | cons c start ih =>
    rw [List.mem_cons, not_or] at h
    obtain ⟨hne, hstart⟩ := h
    have hother : ¬ p :: others <+: c :: (start ++ rest) := fun hprefix =>
      hne (List.cons_prefix_cons.1 hprefix).1
    rw [List.cons_append, replaceAll_cons hother, ih hstart, List.cons_append]

theorem length_replaceAll_le (hshort : replacement.length < pattern.length) (text : List Char) :
    (replaceAll pattern replacement text).length ≤ text.length := by
  have hpattern : pattern ≠ [] := List.length_pos_iff.1 (Nat.zero_lt_of_lt hshort)
  induction text using replaceAll_induction hpattern with
  | nil => exact Nat.le_refl 0
  | occurrence rest ih =>
    rw [replaceAll_append hpattern, List.length_append, List.length_append]
    omega
  | other c rest hother ih =>
    rw [replaceAll_cons hother]
    exact Nat.succ_le_succ ih

/-- **A shorter text is put in place of a pattern without effect** exactly where the pattern does
not occur. -/
theorem replaceAll_eq_self_iff (hshort : replacement.length < pattern.length)
    (text : List Char) : replaceAll pattern replacement text = text ↔ ¬ pattern <:+: text := by
  have hpattern : pattern ≠ [] := List.length_pos_iff.1 (Nat.zero_lt_of_lt hshort)
  induction text using replaceAll_induction hpattern with
  | nil => simpa using hpattern
  | occurrence rest _ =>
    have hlength := length_replaceAll_le hshort rest
    refine iff_of_false (fun heq => ?_) (not_not_intro (List.prefix_append _ _).isInfix)
    have hsame := congrArg List.length heq
    rw [replaceAll_append hpattern, List.length_append, List.length_append] at hsame
    omega
  | other c rest hother ih =>
    rw [replaceAll_cons hother, List.cons.injEq, List.infix_cons_iff]
    simp only [true_and, hother, false_or, ih]

end EdgeSetup.Text
