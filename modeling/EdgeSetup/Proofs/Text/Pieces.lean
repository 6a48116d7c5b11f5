import EdgeSetup.Text.Blank
import Mathlib.Data.List.DropRight
import Mathlib.Data.List.TakeWhile

/-!
# What is cut out of a text

The pieces, the ends and the core of a text are sublists of it, so they hold only characters that
the text holds.

**The pieces are the one way to write the text with separators between separator-free parts**
(`splitOn_eq_iff`).
-/

namespace EdgeSetup.Text

variable {text piece : List Char}

/-! ## Pieces -/

theorem sublist_of_mem_splitOn {separator : Char} (h : piece ∈ splitOn separator text) :
    piece.Sublist text := by
  induction text generalizing piece with
  | nil =>
    have hnil : piece = [] := List.mem_singleton.1 h
    exact hnil ▸ List.nil_sublist []
  | cons c rest ih =>
    rw [splitOn] at h
    split at h
    · rcases List.mem_cons.1 h with rfl | h
      · exact List.nil_sublist _
      · exact (ih h).cons c
    · split at h
      · next first pieces hrest =>
        rcases List.mem_cons.1 h with rfl | h
        · exact (ih (hrest ▸ List.mem_cons_self ..)).cons_cons c
        · exact (ih (hrest ▸ List.mem_cons_of_mem _ h)).cons c
      · rw [List.mem_singleton.1 h]
        exact (List.nil_sublist rest).cons_cons c

theorem splitOn_eq {separator : Char} : splitOn separator text = text.splitOn separator := by
  induction text with
  | nil => rfl
  | cons c rest ih =>
    rw [splitOn, List.splitOn_cons_eq_if_modifyHead, ← ih]
    by_cases hc : c = separator
    · simp [hc]
    · simp only [hc, beq_iff_eq, if_false]
      cases hrest : splitOn separator rest with
      | nil => exact absurd (ih.symm.trans hrest) (List.splitOn_ne_nil separator rest)
      | cons first pieces => rfl

theorem not_mem_of_mem_splitOn {separator : Char} (h : piece ∈ splitOn separator text) :
    separator ∉ piece := by
  induction text generalizing piece with
  | nil => simp [List.mem_singleton.1 h]
  | cons c rest ih =>
    rw [splitOn] at h
    by_cases hc : c = separator
    · rw [if_pos hc] at h
      rcases List.mem_cons.1 h with rfl | h
      · exact List.not_mem_nil
      · exact ih h
    · rw [if_neg hc] at h
      cases hrest : splitOn separator rest with
      | nil => simp_all [Ne.symm hc]
      | cons first pieces =>
        rw [hrest] at h ih
        rcases List.mem_cons.1 h with rfl | h
        · simp [Ne.symm hc, ih (List.mem_cons_self ..)]
        · exact ih (List.mem_cons_of_mem _ h)

/-- A character of the text is a separator or in a piece. -/
theorem exists_piece_of_mem {separator c : Char} (h : c ∈ text) :
    c = separator ∨ ∃ piece ∈ splitOn separator text, c ∈ piece := by
  have hwhole : [separator].intercalate (splitOn separator text) = text := by
    rw [splitOn_eq, List.intercalate_splitOn]
  rw [← hwhole] at h
  generalize splitOn separator text = pieces at h
  induction pieces with
  | nil => simp at h
  | cons first pieces ih =>
    cases pieces with
    | nil => exact .inr ⟨first, List.mem_cons_self .., by simpa using h⟩
    | cons second pieces =>
      rw [List.intercalate_cons_cons, List.mem_append, List.mem_append] at h
      rcases h with (h | h) | h
      · exact .inr ⟨first, List.mem_cons_self .., h⟩
      · exact .inl (List.mem_singleton.1 h)
      · refine (ih h).imp_right ?_
        rintro ⟨piece, hpiece, hc⟩
        exact ⟨piece, List.mem_cons_of_mem _ hpiece, hc⟩

theorem splitOn_eq_iff {separator : Char} {pieces : List (List Char)} (hpieces : pieces ≠ []) :
    splitOn separator text = pieces ↔
      (∀ piece ∈ pieces, separator ∉ piece) ∧ [separator].intercalate pieces = text := by
  constructor
  · intro h
    refine ⟨fun piece hpiece => not_mem_of_mem_splitOn (h ▸ hpiece), ?_⟩
    rw [← h, splitOn_eq, List.intercalate_splitOn]
  · rintro ⟨hfree, rfl⟩
    rw [splitOn_eq, List.splitOn_intercalate separator hfree hpieces]

/-! ## Ends -/

theorem trimEndWhile_sublist (p : Char → Bool) (text : List Char) :
    (trimEndWhile p text).Sublist text := by
  have h := (List.dropWhile_sublist (l := text.reverse) p).reverse
  rwa [List.reverse_reverse] at h

/-- An end of characters of a class is trimmed off, and nothing before it. -/
theorem trimEndWhile_append {p : Char → Bool} {ending : List Char}
    (hending : ∀ c ∈ ending, p c = true) (htext : ∀ c ∈ text.getLast?, p c = false) :
    trimEndWhile p (text ++ ending) = text := by
  have hstays : text.reverse.dropWhile p = text.reverse := by
    cases hreverse : text.reverse with
    | nil => rfl
    | cons last earlier =>
      have hlast : text.getLast? = some last := by
        rw [List.getLast?_eq_head?_reverse, hreverse, List.head?_cons]
      rw [List.dropWhile_cons_of_neg (by simp [htext last hlast])]
  rw [trimEndWhile, List.reverse_append,
    List.dropWhile_append_of_pos (fun c hc => hending c (List.mem_reverse.1 hc)), hstays,
    List.reverse_reverse]

theorem trim_sublist (text : List Char) : (trim text).Sublist text :=
  (trimEndWhile_sublist _ _).trans (List.dropWhile_sublist _)

theorem trimEndWhile_append_of_pos {p : Char → Bool} {ending : List Char}
    (hending : ∀ c ∈ ending, p c = true) (text : List Char) :
    trimEndWhile p (text ++ ending) = trimEndWhile p text := by
  rw [trimEndWhile, List.reverse_append,
    List.dropWhile_append_of_pos (fun c hc => hending c (List.mem_reverse.1 hc)), trimEndWhile]

/-- What is trimmed off an end is of the class. -/
theorem exists_eq_trimEndWhile_append (p : Char → Bool) (text : List Char) :
    ∃ ending, (∀ c ∈ ending, p c = true) ∧ text = trimEndWhile p text ++ ending := by
  refine ⟨(text.reverse.takeWhile p).reverse, fun c hc => ?_, ?_⟩
  · exact List.mem_takeWhile_imp (List.mem_reverse.1 hc)
  · rw [trimEndWhile, ← List.reverse_append, List.takeWhile_append_dropWhile, List.reverse_reverse]

theorem trim_dropWhile (text : List Char) : trim (text.dropWhile isBlank) = trim text := by
  rw [trim, trimWhile, List.dropWhile_idempotent, trim, trimWhile]

theorem trim_trimEndWhile (text : List Char) : trim (trimEndWhile isBlank text) = trim text := by
  obtain ⟨ending, hending, htext⟩ := exists_eq_trimEndWhile_append isBlank text
  generalize trimEndWhile isBlank text = core at htext
  subst htext
  rw [trim, trimWhile, trim, trimWhile, List.dropWhile_append]
  split
  · next hblank =>
    rw [List.isEmpty_iff.1 hblank, List.dropWhile_eq_nil_iff.2 hending]
  · rw [trimEndWhile_append_of_pos hending]

theorem trim_trim (text : List Char) : trim (trim text) = trim text := by
  have hcore : trim text = trimEndWhile isBlank (text.dropWhile isBlank) := rfl
  rw [hcore, trim_trimEndWhile, trim_dropWhile, hcore]

/-- A character that is no blank divides the trimming of a text. -/
theorem trim_append_cons {c : Char} (hc : isBlank c = false) (before after : List Char) :
    trim (before ++ c :: after) = before.dropWhile isBlank ++ c :: trimEndWhile isBlank after := by
  have hstop : ∀ front back : List Char,
      (front ++ c :: back).dropWhile isBlank = front.dropWhile isBlank ++ c :: back := by
    intro front back
    induction front with
    | nil => rw [List.nil_append, List.dropWhile_cons_of_neg (by simp [hc]), List.dropWhile_nil,
        List.nil_append]
    | cons d front ih =>
      by_cases hd : isBlank d = true
      · rw [List.cons_append, List.dropWhile_cons_of_pos hd, ih, List.dropWhile_cons_of_pos hd]
      · rw [List.cons_append, List.dropWhile_cons_of_neg hd, List.dropWhile_cons_of_neg hd,
          List.cons_append]
  rw [trim, trimWhile, hstop, trimEndWhile, List.reverse_append, List.reverse_cons,
    List.append_assoc, List.singleton_append, hstop, List.reverse_append, List.reverse_cons,
    List.reverse_reverse, List.append_assoc, List.singleton_append, trimEndWhile]

/-! ## Cuts -/

/-- A cut loses the separator only. -/
theorem cutAt?_eq_some {separator : Char} {before after : List Char}
    (h : cutAt? separator text = some (before, after)) :
    text = before ++ separator :: after := by
  induction text generalizing before with
  | nil => cases h
  | cons c rest ih =>
    rw [cutAt?] at h
    split at h
    · next hc =>
      cases h
      rw [hc, List.nil_append]
    · obtain ⟨⟨start, last⟩, hrest, heq⟩ := Option.map_eq_some_iff.1 h
      cases heq
      rw [ih hrest, List.cons_append]

theorem cutAt?_append {separator : Char} {before : List Char} (h : separator ∉ before)
    (after : List Char) :
    cutAt? separator (before ++ separator :: after) = some (before, after) := by
  induction before with
  | nil => rw [List.nil_append, cutAt?, if_pos rfl]
  | cons c before ih =>
    obtain ⟨hc, hrest⟩ := not_or.1 (mt List.mem_cons.2 h)
    rw [List.cons_append, cutAt?, if_neg (Ne.symm hc), ih hrest, Option.map_some]

theorem cutAt?_eq_none_iff {separator : Char} :
    cutAt? separator text = none ↔ separator ∉ text := by
  constructor
  · intro h hmem
    obtain ⟨before, after, rfl, hfree⟩ := List.eq_append_cons_of_mem hmem
    rw [cutAt?_append hfree] at h
    cases h
  · intro h
    cases hcut : cutAt? separator text with
    | none => rfl
    | some parts =>
      rw [cutAt?_eq_some hcut] at h
      simp at h

/-- A text is cut at the first separator. -/
theorem cutAt?_eq_some_iff {separator : Char} {before after : List Char} :
    cutAt? separator text = some (before, after) ↔
      text = before ++ separator :: after ∧ separator ∉ before := by
  constructor
  · intro h
    have hmem : separator ∈ text := by
      rw [cutAt?_eq_some h]
      simp
    obtain ⟨start, rest, htext, hfree⟩ := List.eq_append_cons_of_mem hmem
    rw [htext, cutAt?_append hfree] at h
    cases h
    exact ⟨htext, hfree⟩
  · rintro ⟨rfl, hfree⟩
    exact cutAt?_append hfree after

end EdgeSetup.Text
