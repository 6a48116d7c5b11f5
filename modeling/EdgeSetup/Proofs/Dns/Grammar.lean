import EdgeSetup.Proofs.Dns.HostNames
import EdgeSetup.Proofs.Text.Pieces

/-!
# The grammar of domain names

The pattern of domain names, read label by label.

**Labels** (`matches_labelPattern`). The pattern takes the first character of a label by itself and
closes the label with another, so what is left for its repetition is at most 61 characters. A core
of one character is the case where that part is left out.

**Names** (`matches_namePattern`). No label has a dot, so the dots of a text that matches are where
the pattern puts them, and the pieces between the dots are the labels.

**A name is valid exactly when the grammar allows it** (`isValidName_iff_isName`).
-/

namespace EdgeSetup.Dns

open Text

variable {inner : Char → Bool} {label top text : List Char} {rest : List (List Char)}

/-! ## Classes of characters -/

theorem isInner_of_isEdge {c : Char} (h : isEdge c = true) : isInner c = true := by
  simp [isInner, h]

theorem isLooseInner_of_isInner {c : Char} (h : isInner c = true) : isLooseInner c = true := by
  simp [isLooseInner, h]

theorem isEdge_of_isLetter {c : Char} (h : isLetter c = true) : isEdge c = true := by
  simp [isEdge, h]

/-! ## Labels -/

/-- An edge, then up to 61 inner characters closed by an edge. -/
def corePattern (inner : Char → Bool) : Pattern :=
  .seq (.one isEdge) (.optional (.seq (.upTo 61 (.one inner)) (.one isEdge)))

variable (hinner : ∀ c, isEdge c = true → inner c = true)

include hinner

theorem isCore_single {c : Char} : IsCore inner [c] ↔ isEdge c = true := by
  constructor
  · intro h
    exact h.2.2.2.1 c rfl
  · intro h
    simp [IsCore, h, hinner c h]

theorem isCore_enclosed {first last : Char} {middle : List Char} :
    IsCore inner (first :: (middle ++ [last])) ↔
      isEdge first = true ∧ isEdge last = true ∧ middle.length ≤ 61 ∧
        ∀ c ∈ middle, inner c = true := by
  have hends : (first :: (middle ++ [last])).getLast? = some last := by
    rw [← List.cons_append, List.getLast?_concat]
  rw [IsCore, hends]
  constructor
  · rintro ⟨-, hlength, hclass, hfirst, hlast⟩
    have hshort : middle.length ≤ 61 := by
      simp only [List.length_cons, List.length_append, List.length_nil] at hlength
      omega
    exact ⟨hfirst first rfl, hlast last rfl, hshort, fun c hc => hclass c (by simp [hc])⟩
  · rintro ⟨hfirst, hlast, hshort, hclass⟩
    refine ⟨by simp, by simp; omega, ?_, by simpa using hfirst, by simpa using hlast⟩
    intro c hc
    simp only [List.mem_cons, List.mem_append, List.not_mem_nil, or_false] at hc
    rcases hc with rfl | hc | rfl
    · exact hinner c hfirst
    · exact hclass c hc
    · exact hinner c hlast

theorem matches_corePattern : (corePattern inner).Matches text ↔ IsCore inner text := by
  constructor
  · intro h
    obtain ⟨start, rest, rfl, hstart, hrest⟩ := Pattern.matches_seq.1 h
    obtain ⟨first, rfl, hfirst⟩ := Pattern.matches_one.1 hstart
    rcases Pattern.matches_optional.1 hrest with hrest | rfl
    · obtain ⟨middle, ending, rfl, hmiddle, hending⟩ := Pattern.matches_seq.1 hrest
      obtain ⟨last, rfl, hlast⟩ := Pattern.matches_one.1 hending
      have hbounds := Pattern.matches_upTo_one.1 hmiddle
      exact (isCore_enclosed hinner).2 ⟨hfirst, hlast, hbounds⟩
    · exact (isCore_single hinner).2 hfirst
  · intro h
    obtain ⟨first, rest, rfl⟩ := List.exists_cons_of_length_pos h.1
    rcases List.eq_nil_or_concat rest with rfl | ⟨middle, last, rfl⟩
    · have hfirst := (isCore_single hinner).1 h
      exact .seq (.one hfirst) (Pattern.matches_optional.2 (.inr rfl))
    · rw [List.concat_eq_append] at h ⊢
      obtain ⟨hfirst, hlast, hbounds⟩ := (isCore_enclosed hinner).1 h
      have hrest := Pattern.Matches.seq (Pattern.matches_upTo_one.2 hbounds) (.one hlast)
      exact .seq (.one hfirst) (Pattern.matches_optional.2 (.inl hrest))

theorem matches_labelPattern : (labelPattern inner).Matches text ↔ IsLabel inner text := by
  rw [show labelPattern inner = .seq (.optional (.literal ['x', 'n', '-', '-'])) (corePattern inner)
    from rfl, Pattern.matches_seq]
  simp only [Pattern.matches_optional, Pattern.matches_literal, matches_corePattern hinner]
  constructor
  · rintro ⟨mark, core, rfl, rfl | rfl, hcore⟩
    · exact .inr ⟨core, rfl, hcore⟩
    · exact .inl hcore
  · -- The mark is left out of a core even when the core begins like it.
    rintro (hcore | ⟨core, rfl, hcore⟩)
    · exact ⟨[], text, rfl, .inr rfl, hcore⟩
    · exact ⟨_, core, rfl, .inl rfl, hcore⟩

omit hinner

theorem matches_looseLabel : (labelPattern isLooseInner).Matches text ↔ IsLabel isLooseInner text :=
  matches_labelPattern fun _ h => isLooseInner_of_isInner (isInner_of_isEdge h)

theorem matches_innerLabel : (labelPattern isInner).Matches text ↔ IsLabel isInner text :=
  matches_labelPattern fun _ => isInner_of_isEdge

/-! ## What labels consist of -/

theorem IsLabel.dot_not_mem (h : IsLabel isLooseInner label) : '.' ∉ label :=
  (matches_looseLabel.2 h).not_mem (by decide)

theorem IsLabel.loose (h : IsLabel isInner label) : IsLabel isLooseInner label := by
  have hcore : ∀ core, IsCore isInner core → IsCore isLooseInner core := by
    rintro core ⟨hpos, hlength, hclass, hends⟩
    exact ⟨hpos, hlength, fun c hc => isLooseInner_of_isInner (hclass c hc), hends⟩
  rcases h with h | ⟨core, rfl, h⟩
  · exact .inl (hcore label h)
  · exact .inr ⟨core, rfl, hcore core h⟩

theorem IsLabel.isLooseInner (h : IsLabel isLooseInner label) {c : Char} (hc : c ∈ label) :
    isLooseInner c = true := by
  rcases h with ⟨-, -, hclass, -⟩ | ⟨core, rfl, -, -, hclass, -⟩
  · exact hclass c hc
  · have hmark : ['x', 'n', '-', '-'].all Dns.isLooseInner = true := rfl
    exact (List.mem_append.1 hc).elim (List.all_eq_true.1 hmark c) (hclass c)

theorem IsLabel.ne_nil (h : IsLabel inner label) : label ≠ [] := by
  rcases h with h | ⟨core, rfl, -⟩
  · exact List.ne_nil_of_length_pos h.1
  · simp

theorem IsTopLabel.ne_nil (h : IsTopLabel top) : top ≠ [] := by
  rintro rfl
  exact absurd h.1 (by decide)

theorem IsTopLabel.dot_not_mem (h : IsTopLabel top) : '.' ∉ top := by
  intro hdot
  exact absurd (h.2 '.' hdot) (by decide)

/-! ## Names -/

/-- Earlier labels, a label without underscores, and a last label of letters. -/
def AreNameLabels (labels : List (List Char)) : Prop :=
  ∃ earlier second top, labels = earlier ++ [second, top] ∧
    (∀ label ∈ earlier, IsLabel isLooseInner label) ∧ IsLabel isInner second ∧ IsTopLabel top

theorem isName_iff {name : String} :
    IsName name ↔ name.utf8ByteSize ≤ maxNameLength ∧ AreNameLabels (labels name) := Iff.rfl

theorem AreNameLabels.cons (hlabel : IsLabel isLooseInner label) (h : AreNameLabels rest) :
    AreNameLabels (label :: rest) := by
  obtain ⟨earlier, second, top, rfl, hearlier, hends⟩ := h
  exact ⟨label :: earlier, second, top, rfl, List.forall_mem_cons.2 ⟨hlabel, hearlier⟩, hends⟩

/-- Every label of a name is one of the earlier kind or a last label. -/
theorem AreNameLabels.kind (h : AreNameLabels rest) (hlabel : label ∈ rest) :
    IsLabel isLooseInner label ∨ IsTopLabel label := by
  obtain ⟨earlier, second, top, rfl, hearlier, hsecond, htop⟩ := h
  simp only [List.mem_append, List.mem_cons, List.not_mem_nil, or_false] at hlabel
  rcases hlabel with hlabel | rfl | rfl
  · exact .inl (hearlier label hlabel)
  · exact .inl hsecond.loose
  · exact .inr htop

theorem splitOn_dotted (hlabel : '.' ∉ label) :
    splitOn '.' (label ++ '.' :: text) = label :: splitOn '.' text := by
  rw [splitOn_eq, splitOn_eq, List.splitOn_append_cons_self_of_not_mem hlabel]

open Text.Pattern in
/-- The end of a name: a label, a dot, and at least two letters. -/
def endPattern : Pattern :=
  seq (labelPattern isInner)
    (seq (one (· == '.')) (seq (one isLetter) (seq (one isLetter) (many (one isLetter)))))

theorem matches_endPattern :
    endPattern.Matches text ↔
      ∃ second top, text = second ++ '.' :: top ∧ IsLabel isInner second ∧ IsTopLabel top := by
  simp only [endPattern, Pattern.matches_seq, Pattern.matches_one, Pattern.matches_many_one,
    matches_innerLabel]
  constructor
  · rintro ⟨second, _, rfl, hsecond, _, _, rfl, ⟨dot, rfl, hdot⟩, _, _, rfl, ⟨c, rfl, hc⟩,
      _, more, rfl, ⟨d, rfl, hd⟩, hmore⟩
    rw [beq_iff_eq.1 hdot]
    refine ⟨second, c :: d :: more, rfl, hsecond, by simp, ?_⟩
    simpa [hc, hd] using hmore
  · rintro ⟨second, _ | ⟨c, _ | ⟨d, more⟩⟩, rfl, hsecond, hlength, hletters⟩
    · simp at hlength
    · simp at hlength
    · obtain ⟨hc, hd, hmore⟩ : isLetter c = true ∧ isLetter d = true ∧
          ∀ e ∈ more, isLetter e = true := by
        simpa using hletters
      exact ⟨second, _, rfl, hsecond, ['.'], _, rfl, ⟨'.', rfl, rfl⟩, [c], _, rfl, ⟨c, rfl, hc⟩,
        [d], more, rfl, ⟨d, rfl, hd⟩, hmore⟩

/-- A text that matches falls into the labels of a name: each repeat of the pattern is one more
label in front. -/
theorem areNameLabels_of_matches (h : namePattern.Matches text) :
    AreNameLabels (splitOn '.' text) := by
  obtain ⟨start, ending, rfl, hstart, hending⟩ := Pattern.matches_seq.1 h
  obtain ⟨parts, rfl, hparts⟩ := Pattern.matches_many.1 hstart
  clear h hstart
  induction parts with
  | nil =>
    obtain ⟨second, top, rfl, hsecond, htop⟩ := matches_endPattern.1 hending
    refine ⟨[], second, top, ?_, nofun, hsecond, htop⟩
    have hlast : splitOn '.' top = [top] := by
      rw [splitOn_eq, List.splitOn_eq_singleton htop.dot_not_mem]
    rw [List.flatten_nil, List.nil_append, splitOn_dotted hsecond.loose.dot_not_mem, hlast]
    rfl
  | cons part parts ih =>
    obtain ⟨hpart, hmore⟩ := List.forall_mem_cons.1 hparts
    obtain ⟨label, dot, rfl, hlabel, hdot⟩ := Pattern.matches_seq.1 hpart
    obtain ⟨c, rfl, hc⟩ := Pattern.matches_one.1 hdot
    have hlabel := matches_looseLabel.1 hlabel
    rw [beq_iff_eq.1 hc, List.flatten_cons]
    simp only [List.append_assoc, List.cons_append, List.nil_append]
    rw [splitOn_dotted hlabel.dot_not_mem]
    exact .cons hlabel (ih hmore)

theorem matches_of_areNameLabels (h : AreNameLabels rest) :
    namePattern.Matches (['.'].intercalate rest) := by
  obtain ⟨earlier, second, top, rfl, hearlier, hsecond, htop⟩ := h
  induction earlier with
  | nil =>
    have hending := matches_endPattern.2 ⟨second, top, rfl, hsecond, htop⟩
    have hname : namePattern.Matches ([] ++ (second ++ '.' :: top)) := .seq .manyNil hending
    simpa using hname
  | cons label earlier ih =>
    obtain ⟨hlabel, hearlier⟩ := List.forall_mem_cons.1 hearlier
    have hall := namePattern_prepend (matches_looseLabel.2 hlabel) (ih hearlier)
    rw [List.cons_append, List.intercalate_cons_of_ne_nil (by simp)]
    simpa using hall

/-- **The pattern of names matches exactly the texts whose pieces are the labels of a name.** -/
theorem matches_namePattern : namePattern.Matches text ↔ AreNameLabels (splitOn '.' text) := by
  constructor
  · exact areNameLabels_of_matches
  · intro h
    have htext := matches_of_areNameLabels h
    rwa [splitOn_eq, List.intercalate_splitOn] at htext

/-- A text of name labels has no characters but those of labels and the dots between them. -/
theorem AreNameLabels.allowed (h : AreNameLabels (splitOn '.' text)) {c : Char} (hc : c ∈ text) :
    isLooseInner c = true ∨ c = '.' := by
  rcases exists_piece_of_mem hc with hdot | ⟨label, hlabel, hc⟩
  · exact .inr hdot
  · refine .inl ?_
    rcases h.kind hlabel with hkind | hkind
    · exact hkind.isLooseInner hc
    · exact isLooseInner_of_isInner (isInner_of_isEdge (isEdge_of_isLetter (hkind.2 c hc)))

/-- **A name is valid exactly when the grammar allows it**, and then it has only lower-case
letters, digits, dashes, underscores and dots, and no empty label. -/
theorem isValidName_iff_isName (name : String) :
    (isValidName name = true ↔ IsName name) ∧
      (IsName name →
        (∀ c ∈ name.toList, isLooseInner c = true ∨ c = '.') ∧ [] ∉ labels name) := by
  constructor
  · rw [isValidName_iff, isName_iff, matches_namePattern, labels]
  · intro h
    have hlabels := (isName_iff.1 h).2
    refine ⟨fun c hc => hlabels.allowed hc, fun hempty => ?_⟩
    rcases hlabels.kind hempty with hkind | hkind
    · exact hkind.ne_nil rfl
    · exact hkind.ne_nil rfl

theorem isValidName_iff_isName_marked :
    IsName "edge_0.xn--bcher-kva.example" ∧ ¬ IsName "example.com\n" := by
  constructor
  · exact (isValidName_iff_isName _).1.1 (by decide +kernel)
  · intro h
    exact absurd ((isValidName_iff_isName _).1.2 h) (by decide +kernel)

end EdgeSetup.Dns
