import EdgeSetup.Proofs.Dns.Grammar

/-!
# How long labels are

The pattern of domain names bounds what stands between the first and the last character of a label.
It counts neither the mark `xn--` in front of a label nor the letters of the last label.

**Room** (`isValidName_ofList_iff`). A name that falls into labels has one byte for each character,
so the limit of a name is a limit of its characters.

**The lengths that occur** (`label_length_iff`). A label before the last has 1 to 63 characters, or
5 to 67 when it begins with `xn--`. The last label has 2 to 251, all that one letter and a dot leave
of a name.
-/

namespace EdgeSetup.Dns

open Text

variable {inner : Char → Bool} {label second top text : List Char} {front : List (List Char)}

/-! ## Room -/

theorem utf8Size_of_isLooseInner {c : Char} (h : isLooseInner c = true) : c.utf8Size = 1 := by
  have hsmall : c.val ≤ 0x7f := by
    simp only [isLooseInner, isInner, isEdge, isLetter, Char.isDigit, Bool.or_eq_true,
      Bool.and_eq_true, decide_eq_true_eq] at h
    rcases h with ((h | h) | rfl) | rfl
    · exact UInt32.le_trans h.2 (by decide)
    · exact UInt32.le_trans h.2 (by decide)
    · decide
    · decide
  exact if_pos hsmall

theorem utf8ByteSize_ofList (h : ∀ c ∈ text, c.utf8Size = 1) :
    (String.ofList text).utf8ByteSize = text.length := by
  induction text with
  | nil => rfl
  | cons c text ih =>
    obtain ⟨hc, htext⟩ := List.forall_mem_cons.1 h
    rw [← List.singleton_append, String.ofList_append, String.utf8ByteSize_append, ih htext]
    simp [hc, Nat.add_comm]

theorem isValidName_ofList_iff :
    isValidName (String.ofList text) = true ↔
      text.length ≤ maxNameLength ∧ AreNameLabels (splitOn '.' text) := by
  rw [isValidName_iff, matches_namePattern, String.toList_ofList]
  refine and_congr_left fun hlabels => ?_
  have hbytes : (String.ofList text).utf8ByteSize = text.length := by
    refine utf8ByteSize_ofList fun c hc => ?_
    rcases hlabels.allowed hc with h | rfl
    · exact utf8Size_of_isLooseInner h
    · decide
  rw [hbytes]

/-- The kinds of the labels before the last and of the last. -/
theorem AreNameLabels.front_last (h : AreNameLabels (front ++ [top])) :
    front ≠ [] ∧ (∀ label ∈ front, IsLabel isLooseInner label) ∧ IsTopLabel top := by
  obtain ⟨earlier, second, last, hall, hearlier, hsecond, hlast⟩ := h
  rw [List.append_cons earlier second [last]] at hall
  obtain ⟨rfl, hlasts⟩ := List.append_inj' hall rfl
  cases hlasts
  refine ⟨by simp, fun label hlabel => ?_, hlast⟩
  rcases List.mem_append.1 hlabel with hlabel | hlabel
  · exact hearlier label hlabel
  · exact List.mem_singleton.1 hlabel ▸ hsecond.loose

/-- Other labels take at least one character and a dot. -/
theorem le_length_intercalate (hfront : front ≠ []) (hlabels : ∀ label ∈ front, label ≠ []) :
    top.length + 2 ≤ (['.'].intercalate (front ++ [top])).length := by
  induction front with
  | nil => exact absurd rfl hfront
  | cons label front ih =>
    obtain ⟨hlabel, hmore⟩ := List.forall_mem_cons.1 hlabels
    have hpos := List.length_pos_iff.2 hlabel
    rw [List.cons_append, List.intercalate_cons_of_ne_nil (by simp)]
    simp only [List.length_append, List.length_singleton]
    by_cases hnil : front = []
    · rw [hnil, List.nil_append, List.intercalate_singleton]
      omega
    · have hrest := ih hnil hmore
      omega

/-! ## The lengths that occur -/

/-- The label begins with `xn--`. -/
def IsMarked (label : List Char) : Prop := ['x', 'n', '-', '-'] <+: label

/-- A label of the kind stands before the last label of some valid name. -/
def OccursBefore (kind : List Char → Prop) : Prop :=
  ∃ name front top label, isValidName name = true ∧ labels name = front ++ [top] ∧
    label ∈ front ∧ kind label

/-- The last label of some valid name is of the kind. -/
def OccursLast (kind : List Char → Prop) : Prop :=
  ∃ name front top, isValidName name = true ∧ labels name = front ++ [top] ∧ kind top

/-- A core does not end with a dash, so one that begins with `xn--` goes on after it. -/
theorem IsCore.marked_length (h : IsCore inner label) (hmarked : IsMarked label) :
    5 ≤ label.length := by
  obtain ⟨rest, rfl⟩ := hmarked
  cases rest with
  | nil => exact absurd (h.2.2.2.2 '-' rfl) (by decide)
  | cons c rest => simp

theorem IsLabel.length (h : IsLabel inner label) :
    (IsMarked label ∧ 5 ≤ label.length ∧ label.length ≤ 67) ∨
      (¬ IsMarked label ∧ 1 ≤ label.length ∧ label.length ≤ 63) := by
  rcases h with hcore | ⟨core, rfl, hcore⟩
  · have hbounds := And.intro hcore.1 hcore.2.1
    by_cases hmarked : IsMarked label
    · have hlong := hcore.marked_length hmarked
      exact .inl ⟨hmarked, hlong, by omega⟩
    · exact .inr ⟨hmarked, hbounds⟩
  · have hpos := hcore.1
    have hlength := hcore.2.1
    refine .inl ⟨⟨core, rfl⟩, ?_, ?_⟩
    · simp
      omega
    · simp
      omega

/-- As many letters as wanted, up to 63. -/
theorem isCore_replicate {length : Nat} (hpos : 1 ≤ length) (hlength : length ≤ 63) :
    IsCore isInner (List.replicate length 'a') := by
  have hall : ∀ c ∈ List.replicate length 'a', isEdge c = true := by
    intro c hc
    rw [List.eq_of_mem_replicate hc]
    decide
  refine ⟨by simpa using hpos, by simpa using hlength, fun c hc => isInner_of_isEdge (hall c hc),
    fun c hc => hall c (List.mem_of_mem_head? hc), fun c hc => hall c (List.mem_of_getLast? hc)⟩

theorem isTopLabel_replicate {length : Nat} (hlength : 2 ≤ length) :
    IsTopLabel (List.replicate length 'a') := by
  refine ⟨by simpa using hlength, fun c hc => ?_⟩
  rw [List.eq_of_mem_replicate hc]
  decide

/-- The two labels make a name if there is room for them. -/
theorem exists_name (hsecond : IsLabel isInner second) (htop : IsTopLabel top)
    (hroom : second.length + 1 + top.length ≤ maxNameLength) :
    ∃ name, isValidName name = true ∧ labels name = [second] ++ [top] := by
  have hlabels : splitOn '.' (second ++ '.' :: top) = [second, top] := by
    rw [splitOn_eq_iff (by simp)]
    refine ⟨?_, by simp⟩
    simp [hsecond.loose.dot_not_mem, htop.dot_not_mem]
  refine ⟨String.ofList (second ++ '.' :: top), ?_, ?_⟩
  · rw [isValidName_ofList_iff, hlabels]
    refine ⟨by simp; omega, [], second, top, rfl, nofun, hsecond, htop⟩
  · rw [labels, String.toList_ofList]
    exact hlabels

variable {name : String} {kind : List Char → Prop}

theorem OccursBefore.isLabel (h : OccursBefore kind) :
    ∃ label, IsLabel isLooseInner label ∧ kind label := by
  obtain ⟨name, front, top, label, hvalid, hlabels, hlabel, hkind⟩ := h
  have hall := matches_namePattern.1 (isValidName_iff.1 hvalid).2
  rw [← labels, hlabels] at hall
  exact ⟨label, hall.front_last.2.1 label hlabel, hkind⟩

theorem OccursLast.isTopLabel (h : OccursLast kind) :
    ∃ top, IsTopLabel top ∧ top.length ≤ 251 ∧ kind top := by
  obtain ⟨name, front, top, hvalid, hlabels, hkind⟩ := h
  rw [← String.ofList_toList (s := name), isValidName_ofList_iff, ← labels, hlabels] at hvalid
  obtain ⟨hlength, hall⟩ := hvalid
  obtain ⟨hfront, hkinds, htop⟩ := hall.front_last
  have htext := ((splitOn_eq_iff (by simp)).1 hlabels).2
  have hroom : top.length + 2 ≤ (['.'].intercalate (front ++ [top])).length :=
    le_length_intercalate hfront fun label hlabel => (hkinds label hlabel).ne_nil
  rw [htext] at hroom
  exact ⟨top, htop, by simp only [maxNameLength] at hlength; omega, hkind⟩

theorem IsLabel.occursBefore (h : IsLabel isInner label) (hkind : kind label) :
    OccursBefore kind := by
  have htop := isTopLabel_replicate (Nat.le_refl 2)
  have hlength : label.length ≤ 67 := by
    rcases h.length with h | h
    · exact h.2.2
    · omega
  obtain ⟨name, hvalid, hlabels⟩ := exists_name h htop (by simp [maxNameLength]; omega)
  exact ⟨name, [label], _, label, hvalid, hlabels, List.mem_singleton_self label, hkind⟩

theorem IsTopLabel.occursLast (h : IsTopLabel top) (hlength : top.length ≤ 251)
    (hkind : kind top) : OccursLast kind := by
  have hsecond : IsLabel isInner ['a'] := .inl ((isCore_single fun _ => isInner_of_isEdge).2 rfl)
  have hroom : ['a'].length + 1 + top.length ≤ maxNameLength := by
    simp [maxNameLength]
    omega
  obtain ⟨name, hvalid, hlabels⟩ := exists_name hsecond h hroom
  exact ⟨name, [['a']], top, hvalid, hlabels, hkind⟩

theorem occursBefore_unmarked_iff {length : Nat} :
    OccursBefore (fun label => ¬ IsMarked label ∧ label.length = length) ↔
      1 ≤ length ∧ length ≤ 63 := by
  constructor
  · intro h
    obtain ⟨label, hlabel, hunmarked, rfl⟩ := h.isLabel
    rcases hlabel.length with h | h
    · exact absurd h.1 hunmarked
    · exact h.2
  · rintro ⟨hpos, hlength⟩
    have hcore := isCore_replicate hpos hlength
    refine IsLabel.occursBefore (.inl hcore) ⟨?_, by simp⟩
    rintro ⟨rest, hrest⟩
    have hfirst : 'x' ∈ List.replicate length 'a' := by simp [← hrest]
    exact absurd (List.eq_of_mem_replicate hfirst) (by decide)

theorem occursBefore_marked_iff {length : Nat} :
    OccursBefore (fun label => IsMarked label ∧ label.length = length) ↔
      5 ≤ length ∧ length ≤ 67 := by
  constructor
  · intro h
    obtain ⟨label, hlabel, hmarked, rfl⟩ := h.isLabel
    rcases hlabel.length with h | h
    · exact h.2
    · exact absurd hmarked h.1
  · rintro ⟨hpos, hlength⟩
    have hcore : IsCore isInner (List.replicate (length - 4) 'a') :=
      isCore_replicate (by omega) (by omega)
    refine IsLabel.occursBefore (.inr ⟨_, rfl, hcore⟩) ⟨⟨_, rfl⟩, ?_⟩
    simp
    omega

theorem occursLast_iff {length : Nat} :
    OccursLast (fun label => label.length = length) ↔ 2 ≤ length ∧ length ≤ 251 := by
  constructor
  · intro h
    obtain ⟨top, htop, hlength, rfl⟩ := h.isTopLabel
    exact ⟨htop.1, hlength⟩
  · rintro ⟨hpos, hlength⟩
    exact (isTopLabel_replicate hpos).occursLast (by simpa using hlength) (by simp)

/-- **The lengths of labels.** Before the last label stand labels of 1 to 63 characters and, marked
with `xn--`, of 5 to 67; the last label has 2 to 251 characters. -/
theorem label_length_iff (length : Nat) :
    (OccursBefore (fun label => ¬ IsMarked label ∧ label.length = length) ↔
      1 ≤ length ∧ length ≤ 63) ∧
    (OccursBefore (fun label => IsMarked label ∧ label.length = length) ↔
      5 ≤ length ∧ length ≤ 67) ∧
    (OccursLast (fun label => label.length = length) ↔ 2 ≤ length ∧ length ≤ 251) :=
  ⟨occursBefore_unmarked_iff, occursBefore_marked_iff, occursLast_iff⟩

/-- A marked label of 67 characters and a last label of 64 are let through. -/
theorem long_labels_valid :
    let letters := fun count => String.ofList (List.replicate count 'a')
    let marked := "xn--" ++ letters 63 ++ ".io"
    let endless := "a." ++ letters 64
    (isValidName marked = true ∧ (labels marked).map List.length = [67, 2]) ∧
      isValidName endless = true ∧ (labels endless).map List.length = [1, 64] := by
  decide +kernel

end EdgeSetup.Dns
