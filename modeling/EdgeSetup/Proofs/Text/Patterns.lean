import EdgeSetup.Text.Pattern

/-!
# What patterns match

The texts of a pattern, by the ways to build them (`Pattern.Matches`), and the step from a pattern
to what remains of it after a character (`Pattern.matches_after`).

**Matching is sound and complete** (`Pattern.matches?_iff`): a text is accepted exactly when it is
one of the texts of the pattern.
-/

namespace EdgeSetup.Text.Pattern

/-- The text is one of the texts of the pattern. -/
inductive Matches : Pattern → List Char → Prop where
  | empty : Matches .empty []
  | one {p : Char → Bool} {c : Char} (h : p c = true) : Matches (.one p) [c]
  | seq {first second : Pattern} {start rest : List Char} (hfirst : Matches first start)
      (hsecond : Matches second rest) : Matches (.seq first second) (start ++ rest)
  | left {left right : Pattern} {text : List Char} (h : Matches left text) :
      Matches (.either left right) text
  | right {left right : Pattern} {text : List Char} (h : Matches right text) :
      Matches (.either left right) text
  | manyNil {body : Pattern} : Matches (.many body) []
  | manyCons {body : Pattern} {start rest : List Char} (hbody : Matches body start)
      (hmore : Matches (.many body) rest) : Matches (.many body) (start ++ rest)
  | upToNil {count : Nat} {body : Pattern} : Matches (.upTo count body) []
  | upToCons {count : Nat} {body : Pattern} {start rest : List Char} (hbody : Matches body start)
      (hmore : Matches (.upTo count body) rest) : Matches (.upTo (count + 1) body) (start ++ rest)

variable {first second left right body : Pattern} {p : Char → Bool} {c : Char} {count : Nat}
  {text rest : List Char}

/-! ## The texts of each kind of pattern -/

theorem not_matches_never : ¬ Matches .never text := nofun

theorem matches_empty : Matches .empty text ↔ text = [] := by
  constructor
  · rintro ⟨⟩
    rfl
  · rintro rfl
    exact .empty

theorem matches_one : Matches (.one p) text ↔ ∃ c, text = [c] ∧ p c = true := by
  constructor
  · rintro (_ | h)
    exact ⟨_, rfl, h⟩
  · rintro ⟨c, rfl, h⟩
    exact .one h

theorem matches_seq :
    Matches (.seq first second) text ↔
      ∃ start rest, text = start ++ rest ∧ Matches first start ∧ Matches second rest := by
  constructor
  · rintro (_ | _ | ⟨hfirst, hsecond⟩)
    exact ⟨_, _, rfl, hfirst, hsecond⟩
  · rintro ⟨start, rest, rfl, hfirst, hsecond⟩
    exact .seq hfirst hsecond

theorem matches_either :
    Matches (.either left right) text ↔ Matches left text ∨ Matches right text := by
  constructor
  · rintro (_ | _ | _ | h | h)
    · exact .inl h
    · exact .inr h
  · rintro (h | h)
    · exact .left h
    · exact .right h

/-- A longer repetition allows what a shorter one does. -/
theorem Matches.upTo_succ (h : Matches (.upTo count body) text) :
    Matches (.upTo (count + 1) body) text := by
  generalize hpattern : Pattern.upTo count body = pattern at h
  induction h generalizing count with
  | upToNil => exact .upToNil
  | upToCons hbody _ _ ih =>
    cases hpattern
    exact .upToCons hbody (ih rfl)
  | _ => cases hpattern

/-- A repetition that goes on with a character begins with a repeat that takes it. -/
theorem matches_many_cons :
    Matches (.many body) (c :: text) ↔
      ∃ start rest, text = start ++ rest ∧ Matches body (c :: start) ∧
        Matches (.many body) rest := by
  constructor
  · intro h
    generalize hpattern : Pattern.many body = pattern, htext : c :: text = whole at h
    induction h with
    | manyNil => cases htext
    | @manyCons _ start rest hbody hmore _ ih =>
      cases hpattern
      cases start with
      | nil => exact ih rfl htext
      | cons d start =>
        cases htext
        exact ⟨start, rest, rfl, hbody, hmore⟩
    | _ => cases hpattern
  · rintro ⟨start, rest, rfl, hbody, hmore⟩
    exact .manyCons hbody hmore

theorem matches_upTo_cons :
    Matches (.upTo (count + 1) body) (c :: text) ↔
      ∃ start rest, text = start ++ rest ∧ Matches body (c :: start) ∧
        Matches (.upTo count body) rest := by
  constructor
  · intro h
    generalize hpattern : Pattern.upTo (count + 1) body = pattern, htext : c :: text = whole at h
    induction h generalizing count with
    | upToNil => cases htext
    | @upToCons left _ start rest hbody hmore _ ih =>
      cases hpattern
      cases start with
      | nil =>
        -- An empty repeat is left out, and the others are fewer than allowed.
        cases left with
        | zero =>
          cases hmore
          cases htext
        | succ left =>
          obtain ⟨start, rest, rfl, hstart, hrest⟩ := ih rfl htext
          exact ⟨start, rest, rfl, hstart, hrest.upTo_succ⟩
      | cons d start =>
        cases htext
        exact ⟨start, rest, rfl, hbody, hmore⟩
    | _ => cases hpattern
  · rintro ⟨start, rest, rfl, hbody, hmore⟩
    exact .upToCons hbody hmore

theorem not_matches_upTo_zero_cons : ¬ Matches (.upTo 0 body) (c :: text) := nofun

/-- A repetition is a row of repeats. -/
theorem matches_many :
    Matches (.many body) text ↔
      ∃ parts : List (List Char), text = parts.flatten ∧ ∀ part ∈ parts, Matches body part := by
  constructor
  · intro h
    generalize hpattern : Pattern.many body = pattern at h
    induction h with
    | manyNil => exact ⟨[], rfl, nofun⟩
    | @manyCons _ start rest hbody hmore _ ih =>
      cases hpattern
      obtain ⟨parts, rfl, hparts⟩ := ih rfl
      exact ⟨start :: parts, List.flatten_cons.symm, List.forall_mem_cons.2 ⟨hbody, hparts⟩⟩
    | _ => cases hpattern
  · rintro ⟨parts, rfl, hparts⟩
    induction parts with
    | nil => exact .manyNil
    | cons part parts ih =>
      obtain ⟨hpart, hrest⟩ := List.forall_mem_cons.1 hparts
      exact .manyCons hpart (ih hrest)

theorem matches_optional : Matches (optional body) text ↔ Matches body text ∨ text = [] := by
  rw [optional, matches_either, matches_empty]

theorem matches_literal {literalText : List Char} :
    Matches (literal literalText) text ↔ text = literalText := by
  induction literalText generalizing text with
  | nil => exact matches_empty
  | cons c more ih =>
    rw [literal, matches_seq]
    constructor
    · rintro ⟨start, rest, rfl, hstart, hrest⟩
      obtain ⟨d, rfl, hd⟩ := matches_one.1 hstart
      rw [ih.1 hrest, beq_iff_eq.1 hd, List.singleton_append]
    · rintro rfl
      exact ⟨[c], more, rfl, .one (beq_self_eq_true c), ih.2 rfl⟩

/-- Repeats of one character each take their characters from the class. -/
theorem matches_many_one : Matches (.many (.one p)) text ↔ ∀ c ∈ text, p c = true := by
  induction text with
  | nil => exact ⟨fun _ => nofun, fun _ => .manyNil⟩
  | cons c text ih =>
    rw [List.forall_mem_cons, ← ih]
    constructor
    · intro h
      obtain ⟨start, rest, rfl, hstart, hrest⟩ := matches_many_cons.1 h
      obtain ⟨d, heq, hd⟩ := matches_one.1 hstart
      cases heq
      exact ⟨hd, hrest⟩
    · rintro ⟨hc, htext⟩
      exact .manyCons (.one hc) htext

theorem matches_upTo_one :
    Matches (.upTo count (.one p)) text ↔ text.length ≤ count ∧ ∀ c ∈ text, p c = true := by
  induction text generalizing count with
  | nil => exact ⟨fun _ => ⟨Nat.zero_le _, nofun⟩, fun _ => .upToNil⟩
  | cons c text ih =>
    cases count with
    | zero => exact ⟨fun h => absurd h not_matches_upTo_zero_cons, nofun⟩
    | succ count =>
      rw [List.length_cons, Nat.add_le_add_iff_right, List.forall_mem_cons, and_left_comm, ← ih]
      constructor
      · intro h
        obtain ⟨start, rest, rfl, hstart, hrest⟩ := matches_upTo_cons.1 h
        obtain ⟨d, heq, hd⟩ := matches_one.1 hstart
        cases heq
        exact ⟨hd, hrest⟩
      · rintro ⟨hc, htext⟩
        exact .upToCons (.one hc) htext

/-! ## Characters -/

/-- Whether the pattern has no place for a character. -/
def avoids (c : Char) : Pattern → Bool
  | never | empty => true
  | one p => !p c
  | seq first second => first.avoids c && second.avoids c
  | either left right => left.avoids c && right.avoids c
  | many body | upTo _ body => body.avoids c

theorem Matches.not_mem {pattern : Pattern} (h : Matches pattern text)
    (havoids : pattern.avoids c = true) : c ∉ text := by
  induction h with
  | empty | manyNil | upToNil => exact List.not_mem_nil
  | one hp =>
    intro hc
    rw [avoids, List.mem_singleton.1 hc, hp] at havoids
    cases havoids
  | seq _ _ hfirst hsecond =>
    obtain ⟨hleft, hright⟩ := Bool.and_eq_true_iff.1 havoids
    exact fun hc => (List.mem_append.1 hc).elim (hfirst hleft) (hsecond hright)
  | left _ ih => exact ih (Bool.and_eq_true_iff.1 havoids).1
  | right _ ih => exact ih (Bool.and_eq_true_iff.1 havoids).2
  | manyCons _ _ hbody hmore | upToCons _ _ hbody hmore =>
    exact fun hc => (List.mem_append.1 hc).elim (hbody havoids) (hmore havoids)

/-! ## Derivatives -/

theorem acceptsEmpty_iff {pattern : Pattern} :
    pattern.acceptsEmpty = true ↔ Matches pattern [] := by
  induction pattern with
  | never => simp [acceptsEmpty, not_matches_never]
  | empty => simp [acceptsEmpty, matches_empty]
  | one p => simp [acceptsEmpty, matches_one]
  | seq first second hfirst hsecond =>
    simp [acceptsEmpty, matches_seq, hfirst, hsecond, and_assoc]
  | either left right hleft hright => simp [acceptsEmpty, matches_either, hleft, hright]
  | many body _ => simp [acceptsEmpty, Matches.manyNil]
  | upTo count body _ => simp [acceptsEmpty, Matches.upToNil]

theorem matches_andThen :
    Matches (andThen first second) text ↔ Matches (.seq first second) text := by
  unfold andThen
  split
  · simp [matches_seq, not_matches_never]
  · simp [matches_seq, not_matches_never]
  · rw [matches_seq]
    constructor
    · exact fun h => ⟨[], text, rfl, .empty, h⟩
    · rintro ⟨start, rest, rfl, hstart, hrest⟩
      rw [matches_empty.1 hstart]
      exact hrest
  · exact Iff.rfl

theorem matches_orElse : Matches (orElse left right) text ↔ Matches (.either left right) text := by
  unfold orElse
  split
  · simp [matches_either, not_matches_never]
  · simp [matches_either, not_matches_never]
  · exact Iff.rfl

/-- A sequence that takes a character takes it in its first part, or in its second part after
nothing. -/
theorem matches_seq_cons :
    Matches (.seq first second) (c :: text) ↔
      (∃ start rest, text = start ++ rest ∧ Matches first (c :: start) ∧ Matches second rest) ∨
        (Matches first [] ∧ Matches second (c :: text)) := by
  rw [matches_seq]
  constructor
  · rintro ⟨_ | ⟨d, start⟩, rest, htext, hfirst, hsecond⟩
    · cases htext
      exact .inr ⟨hfirst, hsecond⟩
    · cases htext
      exact .inl ⟨start, rest, rfl, hfirst, hsecond⟩
  · rintro (⟨start, rest, rfl, hfirst, hsecond⟩ | ⟨hfirst, hsecond⟩)
    · exact ⟨c :: start, rest, rfl, hfirst, hsecond⟩
    · exact ⟨[], c :: text, rfl, hfirst, hsecond⟩

/-- What remains of a pattern after a character matches the rest of what the pattern matches. -/
theorem matches_after {pattern : Pattern} :
    Matches (pattern.after c) text ↔ Matches pattern (c :: text) := by
  induction pattern generalizing text with
  | never => simp [after, not_matches_never]
  | empty => simp [after, not_matches_never, matches_empty]
  | one p =>
    rw [matches_one]
    by_cases h : p c = true
    · rw [after, if_pos h, matches_empty]
      constructor
      · rintro rfl
        exact ⟨c, rfl, h⟩
      · rintro ⟨_, ⟨⟩, -⟩
        rfl
    · rw [after, if_neg h]
      refine ⟨nofun, ?_⟩
      rintro ⟨_, ⟨⟩, hc⟩
      exact absurd hc h
  | seq first second hfirst hsecond =>
    rw [matches_seq_cons, ← acceptsEmpty_iff]
    by_cases h : first.acceptsEmpty = true <;>
      simp [after, h, matches_orElse, matches_either, matches_andThen, matches_seq, hfirst, hsecond]
  | either left right hleft hright =>
    simp [after, matches_orElse, matches_either, hleft, hright]
  | many body hbody => simp [after, matches_many_cons, matches_andThen, matches_seq, hbody]
  | upTo count body hbody =>
    cases count with
    | zero => simp [after, not_matches_never, not_matches_upTo_zero_cons]
    | succ count => simp [after, matches_upTo_cons, matches_andThen, matches_seq, hbody]

/-- **Matching decides the texts of a pattern.** -/
theorem matches?_iff {pattern : Pattern} : pattern.matches? text = true ↔ Matches pattern text := by
  induction text generalizing pattern with
  | nil => exact acceptsEmpty_iff
  | cons c text ih => exact ih.trans matches_after

end EdgeSetup.Text.Pattern
