import EdgeSetup.Proofs.Binary64.Rounding

/-!
# Amounts

An amount is a number that is not below zero, rounded as every result of arithmetic is
(`IsAmount`). Amounts are ordered by their units, with infinity above all. Every number that is read
from a text is rounded (`hasRoundedUnits_parse?`), so it is an amount when it is not below zero.

Products and quotients by a positive number keep the order (`IsAmount.mul_mono`,
`IsAmount.div_mono`). **A factor of at least one makes no amount smaller** (`IsAmount.le_mul`): the
exact product is no smaller, and rounding does not move it past the amount.
-/

namespace EdgeSetup.Binary64

/-- The number is not below zero, and it is rounded. -/
inductive IsAmount : Binary64 → Prop where
  | finite {negative : Bool} {units : Nat} (sign : negative = true → units = 0)
      (rounded : IsRounded units) : IsAmount (.finite negative units)
  | infinite : IsAmount (.infinite false)

/-- What is finite of the number is rounded. -/
def HasRoundedUnits (x : Binary64) : Prop :=
  ∀ negative units, x = .finite negative units → IsRounded units

variable {s t : Bool} {a b c d k m n u : Nat} {x y : Binary64}

/-! ## Numerals -/

theorem zero_eq : (0 : Binary64) = .finite false 0 := by decide +kernel

theorem one_eq : (1 : Binary64) = .finite false unitsPerOne := by decide +kernel

theorem unitsPerOne_pos : 0 < unitsPerOne := by decide +kernel

/-- The exponent is kept as a variable, so that no proof computes the power. -/
theorem exists_unitsPerOne : ∃ e, e = 1074 ∧ unitsPerOne = 2 ^ e := ⟨1074, rfl, by decide +kernel⟩

/-! ## The order -/

theorem signedUnits_eq (h : s = true → a = 0) : signedUnits s a = a := by
  cases s with
  | false => rfl
  | true => rw [h rfl]; rfl

theorem le_finite_iff (ha : s = true → a = 0) (hb : t = true → b = 0) :
    le (.finite s a) (.finite t b) = true ↔ a ≤ b := by
  rw [le, lt, signedUnits_eq ha, signedUnits_eq hb]
  · simp
  · exact nofun
  · exact nofun

theorem IsAmount.le_infinite (h : IsAmount x) : le x (.infinite false) = true := by
  cases h <;> rfl

theorem IsAmount.zero_le (h : IsAmount x) : le 0 x = true := by
  rw [zero_eq]
  cases h with
  | finite sign rounded => exact (le_finite_iff (fun _ => rfl) sign).2 (Nat.zero_le _)
  | infinite => rfl

theorem le_nan (x : Binary64) : le x .nan = false := by cases x <;> rfl

theorem le_of_isZero (hzero : x.isZero = true) (h : IsAmount y) : le x y = true := by
  cases x with
  | nan => cases hzero
  | infinite negative => cases hzero
  | finite negative units =>
    have hunits : units = 0 := by simpa [isZero] using hzero
    subst hunits
    cases h with
    | finite sign rounded => exact (le_finite_iff (fun _ => rfl) sign).2 (Nat.zero_le _)
    | infinite => rfl

/-- A number that is not below zero is an amount, if it is rounded. -/
theorem isAmount_of_zero_le (hrounded : x.HasRoundedUnits) (h : le 0 x = true) : IsAmount x := by
  rw [zero_eq] at h
  cases x with
  | nan => cases h
  | infinite negative =>
    cases negative with
    | false => exact .infinite
    | true => cases h
  | finite negative units =>
    refine .finite (fun hnegative => ?_) (hrounded negative units rfl)
    subst hnegative
    simp [le, lt, signedUnits] at h
    omega

/-- With zero in place of what is below it, every number is an amount. -/
theorem isAmount_nonNegative (hnumber : x ≠ .nan) (hrounded : x.HasRoundedUnits) :
    IsAmount x.nonNegative := by
  rw [nonNegative]
  split
  · exact zero_eq ▸ .finite (fun _ => rfl) (Nat.dvd_zero _)
  · next hbelow =>
    refine isAmount_of_zero_le hrounded ?_
    rw [zero_eq] at hbelow ⊢
    cases x <;> simp_all [le]

/-- Not below one is at least one, or not a number. -/
theorem lt_one_eq_false_iff : lt x 1 = false ↔ x = .nan ∨ le 1 x = true := by
  rw [one_eq]
  cases x <;> simp [lt, le]

/-- The numbers that are at least a positive one. -/
theorem finite_le_iff (ha : 0 < a) :
    le (.finite false a) x = true ↔ x = .infinite false ∨ ∃ b, a ≤ b ∧ x = .finite false b := by
  cases x with
  | nan => simp [le]
  | infinite negative => cases negative <;> simp [le, lt]
  | finite negative units =>
    cases negative with
    | false => simp [le, lt, signedUnits]
    | true =>
      simp [le, lt, signedUnits]
      omega

theorem one_le_iff :
    le 1 x = true ↔ x = .infinite false ∨ ∃ b, unitsPerOne ≤ b ∧ x = .finite false b := by
  rw [one_eq]
  exact finite_le_iff unitsPerOne_pos

/-! ## Ratios -/

/-- A ratio is rounded, or overflows. Of the two zeros it may be either one. -/
theorem ofUnitRatio_cases (hd : 0 < d) (hs : s = true → n = 0) :
    (roundUnits n d < overflowUnits ∧ (s = true → roundUnits n d = 0) ∧
        ofUnitRatio s n d = .finite s (roundUnits n d)) ∨
      overflowUnits ≤ roundUnits n d ∧ ofUnitRatio s n d = .infinite false := by
  have hzero : s = true → roundUnits n d = 0 := fun hnegative => by
    rw [hs hnegative, roundUnits_zero hd]
  unfold ofUnitRatio
  dsimp only
  split
  · next hfits => exact .inl ⟨hfits, hzero, rfl⟩
  · next hoverflow =>
    refine .inr ⟨Nat.le_of_not_lt hoverflow, ?_⟩
    cases s with
    | false => rfl
    | true =>
      refine absurd ?_ hoverflow
      rw [hzero rfl]
      exact overflowUnits_pos

theorem isAmount_ofUnitRatio (hd : 0 < d) (hs : s = true → n = 0) :
    IsAmount (ofUnitRatio s n d) := by
  rcases ofUnitRatio_cases hd hs with ⟨-, hzero, heq⟩ | ⟨-, heq⟩
  · rw [heq]
    exact .finite hzero (isRounded_roundUnits hd n)
  · rw [heq]
    exact .infinite

theorem isAmount_ofNat (n : Nat) : IsAmount (ofNat n) := by
  rw [ofNat, ofRatio]
  exact isAmount_ofUnitRatio Nat.one_pos nofun

theorem isFinite_ofUnitRatio_iff :
    (ofUnitRatio s n d).isFinite = true ↔ roundUnits n d < overflowUnits := by
  unfold ofUnitRatio
  dsimp only
  split
  · next hfits => exact iff_of_true rfl hfits
  · next hoverflow => exact iff_of_false nofun hoverflow

theorem le_ofUnitRatio (hd : 0 < d) (hu : IsRounded u) (hs : s = true → u = 0)
    (ht : t = true → n = 0) (h : u * d ≤ n) : le (.finite s u) (ofUnitRatio t n d) = true := by
  rcases ofUnitRatio_cases hd ht with ⟨-, hzero, heq⟩ | ⟨-, heq⟩
  · rw [heq]
    exact (le_finite_iff hs hzero).2 (le_roundUnits hd hu h)
  · rw [heq]
    rfl

theorem ofUnitRatio_mono (hd : 0 < d) (hs : s = true → n = 0) (ht : t = true → m = 0)
    (h : n ≤ m) : le (ofUnitRatio s n d) (ofUnitRatio t m d) = true := by
  have hround : roundUnits n d ≤ roundUnits m d := roundUnits_mono hd h
  rcases ofUnitRatio_cases hd ht with ⟨hfits, hzero, heq⟩ | ⟨-, heq⟩
  · rcases ofUnitRatio_cases hd hs with ⟨-, hzero', heq'⟩ | ⟨hoverflow, -⟩
    · rw [heq, heq']
      exact (le_finite_iff hzero' hzero).2 hround
    · omega
  · rw [heq]
    exact (isAmount_ofUnitRatio hd hs).le_infinite

/-! ## Whole numbers -/

/-- The number is so many ones. -/
inductive IsWhole (k : Nat) : Binary64 → Prop where
  | intro {negative : Bool} (sign : negative = true → k = 0)
      (rounded : IsRounded (k * unitsPerOne)) : IsWhole k (.finite negative (k * unitsPerOne))

/-- Numbers of at most 53 bits, with any number of zeros after these. -/
theorem isWhole_mul_two_pow (hc : c ≤ 2 ^ 53) (j : Nat) :
    IsWhole (c * 2 ^ j) (.finite false (c * 2 ^ j * unitsPerOne)) := by
  obtain ⟨e, -, he⟩ := exists_unitsPerOne
  refine .intro nofun ?_
  rw [he, Nat.mul_assoc, ← Nat.pow_add]
  exact isRounded_mul_two_pow hc _

theorem exists_isWhole (hrounded : x.HasRoundedUnits) (hwhole : x.isIntegral = true)
    (h : le 0 x = true) : ∃ k, IsWhole k x := by
  cases isAmount_of_zero_le hrounded h with
  | infinite => cases hwhole
  | @finite negative units sign rounded =>
    rw [isIntegral, beq_iff_eq] at hwhole
    obtain ⟨k, hk⟩ := Nat.dvd_of_mod_eq_zero hwhole
    rw [Nat.mul_comm] at hk
    rw [hk] at sign rounded ⊢
    refine ⟨k, .intro (fun hnegative => ?_) rounded⟩
    exact (Nat.mul_eq_zero.1 (sign hnegative)).resolve_right (Nat.ne_of_gt unitsPerOne_pos)

/-- The larger a whole number, the more twos divide it. -/
theorem IsWhole.dvd {e : Nat} (h : IsWhole k x) (hk : 2 ^ (52 + e) ≤ k) : 2 ^ e ∣ k := by
  obtain ⟨one, -, hone⟩ := exists_unitsPerOne
  cases h with
  | intro sign rounded =>
    rw [hone] at rounded
    have hdvd : 2 ^ (e + one) ∣ k * 2 ^ one := by
      refine rounded.dvd ?_
      rw [← Nat.add_assoc, Nat.pow_add]
      exact Nat.mul_le_mul_right _ hk
    rw [Nat.pow_add] at hdvd
    exact Nat.dvd_of_mul_dvd_mul_right (Nat.two_pow_pos one) hdvd

/-- What has a fraction is less than `2^52`. -/
theorem lt_of_isIntegral_eq_false (hrounded : IsRounded u)
    (h : (Binary64.finite s u).isIntegral = false) : u < 2 ^ 52 * unitsPerOne := by
  obtain ⟨e, -, he⟩ := exists_unitsPerOne
  refine Nat.lt_of_not_le fun hle => ?_
  rw [he, ← Nat.pow_add] at hle
  rw [isIntegral, he, Nat.mod_eq_zero_of_dvd (hrounded.dvd hle)] at h
  cases h

namespace IsWhole

variable {k m : Nat}

theorem isAmount (h : IsWhole k x) : IsAmount x := by
  cases h with
  | intro sign rounded => exact .finite (fun hs => by rw [sign hs, Nat.zero_mul]) rounded

theorem le (hx : IsWhole k x) (hy : IsWhole m y) (h : k ≤ m) : Binary64.le x y = true := by
  cases hx with
  | intro sign rounded =>
    cases hy with
    | intro sign' rounded' =>
      exact (le_finite_iff (fun hs => by rw [sign hs, Nat.zero_mul])
        fun hs => by rw [sign' hs, Nat.zero_mul]).2 (Nat.mul_le_mul_right _ h)

end IsWhole

/-! ## Products and quotients -/

theorem finite_mul_finite (s : Bool) (a b : Nat) :
    Binary64.finite s a * .finite false b = ofUnitRatio s (a * b) unitsPerOne := by
  change mul _ _ = _
  rw [mul, Bool.bne_false]

theorem mul_nan (x : Binary64) : x * .nan = .nan := by cases x <;> rfl

theorem infinite_mul_finite (hb : 0 < b) :
    Binary64.infinite false * .finite false b = .infinite false := if_neg (Nat.ne_of_gt hb)

theorem finite_div_finite (hb : 0 < b) (s : Bool) (a : Nat) :
    Binary64.finite s a / .finite false b = ofUnitRatio s (a * unitsPerOne) b := by
  change div _ _ = _
  rw [div, if_neg (Nat.ne_of_gt hb), ofRatio, Bool.bne_false]

namespace IsAmount

theorem mul (h : IsAmount x) (hb : 0 < b) : IsAmount (x * .finite false b) := by
  cases h with
  | finite sign rounded =>
    rw [finite_mul_finite]
    exact isAmount_ofUnitRatio unitsPerOne_pos fun hs => by rw [sign hs, Nat.zero_mul]
  | infinite =>
    rw [infinite_mul_finite hb]
    exact .infinite

/-- **A factor of at least one makes no amount smaller.** -/
theorem le_mul (h : IsAmount x) (hb : unitsPerOne ≤ b) : le x (x * .finite false b) = true := by
  cases h with
  | finite sign rounded =>
    rw [finite_mul_finite]
    exact le_ofUnitRatio unitsPerOne_pos rounded sign (fun hs => by rw [sign hs, Nat.zero_mul])
      (Nat.mul_le_mul_left _ hb)
  | infinite =>
    rw [infinite_mul_finite (unitsPerOne_pos.trans_le hb)]
    rfl

theorem mul_infinite (h : IsAmount x) (hzero : x.isZero = false) :
    x * .infinite false = .infinite false := by
  cases h with
  | @finite negative units sign rounded =>
    have hunits : units ≠ 0 := by simpa [isZero] using hzero
    cases negative with
    | false => exact if_neg hunits
    | true => exact absurd (sign rfl) hunits
  | infinite => rfl

theorem mul_mono (hx : IsAmount x) (hy : IsAmount y) (hb : 0 < b) (h : le x y = true) :
    le (x * .finite false b) (y * .finite false b) = true := by
  cases hy with
  | infinite =>
    rw [infinite_mul_finite hb]
    exact (hx.mul hb).le_infinite
  | finite sign rounded =>
    cases hx with
    | infinite => cases h
    | finite sign' rounded' =>
      rw [finite_mul_finite, finite_mul_finite]
      exact ofUnitRatio_mono unitsPerOne_pos (fun hs => by rw [sign' hs, Nat.zero_mul])
        (fun hs => by rw [sign hs, Nat.zero_mul])
        (Nat.mul_le_mul_right _ ((le_finite_iff sign' sign).1 h))

theorem div (h : IsAmount x) (hb : 0 < b) : IsAmount (x / .finite false b) := by
  cases h with
  | finite sign rounded =>
    rw [finite_div_finite hb]
    exact isAmount_ofUnitRatio hb fun hs => by rw [sign hs, Nat.zero_mul]
  | infinite => exact .infinite

theorem div_mono (hx : IsAmount x) (hy : IsAmount y) (hb : 0 < b) (h : le x y = true) :
    le (x / .finite false b) (y / .finite false b) = true := by
  cases hy with
  | infinite => exact (hx.div hb).le_infinite
  | finite sign rounded =>
    cases hx with
    | infinite => cases h
    | finite sign' rounded' =>
      rw [finite_div_finite hb, finite_div_finite hb]
      exact ofUnitRatio_mono hb (fun hs => by rw [sign' hs, Nat.zero_mul])
        (fun hs => by rw [sign hs, Nat.zero_mul])
        (Nat.mul_le_mul_right _ ((le_finite_iff sign' sign).1 h))

end IsAmount

/-! ## Reading -/

theorem hasRoundedUnits_ofUnitRatio (hd : 0 < d) (s : Bool) (n : Nat) :
    (ofUnitRatio s n d).HasRoundedUnits := by
  intro negative units heq
  unfold ofUnitRatio at heq
  dsimp only at heq
  split at heq
  · cases heq
    exact isRounded_roundUnits hd n
  · cases heq

theorem hasRoundedUnits_ofRatio (hd : 0 < d) (s : Bool) (n : Nat) :
    (ofRatio s n d).HasRoundedUnits := hasRoundedUnits_ofUnitRatio hd s _

theorem hasRoundedUnits_ofDecimal (negative : Bool) (significand : Nat) (exponent : Int) :
    (ofDecimal negative significand exponent).HasRoundedUnits := by
  have hzero : (finite negative 0).HasRoundedUnits := by
    intro negative units heq
    cases heq
    exact Nat.dvd_zero _
  unfold ofDecimal
  split
  · split
    · exact hzero
    · split
      · exact nofun
      · exact hasRoundedUnits_ofRatio Nat.one_pos negative _
  · split
    · exact hzero
    · exact hasRoundedUnits_ofRatio (Nat.pow_pos (by omega)) negative significand

theorem hasRoundedUnits_unsignedNumber? {negative : Bool} {text : List Char}
    (h : unsignedNumber? negative text = some x) : x.HasRoundedUnits := by
  have hdecimal : ∀ {power : Option Int} {significand places : Nat},
      (power.bind fun power => some (ofDecimal negative significand (power - places))) = some x →
        x.HasRoundedUnits := by
    intro power significand places hbind
    obtain ⟨power, -, hx⟩ := Option.bind_eq_some_iff.1 hbind
    rw [← Option.some.inj hx]
    exact hasRoundedUnits_ofDecimal negative significand _
  unfold unsignedNumber? at h
  dsimp only at h
  split at h <;> split at h
  · cases h
  · exact hdecimal h
  · cases h
  · exact hdecimal h

/-- **A number that is read from a text is rounded.** -/
theorem hasRoundedUnits_parse? {text : String} (h : parse? text = some x) :
    x.HasRoundedUnits := by
  unfold parse? at h
  dsimp only at h
  split at h
  · cases h
    exact nofun
  · cases h
    exact nofun
  · cases h
    exact nofun
  · exact hasRoundedUnits_unsignedNumber? h

end EdgeSetup.Binary64
