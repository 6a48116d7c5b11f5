import EdgeSetup.Binary64.Decimal
import EdgeSetup.Binary64.Shortest
import Mathlib.Algebra.Order.Ring.Nat
import Mathlib.Tactic.Ring

/-!
# Rounding to 53 bits

A magnitude is rounded when it is a multiple of the step at its size (`IsRounded`). These are the
magnitudes that rounding gives (`isRounded_roundUnits`), and it moves no ratio past any of them
(`le_roundUnits`, `roundUnits_le`).

**Rounding keeps the order** (`roundUnits_mono`). Between two ratios of one binade the step is the
same; otherwise a power of two lies between them, and no ratio is moved past that.

The ratios that do not overflow are those that lie more than half a step below `2^1024`
(`roundUnits_lt_overflowUnits_iff`).
-/

namespace EdgeSetup.Binary64

variable {n m d c u : Nat}

/-! ## Whole numbers -/

theorem roundHalfEven_cases (n d : Nat) :
    (2 * (n % d) < d ∧ roundHalfEven n d = n / d) ∨
      (d < 2 * (n % d) ∧ roundHalfEven n d = n / d + 1) ∨
      (2 * (n % d) = d ∧ roundHalfEven n d = n / d + n / d % 2) := by
  unfold roundHalfEven
  dsimp only
  split
  · next hbelow => exact .inl ⟨hbelow, rfl⟩
  · split
    · next habove => exact .inr (.inl ⟨habove, rfl⟩)
    · exact .inr (.inr ⟨by omega, rfl⟩)

theorem le_roundHalfEven (hd : 0 < d) (h : c * d ≤ n) : c ≤ roundHalfEven n d := by
  have hquotient : c ≤ n / d := (Nat.le_div_iff_mul_le hd).2 h
  rcases roundHalfEven_cases n d with ⟨-, heq⟩ | ⟨-, heq⟩ | ⟨-, heq⟩ <;> omega

theorem roundHalfEven_le (hd : 0 < d) (h : n ≤ c * d) : roundHalfEven n d ≤ c := by
  have hsum : d * (n / d) + n % d = n := Nat.div_add_mod n d
  have hquotient : n / d ≤ c := Nat.div_le_of_le_mul (Nat.mul_comm c d ▸ h)
  -- When something is left over, the quotient has not reached the bound yet.
  have hless : 0 < n % d → n / d < c := by
    intro hrest
    refine Nat.lt_of_le_of_ne hquotient fun heq => ?_
    rw [heq, Nat.mul_comm d c] at hsum
    omega
  rcases roundHalfEven_cases n d with ⟨-, heq⟩ | ⟨habove, heq⟩ | ⟨htie, heq⟩ <;> omega

theorem roundHalfEven_mono (h : n ≤ m) : roundHalfEven n d ≤ roundHalfEven m d := by
  have hsum : d * (n / d) + n % d = n := Nat.div_add_mod n d
  have hsum' : d * (m / d) + m % d = m := Nat.div_add_mod m d
  rcases Nat.lt_or_eq_of_le (Nat.div_le_div_right (c := d) h) with hless | hsame
  · rcases roundHalfEven_cases n d with ⟨-, heq⟩ | ⟨-, heq⟩ | ⟨-, heq⟩ <;>
      rcases roundHalfEven_cases m d with ⟨-, heq'⟩ | ⟨-, heq'⟩ | ⟨-, heq'⟩ <;> omega
  · rw [← hsame] at hsum'
    rcases roundHalfEven_cases n d with ⟨hn, heq⟩ | ⟨hn, heq⟩ | ⟨hn, heq⟩ <;>
      rcases roundHalfEven_cases m d with ⟨hm, heq'⟩ | ⟨hm, heq'⟩ | ⟨hm, heq'⟩ <;>
      rw [← hsame] at heq' <;> omega

/-- An even number is reached from half a step below it on. -/
theorem roundHalfEven_lt_iff (hd : 0 < d) (heven : c % 2 = 0) (hc : 0 < c) :
    roundHalfEven n d < c ↔ 2 * n < (2 * c - 1) * d := by
  have hsum : d * (n / d) + n % d = n := Nat.div_add_mod n d
  have hrest := Nat.mod_lt n hd
  have hbound : (2 * c - 1) * d + d = 2 * (d * c) := by
    rw [← Nat.succ_mul, Nat.succ_eq_add_one, Nat.sub_add_cancel (by omega), Nat.mul_assoc,
      Nat.mul_comm c d]
  rcases Nat.lt_trichotomy (n / d + 1) c with hless | hnext | hgreater
  · have hstep : d * (n / d + 1 + 1) ≤ d * c := Nat.mul_le_mul_left d hless
    rw [Nat.mul_add, Nat.mul_add, Nat.mul_one] at hstep
    rcases roundHalfEven_cases n d with ⟨-, heq⟩ | ⟨-, heq⟩ | ⟨-, heq⟩ <;>
      exact iff_of_true (by omega) (by omega)
  · have hstep : d * (n / d) + d = d * c := by rw [← hnext, Nat.mul_add, Nat.mul_one]
    rcases roundHalfEven_cases n d with ⟨hn, heq⟩ | ⟨hn, heq⟩ | ⟨hn, heq⟩ <;>
      constructor <;> omega
  · have hstep : d * c ≤ d * (n / d) := Nat.mul_le_mul_left d (by omega)
    rcases roundHalfEven_cases n d with ⟨-, heq⟩ | ⟨-, heq⟩ | ⟨-, heq⟩ <;>
      exact iff_of_false (by omega) (by omega)

/-! ## Steps -/

/-- The magnitude has at most 53 significant bits. -/
def IsRounded (units : Nat) : Prop := stepAbove units ∣ units

theorem stepAbove_eq (units : Nat) : stepAbove units = 2 ^ (units.log2 - 52) := rfl

theorem stepAbove_pos (units : Nat) : 0 < stepAbove units := by
  rw [stepAbove_eq]
  exact Nat.two_pow_pos _

theorem log2_mono (h : n ≤ m) : n.log2 ≤ m.log2 := by
  by_cases hn : n = 0
  · rw [hn, Nat.log2_zero]
    exact Nat.zero_le _
  · exact (Nat.le_log2 (by omega)).2 ((Nat.log2_self_le hn).trans h)

theorem stepAbove_dvd (h : n.log2 ≤ m.log2) : stepAbove n ∣ stepAbove m := by
  rw [stepAbove_eq, stepAbove_eq]
  exact Nat.pow_dvd_pow 2 (by omega)

theorem isRounded_mul_two_pow (hc : c ≤ 2 ^ 53) (e : Nat) : IsRounded (c * 2 ^ e) := by
  rw [IsRounded, stepAbove_eq]
  rcases Nat.lt_or_eq_of_le hc with hless | rfl
  · by_cases hzero : c * 2 ^ e = 0
    · rw [hzero]
      exact Nat.dvd_zero _
    · have hlog : (c * 2 ^ e).log2 < 53 + e := by
        rw [Nat.log2_lt hzero, Nat.pow_add]
        exact Nat.mul_lt_mul_of_pos_right hless (Nat.two_pow_pos e)
      exact (Nat.pow_dvd_pow 2 (by omega)).trans (Nat.dvd_mul_left ..)
  · rw [← Nat.pow_add, Nat.log2_two_pow]
    exact Nat.pow_dvd_pow 2 (by omega)

/-- The larger a rounded magnitude, the more twos divide it. -/
theorem IsRounded.dvd {e : Nat} (h : IsRounded u) (hu : 2 ^ (52 + e) ≤ u) : 2 ^ e ∣ u := by
  have hzero : u ≠ 0 := fun hzero => by
    have := Nat.two_pow_pos (52 + e)
    omega
  have hlog : 52 + e ≤ u.log2 := (Nat.le_log2 hzero).2 hu
  exact (Nat.pow_dvd_pow 2 (by omega)).trans h

/-! ## Ratios -/

theorem roundUnits_eq (n d : Nat) :
    roundUnits n d = roundHalfEven n (d * stepAbove (n / d)) * stepAbove (n / d) := rfl

theorem step_pos (hd : 0 < d) (n : Nat) : 0 < d * stepAbove (n / d) :=
  Nat.mul_pos hd (stepAbove_pos _)

/-- A ratio is less than `2^53` of its steps. -/
theorem le_two_pow_mul_step (hd : 0 < d) (n : Nat) : n ≤ 2 ^ 53 * (d * stepAbove (n / d)) := by
  have hquotient : n / d < 2 ^ 53 * stepAbove (n / d) := by
    refine Nat.lt_log2_self.trans_le ?_
    rw [stepAbove_eq, ← Nat.pow_add]
    exact Nat.pow_le_pow_right (by omega) (by omega)
  rw [Nat.mul_left_comm, Nat.mul_comm]
  exact Nat.le_of_lt ((Nat.div_lt_iff_lt_mul hd).1 hquotient)

theorem isRounded_roundUnits (hd : 0 < d) (n : Nat) : IsRounded (roundUnits n d) := by
  rw [roundUnits_eq, stepAbove_eq]
  exact isRounded_mul_two_pow (roundHalfEven_le (step_pos hd n) (le_two_pow_mul_step hd n)) _

theorem le_roundUnits_of_dvd (hd : 0 < d) (hstep : stepAbove (n / d) ∣ u) (h : u * d ≤ n) :
    u ≤ roundUnits n d := by
  obtain ⟨c, rfl⟩ := hstep
  have hround : c ≤ roundHalfEven n (d * stepAbove (n / d)) := by
    refine le_roundHalfEven (step_pos hd n) (le_of_eq_of_le ?_ h)
    ring
  rw [roundUnits_eq, Nat.mul_comm]
  exact Nat.mul_le_mul_right _ hround

/-- No ratio is moved down past a rounded magnitude. -/
theorem le_roundUnits (hd : 0 < d) (hu : IsRounded u) (h : u * d ≤ n) : u ≤ roundUnits n d := by
  have hfloor : u ≤ n / d := (Nat.le_div_iff_mul_le hd).2 h
  by_cases hlog : u.log2 = (n / d).log2
  · refine le_roundUnits_of_dvd hd ?_ h
    have hu' := hu
    rwa [IsRounded, stepAbove_eq, hlog, ← stepAbove_eq] at hu'
  · -- The next power of two lies between them.
    have hless : u.log2 + 1 ≤ (n / d).log2 := Nat.lt_of_le_of_ne (log2_mono hfloor) hlog
    have hzero : n / d ≠ 0 := fun hzero => by
      rw [hzero, Nat.log2_zero] at hless
      omega
    have hpower : u ≤ 2 ^ (n / d).log2 :=
      (Nat.le_of_lt Nat.lt_log2_self).trans (Nat.pow_le_pow_right (by omega) hless)
    refine hpower.trans (le_roundUnits_of_dvd hd ?_ ?_)
    · exact Nat.pow_dvd_pow 2 (by omega)
    · exact (Nat.le_div_iff_mul_le hd).1 (Nat.log2_self_le hzero)

/-- No ratio is moved up past a rounded magnitude. -/
theorem roundUnits_le (hd : 0 < d) (hu : IsRounded u) (h : n ≤ u * d) : roundUnits n d ≤ u := by
  have hfloor : n / d ≤ u := Nat.div_le_of_le_mul (Nat.mul_comm u d ▸ h)
  obtain ⟨c, hc⟩ := (stepAbove_dvd (log2_mono hfloor)).trans hu
  have hround : roundHalfEven n (d * stepAbove (n / d)) ≤ c := by
    refine roundHalfEven_le (step_pos hd n) (h.trans_eq ?_)
    rw [hc]
    ring
  calc roundUnits n d = stepAbove (n / d) * roundHalfEven n (d * stepAbove (n / d)) := by
        rw [roundUnits_eq, Nat.mul_comm]
    _ ≤ stepAbove (n / d) * c := Nat.mul_le_mul_left _ hround
    _ = u := hc.symm

/-- **The larger of two ratios is not rounded to the smaller magnitude.** -/
theorem roundUnits_mono (hd : 0 < d) (h : n ≤ m) : roundUnits n d ≤ roundUnits m d := by
  have hfloor : n / d ≤ m / d := Nat.div_le_div_right h
  by_cases hlog : (n / d).log2 = (m / d).log2
  · have hstep : stepAbove (n / d) = stepAbove (m / d) := by rw [stepAbove_eq, hlog, stepAbove_eq]
    rw [roundUnits_eq, roundUnits_eq, hstep]
    exact Nat.mul_le_mul_right _ (roundHalfEven_mono h)
  · have hless : (n / d).log2 + 1 ≤ (m / d).log2 := Nat.lt_of_le_of_ne (log2_mono hfloor) hlog
    have hzero : m / d ≠ 0 := fun hzero => by
      rw [hzero, Nat.log2_zero] at hless
      omega
    have hpower : IsRounded (2 ^ (m / d).log2) := by
      rw [← Nat.one_mul (2 ^ _)]
      exact isRounded_mul_two_pow (by omega) _
    have hbelow : n ≤ 2 ^ (m / d).log2 * d := by
      refine Nat.le_of_lt ((Nat.div_lt_iff_lt_mul hd).1 (Nat.lt_log2_self.trans_le ?_))
      exact Nat.pow_le_pow_right (by omega) hless
    exact (roundUnits_le hd hpower hbelow).trans
      (le_roundUnits hd hpower ((Nat.le_div_iff_mul_le hd).1 (Nat.log2_self_le hzero)))

theorem roundUnits_zero (hd : 0 < d) : roundUnits 0 d = 0 :=
  Nat.le_zero.1 (roundUnits_le hd (Nat.dvd_zero _) (by omega))

/-- The step below `2^1024`, in units. -/
def lastStep : Nat := Nat.pow 2 2045

theorem overflowUnits_pos : 0 < overflowUnits := by decide +kernel

theorem overflowUnits_eq : overflowUnits = 2 ^ 53 * lastStep := by decide +kernel

/-- The exponent is kept as a variable, so that no proof computes the power. -/
theorem exists_lastStep : ∃ e, e = 2045 ∧ lastStep = 2 ^ e := ⟨2045, rfl, by decide +kernel⟩

/-- What does not overflow is more than half a step below the limit. -/
theorem roundUnits_lt_overflowUnits_iff (hd : 0 < d) :
    roundUnits n d < overflowUnits ↔ 2 * n < (2 ^ 54 - 1) * (d * lastStep) := by
  obtain ⟨e, he, hlast⟩ := exists_lastStep
  have hpos : 0 < 2 ^ e := Nat.two_pow_pos e
  have hstep : 0 < d * 2 ^ e := Nat.mul_pos hd hpos
  rw [overflowUnits_eq, hlast]
  rcases Nat.lt_trichotomy (n / d).log2 (52 + e) with hless | hbinade | hgreater
  · have hbelow : n < 2 ^ 52 * 2 ^ e * d := by
      rw [← Nat.pow_add, ← Nat.div_lt_iff_lt_mul hd]
      exact Nat.lt_log2_self.trans_le (Nat.pow_le_pow_right (by omega) hless)
    have hround : roundUnits n d ≤ 2 ^ 52 * 2 ^ e :=
      roundUnits_le hd (isRounded_mul_two_pow (by omega) e) (Nat.le_of_lt hbelow)
    rw [Nat.mul_assoc, Nat.mul_comm (2 ^ e)] at hbelow
    exact iff_of_true (by omega) (by omega)
  · have hsame : stepAbove (n / d) = 2 ^ e := by
      rw [stepAbove_eq, hbinade, Nat.add_sub_cancel_left]
    rw [roundUnits_eq, hsame, Nat.mul_lt_mul_right hpos]
    exact roundHalfEven_lt_iff hstep (by decide) (by decide)
  · have hzero : n / d ≠ 0 := fun hzero => by
      rw [hzero, Nat.log2_zero] at hgreater
      omega
    have habove : 2 ^ 53 * 2 ^ e * d ≤ n := by
      rw [← Nat.pow_add, ← Nat.le_div_iff_mul_le hd]
      exact (Nat.pow_le_pow_right (by omega) (by omega)).trans (Nat.log2_self_le hzero)
    have hround : 2 ^ 53 * 2 ^ e ≤ roundUnits n d :=
      le_roundUnits hd (isRounded_mul_two_pow (by omega) e) habove
    rw [Nat.mul_assoc, Nat.mul_comm (2 ^ e)] at habove
    exact iff_of_false (by omega) (by omega)

end EdgeSetup.Binary64
