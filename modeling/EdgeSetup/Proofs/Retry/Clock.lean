import EdgeSetup.Proofs.Binary64.Order
import EdgeSetup.Retry.Wait

/-!
# Delays on the clock

A delay is endless when no duration holds it (`IsEndless`). It is waited for as if it were thirty
years, which is less than many a delay that a duration does hold.

**The clock keeps the order of delays** (`waitMillis_mono`), but for that: a longer delay is waited
for at least as long, up to thirty years.
-/

namespace EdgeSetup

open Binary64

variable {x y : Binary64} {s : Bool} {units : Nat}

/-- No duration holds the delay. -/
def IsEndless (delay : Binary64) : Prop := nanoseconds? (delay / 1000) = none

instance (delay : Binary64) : Decidable (IsEndless delay) := inferInstanceAs (Decidable (_ = none))

theorem waitMillis_of_isEndless (h : IsEndless x) : waitMillis x = endlessWait := by
  rw [waitMillis, h]

/-! ## Durations -/

theorem nanoseconds?_finite (sign : s = true → units = 0) :
    nanoseconds? (.finite s units) =
      if roundHalfEven (units * nanosPerSecond) unitsPerOne < unreachableSeconds * nanosPerSecond
      then some (roundHalfEven (units * nanosPerSecond) unitsPerOne) else none := by
  have hbelow : lt (.finite s units) 0 = false := by
    rw [zero_eq, lt, signedUnits_eq sign]
    simp [signedUnits]
  simp only [nanoseconds?, hbelow, Bool.false_eq_true, if_false]

theorem nanoseconds?_infinite : nanoseconds? (.infinite false) = none := by decide +kernel

/-- A duration that is no longer lasts no more nanoseconds. -/
theorem nanoseconds?_mono (hx : IsAmount x) (hy : IsAmount y) (h : le x y = true) {m : Nat}
    (hm : nanoseconds? y = some m) : ∃ n, n ≤ m ∧ nanoseconds? x = some n := by
  cases hy with
  | infinite =>
    rw [nanoseconds?_infinite] at hm
    cases hm
  | finite sign rounded =>
    cases hx with
    | infinite => cases h
    | finite sign' rounded' =>
      rw [nanoseconds?_finite sign] at hm
      split at hm
      · next hreached =>
        have hround := roundHalfEven_mono (d := unitsPerOne)
          (Nat.mul_le_mul_right nanosPerSecond ((le_finite_iff sign' sign).1 h))
        rw [← Option.some.inj hm]
        refine ⟨_, hround, ?_⟩
        rw [nanoseconds?_finite sign', if_pos (hround.trans_lt hreached)]
      · cases hm

/-! ## Delays -/

theorem thousand_eq : (1000 : Binary64) = .finite false (1000 * unitsPerOne) := by decide +kernel

theorem thousand_pos : 0 < 1000 * unitsPerOne := Nat.mul_pos (by decide) unitsPerOne_pos

theorem isEndless_nan : IsEndless .nan := by decide +kernel

theorem nanoseconds?_div_mono (hx : IsAmount x) (hy : IsAmount y) (h : le x y = true) {m : Nat}
    (hm : nanoseconds? (y / 1000) = some m) : ∃ n, n ≤ m ∧ nanoseconds? (x / 1000) = some n := by
  rw [thousand_eq] at hm ⊢
  exact nanoseconds?_mono (hx.div thousand_pos) (hy.div thousand_pos)
    (hx.div_mono hy thousand_pos h) hm

theorem IsEndless.mono (hendless : IsEndless x) (hx : IsAmount x) (hy : IsAmount y)
    (h : le x y = true) : IsEndless y := by
  refine Option.eq_none_iff_forall_ne_some.2 fun m hm => ?_
  obtain ⟨n, -, hn⟩ := nanoseconds?_div_mono hx hy h hm
  cases hendless.symm.trans hn

/-- **A longer delay is waited for at least as long, up to thirty years.** -/
theorem waitMillis_mono (hx : IsAmount x) (hy : IsAmount y) (h : le x y = true) :
    min (waitMillis x) endlessWait ≤ waitMillis y := by
  cases hm : nanoseconds? (y / 1000) with
  | none =>
    rw [waitMillis_of_isEndless hm]
    exact Nat.min_le_right ..
  | some m =>
    obtain ⟨n, hle, hn⟩ := nanoseconds?_div_mono hx hy h hm
    refine (Nat.min_le_left ..).trans ?_
    rw [waitMillis, waitMillis, hn, hm]
    exact Nat.div_le_div_right (Nat.add_le_add_right hle _)

end EdgeSetup
