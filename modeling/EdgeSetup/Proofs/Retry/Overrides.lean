import EdgeSetup.Proofs.Retry.Backoff
import EdgeSetup.Proofs.Retry.Clock

/-!
# What a header can make a call wait

A Retry-After header is arbitrary text. What it asks for is never below zero, and always a number
(`RetryAfter.isAmount_overrideDelay?`).

**By the letter** it asks for a fraction or for nothing at all. Numbers from `2^52` on have no
fraction, so this is a finite delay, and some duration holds it.

**As seconds** it asks for a whole number of them, which is turned into milliseconds. Whether the
number is finite is looked at before that: of finite seconds the milliseconds may be infinite
(`isFinite_thousandfold_iff`), and from `2^63` seconds on no duration holds the delay
(`isEndless_thousandfold_iff`).

**Main theorem (`RetryAfter.overrideDelay?_bounded`)**: what this means for the wait after an
attempt, for every header, in both modes.
-/

namespace EdgeSetup

open Binary64 Http

namespace Binary64

/-- The first whole number that is rounded to infinity: half a step below `2^1024`. -/
def firstInfinite : Nat := (2 ^ 54 - 1) * Nat.pow 2 970

theorem firstInfinite_eq : 2 * (firstInfinite * unitsPerOne) = (2 ^ 54 - 1) * lastStep := by
  decide +kernel

end Binary64

variable {x y delay : Binary64} {k m : Nat}

/-! ## Seconds in milliseconds -/

theorem finite_mul_thousand (s : Bool) (k : Nat) :
    Binary64.finite s (k * unitsPerOne) * 1000 =
      ofUnitRatio s (1000 * k * unitsPerOne * unitsPerOne) unitsPerOne := by
  have hunits : k * unitsPerOne * (1000 * unitsPerOne) = 1000 * k * unitsPerOne * unitsPerOne := by
    ring
  rw [thousand_eq, finite_mul_finite, hunits]

/-- The milliseconds of too many seconds are infinite. -/
theorem isFinite_thousandfold_iff (h : IsWhole k x) :
    (x * 1000).isFinite = true ↔ 1000 * k < firstInfinite := by
  have hpos : 0 < 2 * unitsPerOne * unitsPerOne :=
    Nat.mul_pos (Nat.mul_pos (by decide) unitsPerOne_pos) unitsPerOne_pos
  have hunits : 2 * (1000 * k * unitsPerOne * unitsPerOne) =
      1000 * k * (2 * unitsPerOne * unitsPerOne) := by ring
  have hlimit : (2 ^ 54 - 1) * (unitsPerOne * lastStep) =
      firstInfinite * (2 * unitsPerOne * unitsPerOne) := by
    rw [Nat.mul_left_comm, ← firstInfinite_eq]
    ring
  cases h with
  | intro sign rounded =>
    rw [finite_mul_thousand, isFinite_ofUnitRatio_iff,
      roundUnits_lt_overflowUnits_iff unitsPerOne_pos, hunits, hlimit, Nat.mul_lt_mul_right hpos]

theorem isAmount_thousandfold (h : IsAmount x) : IsAmount (x * 1000) := by
  rw [thousand_eq]
  exact h.mul thousand_pos

theorem IsEndless.thousandfold_mono (hendless : IsEndless (x * 1000)) (hx : IsWhole k x)
    (hy : IsWhole m y) (h : k ≤ m) : IsEndless (y * 1000) := by
  refine hendless.mono (isAmount_thousandfold hx.isAmount) (isAmount_thousandfold hy.isAmount) ?_
  rw [thousand_eq]
  exact hx.isAmount.mul_mono hy.isAmount thousand_pos (hx.le hy h)

/-- **From `2^63` seconds on, and only then, no duration holds the delay.** The last number before
that is `2^63 - 1024`, since a number has 53 bits. -/
theorem isEndless_thousandfold_iff (h : IsWhole k x) : IsEndless (x * 1000) ↔ 2 ^ 63 ≤ k := by
  have hfirst : IsEndless (.finite false (2 ^ 53 * 2 ^ 10 * unitsPerOne) * 1000) := by
    decide +kernel
  have hlast : ¬ IsEndless (.finite false ((2 ^ 53 - 1) * 2 ^ 10 * unitsPerOne) * 1000) := by
    decide +kernel
  constructor
  · intro hendless
    by_contra hreached
    have hbelow : k ≤ (2 ^ 53 - 1) * 2 ^ 10 := by
      by_cases hlarge : 2 ^ (52 + 10) ≤ k
      · have := h.dvd hlarge
        omega
      · omega
    exact hlast (hendless.thousandfold_mono h (isWhole_mul_two_pow (by decide) 10) hbelow)
  · intro hreached
    exact hfirst.thousandfold_mono (isWhole_mul_two_pow (Nat.le_refl _) 10) h (by omega)

namespace RetryAfter

variable {mode : RetryAfter} {header : Option String} {text : String}

/-! ## What a header asks for -/

/-- The finite number in a header. -/
def number? (text : String) : Option Binary64 :=
  (parse? (Text.trimString text)).filter isFinite

/-- What the text of a header can ask for. -/
inductive Asks (text : String) : RetryAfter → Binary64 → Prop where
  | garbage (unread : number? text = none) : Asks text .literal 0
  | fraction {x : Binary64} (read : number? text = some x) (fractional : x.isIntegral = false) :
      Asks text .literal x.nonNegative
  | seconds {x : Binary64} {count : Nat} (read : number? text = some x) (whole : IsWhole count x) :
      Asks text .honor (x * 1000)

theorem isFinite_of_number? (h : number? text = some x) : x.isFinite = true :=
  (Option.filter_eq_some_iff.1 h).2

theorem hasRoundedUnits_of_number? (h : number? text = some x) : x.HasRoundedUnits :=
  hasRoundedUnits_parse? (Option.filter_eq_some_iff.1 h).1

theorem asks_of_overrideOfNumber? (h : mode.overrideOfNumber? (number? text) = some delay) :
    Asks text mode delay := by
  cases hread : number? text with
  | none =>
    rw [hread] at h
    cases mode with
    | literal =>
      rw [← Option.some.inj h]
      exact .garbage hread
    | honor => cases h
  | some x =>
    rw [hread] at h
    cases mode with
    | literal =>
      rw [overrideOfNumber?] at h
      split at h
      · cases h
      · next hfraction =>
        rw [← Option.some.inj h]
        exact .fraction hread (Bool.eq_false_iff.2 hfraction)
    | honor =>
      rw [overrideOfNumber?] at h
      split at h
      · next hseconds =>
        rw [Bool.and_eq_true] at hseconds
        obtain ⟨count, hcount⟩ :=
          exists_isWhole (hasRoundedUnits_of_number? hread) hseconds.1 hseconds.2
        rw [← Option.some.inj h]
        exact .seconds hread hcount
      · cases h

theorem asks_of_overrideDelay? (h : mode.overrideDelay? header = some delay) :
    ∃ text, header = some text ∧ Asks text mode delay := by
  cases header with
  | none => cases h
  | some text =>
    simp only [overrideDelay?, Option.bind_eq_bind, Option.bind_some] at h
    split at h
    · cases h
    · exact ⟨text, rfl, asks_of_overrideOfNumber? h⟩

theorem Asks.isAmount (h : Asks text mode delay) : IsAmount delay := by
  cases h with
  | garbage unread => exact isAmount_ofNat 0
  | fraction read fractional =>
    refine isAmount_nonNegative (fun hnan => ?_) (hasRoundedUnits_of_number? read)
    have hfinite := isFinite_of_number? read
    rw [hnan] at hfinite
    cases hfinite
  | seconds read whole => exact isAmount_thousandfold whole.isAmount

theorem isAmount_overrideDelay? (h : mode.overrideDelay? header = some delay) : IsAmount delay := by
  obtain ⟨text, -, hasks⟩ := asks_of_overrideDelay? h
  exact hasks.isAmount

/-! ## Bounds -/

/-- A fraction is a finite delay that some duration holds. -/
theorem fraction_bounded (hfinite : x.isFinite = true) (hrounded : x.HasRoundedUnits)
    (hfraction : x.isIntegral = false) :
    x.nonNegative.isFinite = true ∧ ¬ IsEndless x.nonNegative := by
  have hlimit : ¬ IsEndless (.finite false (2 ^ 52 * 2 ^ 0 * unitsPerOne)) := by decide +kernel
  cases x with
  | nan => cases hfinite
  | infinite negative => cases hfinite
  | finite negative units =>
    have hamount := isAmount_nonNegative (x := .finite negative units) nofun hrounded
    rw [nonNegative] at hamount ⊢
    split at hamount
    · next hbelow =>
      rw [if_pos hbelow]
      exact ⟨by decide +kernel, by decide +kernel⟩
    · next hbelow =>
      rw [if_neg hbelow]
      refine ⟨rfl, fun hendless => hlimit ?_⟩
      have hwhole := isWhole_mul_two_pow (c := 2 ^ 52) (by decide) 0
      refine hendless.mono hamount hwhole.isAmount ?_
      cases hamount with
      | finite sign rounded =>
        have hless := lt_of_isIntegral_eq_false rounded hfraction
        refine (le_finite_iff sign fun hpositive => ?_).2 ?_
        · cases hpositive
        · rw [Nat.pow_zero, Nat.mul_one]
          exact Nat.le_of_lt hless

/-- What a delay that a header asked for is like, and what it does to a call. -/
structure Bounded (mode : RetryAfter) (header : Option String) (delay : Binary64) : Prop where
  notBelow : le 0 delay = true
  /-- By the letter it is always finite, and some duration holds it. -/
  literal : mode = .literal → delay.isFinite = true ∧ ¬ IsEndless delay
  /-- As seconds it is finite as long as these are few enough, and some duration holds it as long
  as these are even fewer. -/
  honor : mode = .honor → ∃ text x seconds, header = some text ∧ number? text = some x ∧
    IsWhole seconds x ∧ delay = x * 1000 ∧
    (delay.isFinite = true ↔ 1000 * seconds < firstInfinite) ∧ (IsEndless delay ↔ 2 ^ 63 ≤ seconds)
  /-- Whatever it is, a call waits for it. -/
  waited : ∀ (policy : RetryPolicy) (method : Method) (answers : Nat → Answer)
    (start i time : Nat) (response : Response), policy.retryAfter = mode →
    (answers i).outcome = .ok response → response.status ∈ retryableStatuses →
    response.headers.getText? "retry-after" = header →
    (policy.play method answers start).attempts[i + 1]? = some time →
      ∃ before latency, (policy.play method answers start).attempts[i]? = some before ∧
        (answers i).latency = some latency ∧ time = before + latency + waitMillis delay
  endless : IsEndless delay → waitMillis delay = endlessWait

/-- **What a header asks for is never below zero.** By the letter it is finite and can be waited
for. As seconds it is infinite when these are too many, and a call then waits for thirty years. -/
theorem overrideDelay?_bounded (h : mode.overrideDelay? header = some delay) :
    Bounded mode header delay := by
  obtain ⟨text, hheader, hasks⟩ := asks_of_overrideDelay? h
  constructor
  case notBelow => exact hasks.isAmount.zero_le
  case literal =>
    rintro rfl
    cases hasks with
    | garbage unread => exact ⟨by decide +kernel, by decide +kernel⟩
    | fraction read fractional =>
      exact fraction_bounded (isFinite_of_number? read) (hasRoundedUnits_of_number? read) fractional
  case honor =>
    rintro rfl
    cases hasks with
    | @seconds x count read whole =>
      exact ⟨text, x, count, hheader, read, whole, rfl, isFinite_thousandfold_iff whole,
        isEndless_thousandfold_iff whole⟩
  case waited =>
    intro policy method answers start i time response hmode houtcome hlisted hresponse htime
    have hoverride : policy.override? (answers i).outcome = some delay := by
      rw [houtcome, RetryPolicy.override?, if_pos hlisted, hmode, hresponse, h]
    obtain ⟨before, latency, hbefore, hlatency, heq⟩ := RetryPolicy.play_next htime
    rw [RetryPolicy.waitAfter_of_override hoverride] at heq
    exact ⟨before, latency, hbefore, hlatency, heq⟩
  case endless => exact waitMillis_of_isEndless

/-- Three seconds are three thousand milliseconds, and a fraction is milliseconds itself. -/
theorem overrideDelay?_bounded_small :
    honor.overrideDelay? (some " 3 ") = some 3000 ∧
      Bounded honor (some " 3 ") 3000 ∧
      literal.overrideDelay? (some "3.5") = some (7 / 2) ∧
      Bounded literal (some "3.5") (7 / 2) := by
  have hseconds : honor.overrideDelay? (some " 3 ") = some 3000 := by decide +kernel
  have hfraction : literal.overrideDelay? (some "3.5") = some (7 / 2) := by decide +kernel
  exact ⟨hseconds, overrideDelay?_bounded hseconds, hfraction, overrideDelay?_bounded hfraction⟩

/-- The answers of a server that asks for another attempt once. -/
def askingOnce (header : String) : Nat → Answer
  | 0 => ⟨some 0, .ok ⟨503, [("retry-after", header)], ""⟩⟩
  | _ + 1 => ⟨some 0, .ok ⟨200, [], ""⟩⟩

/-- Two headers that make a call wait for thirty years. The second asks for a finite delay. -/
theorem overrideDelay?_endless :
    honor.overrideDelay? (some "1e306") = some (.infinite false) ∧
      (RetryPolicy.play { RetryPolicy.standard with retryAfter := honor } .get
        (askingOnce "1e306") 0).attempts = [0, endlessWait] ∧
      (RetryPolicy.play { RetryPolicy.standard with retryAfter := honor } .get
        (askingOnce "1e20") 0).attempts = [0, endlessWait] := by
  refine ⟨?_, ?_, ?_⟩ <;> decide +kernel

end RetryAfter

end EdgeSetup
