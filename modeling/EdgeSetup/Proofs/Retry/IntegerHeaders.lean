import EdgeSetup.Proofs.Retry.Overrides
import EdgeSetup.Proofs.Text.Pieces

/-!
# Headers that hold an integer

A mode that takes the header by the letter is to leave integers alone. It never looks at the text
of the header, only at the number that is read from it: an integer is what has no fraction.

**A whole number is read as a whole one, or as infinity** (`isIntegral_ofDecimal`,
`isFinite_ofDecimal_iff`). Rounding makes it a multiple of a power of two and leaves no fraction,
but from `firstInfinite` on nothing finite is left to round to, and what is not finite counts as
garbage.

**Main theorem (`RetryAfter.overrideDelay?_integer`)**: an integer is left alone exactly when it is
less than `firstInfinite`. Any other sets the delay to zero.
-/

namespace EdgeSetup

open Binary64 Http

namespace Binary64

variable {d n u : Nat} {negative : Bool} {digits text : List Char}

/-! ## Whole numbers are rounded to whole numbers -/

/-- What is rounded already stays. -/
theorem roundUnits_of_isRounded (hd : 0 < d) (hu : IsRounded u) : roundUnits (u * d) d = u :=
  Nat.le_antisymm (roundUnits_le hd hu (Nat.le_refl _)) (le_roundUnits hd hu (Nat.le_refl _))

theorem unitsPerOne_dvd_roundUnits (n : Nat) : unitsPerOne ∣ roundUnits (n * unitsPerOne) 1 := by
  obtain ⟨e, -, he⟩ := exists_unitsPerOne
  rw [he]
  rcases Nat.le_total n (2 ^ 53) with hfew | hmany
  · -- So few bits need no rounding.
    have hsame := roundUnits_of_isRounded Nat.one_pos (isRounded_mul_two_pow hfew e)
    rw [Nat.mul_one] at hsame
    rw [hsame]
    exact Nat.dvd_mul_left ..
  · -- The step of so large a magnitude is more than one.
    have hlarge : 2 ^ 53 * 2 ^ e ≤ roundUnits (n * 2 ^ e) 1 := by
      refine le_roundUnits Nat.one_pos (isRounded_mul_two_pow (Nat.le_refl _) e) ?_
      rw [Nat.mul_one]
      exact Nat.mul_le_mul_right _ hmany
    refine (isRounded_roundUnits Nat.one_pos _).dvd (Nat.le_trans ?_ hlarge)
    rw [Nat.pow_add]
    exact Nat.mul_le_mul_right _ (Nat.pow_le_pow_right (by omega) (by omega))

theorem isIntegral_ofRatio_one (h : (ofRatio negative n 1).isFinite = true) :
    (ofRatio negative n 1).isIntegral = true := by
  rw [ofRatio, isFinite_ofUnitRatio_iff] at h
  rw [ofRatio, ofUnitRatio, if_pos h, isIntegral, beq_iff_eq]
  exact Nat.mod_eq_zero_of_dvd (unitsPerOne_dvd_roundUnits n)

theorem isFinite_ofRatio_one_iff : (ofRatio negative n 1).isFinite = true ↔ n < firstInfinite := by
  have hlimit : (2 ^ 54 - 1) * (1 * lastStep) = 2 * (firstInfinite * unitsPerOne) := by
    rw [Nat.one_mul, firstInfinite_eq]
  rw [ofRatio, isFinite_ofUnitRatio_iff, roundUnits_lt_overflowUnits_iff Nat.one_pos, hlimit,
    Nat.mul_lt_mul_left Nat.two_pos, Nat.mul_lt_mul_right unitsPerOne_pos]

/-- The exponent is kept as a variable, so that no proof computes the power. -/
theorem exists_firstInfinite : ∃ e, e = 970 ∧ firstInfinite = (2 ^ 54 - 1) * 2 ^ e :=
  ⟨970, rfl, by decide +kernel⟩

theorem firstInfinite_le {e : Nat} (he : 1024 ≤ e) : firstInfinite ≤ 2 ^ e := by
  obtain ⟨last, hlast, heq⟩ := exists_firstInfinite
  calc firstInfinite = (2 ^ 54 - 1) * 2 ^ last := heq
    _ ≤ 2 ^ 54 * 2 ^ last := Nat.mul_le_mul_right _ (by omega)
    _ = 2 ^ (54 + last) := (Nat.pow_add ..).symm
    _ ≤ 2 ^ e := Nat.pow_le_pow_right Nat.two_pos (by omega)

theorem firstInfinite_pos : 0 < firstInfinite := by decide +kernel

theorem ofDecimal_whole (negative : Bool) (n : Nat) :
    ofDecimal negative n 0 =
      if n = 0 then finite negative 0
      else if 1024 ≤ n.log2 then infinite negative
      else ofRatio negative n 1 := by
  change ofDecimal negative n (.ofNat 0) = _
  rw [ofDecimal, Nat.mul_zero, Nat.add_zero]
  simp

/-- A whole number is read as a finite one exactly below the first that is not. -/
theorem isFinite_ofDecimal_iff :
    (ofDecimal negative n 0).isFinite = true ↔ n < firstInfinite := by
  rw [ofDecimal_whole]
  split
  · next hzero => exact iff_of_true rfl (hzero ▸ firstInfinite_pos)
  · next hzero =>
    split
    · next hlog =>
      have hlarge : firstInfinite ≤ n := (firstInfinite_le hlog).trans (Nat.log2_self_le hzero)
      exact iff_of_false nofun (Nat.not_lt.2 hlarge)
    · exact isFinite_ofRatio_one_iff

/-- A whole number is never read as one with a fraction. -/
theorem isIntegral_ofDecimal (h : (ofDecimal negative n 0).isFinite = true) :
    (ofDecimal negative n 0).isIntegral = true := by
  rw [ofDecimal_whole] at h ⊢
  split at h
  · next hzero =>
    rw [if_pos hzero, isIntegral, Nat.zero_mod]
    rfl
  · next hzero =>
    rw [if_neg hzero]
    split at h
    · cases h
    · next hlog =>
      rw [if_neg hlog]
      exact isIntegral_ofRatio_one h

/-! ## Integers in a text -/

/-- Decimal digits, at least one, after an optional sign. -/
structure IsInteger (digits text : List Char) : Prop where
  signed : text = digits ∨ text = '+' :: digits ∨ text = '-' :: digits
  nonempty : digits ≠ []
  decimal : ∀ c ∈ digits, c.isDigit = true

theorem toNat_of_isDigit {c : Char} (h : c.isDigit = true) : 48 ≤ c.toNat ∧ c.toNat ≤ 57 := by
  simpa [Char.isDigit, UInt32.le_iff_toNat_le] using h

/-- Digits are no upper case letters. -/
theorem toLower_of_isDigit {c : Char} (h : c.isDigit = true) : c.toLower = c := by
  have hupper : ¬ (c.val ≥ 'A'.val ∧ c.val ≤ 'Z'.val) := by
    rintro ⟨hupper, -⟩
    have hle : 65 ≤ c.toNat := UInt32.le_iff_toNat_le.1 hupper
    have hrange := toNat_of_isDigit h
    omega
  exact dif_neg hupper

/-- Digits are no blanks, so nothing is trimmed off them. -/
theorem trim_of_isDigit (h : ∀ c ∈ digits, c.isDigit = true) :
    Text.trim digits = digits := by
  have hblank : ∀ c ∈ digits, Text.isBlank c = false := by
    intro c hc
    have hrange := toNat_of_isDigit (h c hc)
    simp [Text.isBlank]
    omega
  cases digits with
  | nil => rfl
  | cons c rest =>
    have hrest : Text.trimEndWhile Text.isBlank (rest ++ []) = rest :=
      Text.trimEndWhile_append (by simp) fun d hd =>
        hblank d (List.mem_cons_of_mem _ (List.mem_of_getLast? hd))
    have htrim := Text.trim_append_cons (hblank c List.mem_cons_self) [] rest
    rw [List.append_nil] at hrest
    rwa [List.nil_append, hrest] at htrim

theorem isInteger_ofList (hsome : digits ≠ []) (h : ∀ c ∈ digits, c.isDigit = true) :
    IsInteger digits (Text.trimString (String.ofList digits)).toList := by
  refine ⟨.inl ?_, hsome, h⟩
  rw [Text.trimString, String.toList_ofList, String.toList_ofList, trim_of_isDigit h]

namespace IsInteger

variable (h : IsInteger digits text)
include h

theorem exists_cons : ∃ c rest, digits = c :: rest ∧ c.isDigit = true := by
  obtain ⟨c, rest, rfl⟩ := List.exists_cons_of_ne_nil h.nonempty
  exact ⟨c, rest, rfl, h.decimal c List.mem_cons_self⟩

theorem splitSign_eq : ∃ negative, splitSign text = (negative, digits) := by
  rcases h.signed with rfl | rfl | rfl
  · obtain ⟨c, rest, rfl, hc⟩ := h.exists_cons
    refine ⟨false, ?_⟩
    unfold splitSign
    split
    · next heq => cases heq; simp at hc
    · next heq => cases heq; simp at hc
    · rfl
  · exact ⟨false, rfl⟩
  · exact ⟨true, rfl⟩

/-- Digits spell no other number. -/
theorem lower_ne {name : String} (hname : name.toList.any Char.isDigit = false) :
    String.ofList (digits.map Char.toLower) ≠ name := by
  rintro rfl
  obtain ⟨c, rest, rfl, hc⟩ := h.exists_cons
  have hfirst := List.any_eq_false.1 hname c.toLower (by simp)
  rw [toLower_of_isDigit hc] at hfirst
  exact hfirst hc

theorem unsignedNumber?_eq (negative : Bool) :
    unsignedNumber? negative digits = some (ofDecimal negative (digitsValue digits) 0) := by
  have hwhole : digits.takeWhile Char.isDigit = digits := List.takeWhile_eq_self_iff.2 h.decimal
  have hafter : digits.dropWhile Char.isDigit = [] := List.dropWhile_eq_nil_iff.2 h.decimal
  simp [unsignedNumber?, hwhole, hafter, h.nonempty, exponent?]

theorem parse?_eq {header : String} (hheader : header.toList = text) :
    ∃ negative, parse? header = some (ofDecimal negative (digitsValue digits) 0) := by
  obtain ⟨negative, hsplit⟩ := h.splitSign_eq
  refine ⟨negative, ?_⟩
  rw [← h.unsignedNumber?_eq negative, parse?, hheader, hsplit]
  dsimp only
  split
  · next heq => exact absurd heq (h.lower_ne (by decide))
  · next heq => exact absurd heq (h.lower_ne (by decide))
  · next heq => exact absurd heq (h.lower_ne (by decide))
  · rfl

end IsInteger

end Binary64

/-! ## The computed backoff -/

namespace RetryPolicy

variable {policy : RetryPolicy} {outcomes : Nat → Outcome}

/-- The running delay when the outcome of a number comes, before that can override it. -/
def computedDelay (policy : RetryPolicy) (outcomes : Nat → Outcome) : Nat → Binary64
  | 0 => policy.initialDelay
  | i + 1 => policy.nextDelay (policy.waitAfter outcomes i)

theorem waitAfter_eq_getD (i : Nat) :
    policy.waitAfter outcomes i =
      (policy.override? (outcomes i)).getD (policy.computedDelay outcomes i) := by
  cases i <;> rfl

end RetryPolicy

namespace RetryAfter

variable {header : String} {digits : List Char}

/-! ## Integers in a header -/

/-- The number in a header is the integer, if this is read as a finite one. -/
theorem number?_integer (h : IsInteger digits (Text.trimString header).toList) :
    ∃ negative, number? header =
      if digitsValue digits < firstInfinite then some (ofDecimal negative (digitsValue digits) 0)
      else none := by
  obtain ⟨negative, hparse⟩ := h.parse?_eq rfl
  refine ⟨negative, ?_⟩
  rw [number?, hparse]
  split
  · next hfinite => exact Option.filter_some_pos (isFinite_ofDecimal_iff.2 hfinite)
  · next hinfinite =>
    exact Option.filter_some_neg (Bool.eq_false_iff.2 (mt isFinite_ofDecimal_iff.1 hinfinite))

theorem overrideDelay?_eq (mode : RetryAfter) (h : Text.trimString header ≠ "") :
    mode.overrideDelay? (some header) = mode.overrideOfNumber? (number? header) := by
  rw [overrideDelay?, Option.bind_eq_bind, Option.bind_some]
  exact if_neg (by simpa using h)

/-- By the letter, an integer asks for nothing, unless it is read as no finite number. -/
theorem literal_integer (h : IsInteger digits (Text.trimString header).toList) :
    literal.overrideDelay? (some header) =
      if digitsValue digits < firstInfinite then none else some 0 := by
  obtain ⟨c, rest, hdigits, -⟩ := h.exists_cons
  have hsome : Text.trimString header ≠ "" := by
    intro hempty
    rcases h.signed with htext | htext | htext <;> rw [hempty, hdigits] at htext <;> cases htext
  obtain ⟨negative, hnumber⟩ := number?_integer h
  rw [overrideDelay?_eq literal hsome, hnumber]
  split
  · next hfinite =>
    rw [overrideOfNumber?, if_pos (isIntegral_ofDecimal (isFinite_ofDecimal_iff.2 hfinite))]
  · rfl

/-- A read that is asked for another attempt once, and then answered. -/
theorem play_askingOnce {header : String} {delay : Binary64} (hreadable : isReadableValue header)
    (hasks : literal.overrideDelay? (some header) = some delay) :
    (RetryPolicy.standard.play .get (askingOnce header) 0).attempts = [0, waitMillis delay] := by
  have hheader : Headers.getText? [("retry-after", header)] "retry-after" = some header := by
    have hfirst : Headers.get? [("retry-after", header)] "retry-after" = some header := rfl
    rw [Headers.getText?, hfirst, Option.filter_some_pos hreadable]
  have hlisted : 503 ∈ retryableStatuses := by decide
  have hanswered : ¬ Passing (.ok ⟨200, [], ""⟩) := by decide
  have hoverride : RetryPolicy.standard.override? (askingOnce header 0).outcome = some delay := by
    rw [askingOnce, RetryPolicy.override?, if_pos hlisted, hheader]
    exact hasks
  have hcomes : ∀ i, (askingOnce header i).latency = some 0 := by
    intro i
    cases i <;> rfl
  have hretries : RetryPolicy.standard.namedRetries .get = 3 + 1 := rfl
  rw [RetryPolicy.play_eq, hretries,
    RetryPolicy.playFrom_of_passing (hcomes 0) (.status hlisted)
      (by rw [hoverride, Option.getD_some])
      (RetryPolicy.playFrom_of_last (hcomes 1) (.inr hanswered))]
  simp

/-- **By the letter, an integer in a header is ignored exactly below `firstInfinite`.** A call then
waits its computed backoff, and otherwise not at all. -/
theorem overrideDelay?_integer (h : IsInteger digits (Text.trimString header).toList) :
    (literal.overrideDelay? (some header) =
      if digitsValue digits < firstInfinite then none else some 0) ∧
      ∀ (policy : RetryPolicy) (method : Method) (answers : Nat → Answer) (start i time : Nat)
        (response : Response), policy.retryAfter = literal →
        (answers i).outcome = .ok response → response.status ∈ retryableStatuses →
        response.headers.getText? "retry-after" = some header →
        (policy.play method answers start).attempts[i + 1]? = some time →
          ∃ before latency, (policy.play method answers start).attempts[i]? = some before ∧
            (answers i).latency = some latency ∧
            time = before + latency + waitMillis
              (if digitsValue digits < firstInfinite then
                policy.computedDelay (fun j => (answers j).outcome) i
              else 0) := by
  refine ⟨literal_integer h, ?_⟩
  intro policy method answers start i time response hmode houtcome hlisted hresponse htime
  obtain ⟨before, latency, hbefore, hlatency, heq⟩ := RetryPolicy.play_next htime
  refine ⟨before, latency, hbefore, hlatency, ?_⟩
  have hoverride : policy.override? (answers i).outcome =
      if digitsValue digits < firstInfinite then none else some 0 := by
    rw [houtcome, RetryPolicy.override?, if_pos hlisted, hmode, hresponse, literal_integer h]
  rw [heq, RetryPolicy.waitAfter_eq_getD, hoverride]
  split <;> rfl

/-- The second attempt comes after the first delay of the policy, and not after thirty seconds. -/
theorem overrideDelay?_integer_thirty :
    IsInteger ['3', '0'] (Text.trimString " +30 ").toList ∧
      literal.overrideDelay? (some " +30 ") = none ∧
      ∃ before latency,
        (RetryPolicy.standard.play .get (askingOnce " +30 ") 0).attempts[0]? = some before ∧
          (askingOnce " +30 " 0).latency = some latency ∧
          1000 = before + latency + waitMillis RetryPolicy.standard.initialDelay := by
  have hinteger : IsInteger ['3', '0'] (Text.trimString " +30 ").toList :=
    ⟨by decide +kernel, by decide, List.all_eq_true.1 (by decide)⟩
  have hfinite : digitsValue ['3', '0'] < firstInfinite := by decide +kernel
  obtain ⟨hignored, hcalls⟩ := overrideDelay?_integer hinteger
  rw [if_pos hfinite] at hignored
  obtain ⟨before, latency, hbefore, hlatency, htime⟩ :=
    hcalls .standard .get (askingOnce " +30 ") 0 0 1000 ⟨503, [("retry-after", " +30 ")], ""⟩ rfl
      rfl (by decide) (by decide +kernel) (by decide +kernel)
  rw [if_pos hfinite] at htime
  exact ⟨hinteger, hignored, before, latency, hbefore, hlatency, htime⟩

/-- The digits of `10^309`. -/
def longDigits : List Char := '1' :: List.replicate 309 '0'

/-- An integer that is not ignored: the second attempt comes at once, and not after the first delay
of the policy. -/
theorem overrideDelay?_longDigits :
    IsInteger longDigits (Text.trimString (String.ofList longDigits)).toList ∧
      literal.overrideDelay? (some (String.ofList longDigits)) = some 0 ∧
      (RetryPolicy.standard.play .get (askingOnce (String.ofList longDigits)) 0).attempts = [0, 0] ∧
      waitMillis RetryPolicy.standard.initialDelay = 1000 := by
  have hsome : longDigits ≠ [] := List.cons_ne_nil _ _
  have hdecimal : ∀ c ∈ longDigits, c.isDigit = true := List.all_eq_true.1 (by decide +kernel)
  have hinteger := isInteger_ofList hsome hdecimal
  have hlong : ¬ digitsValue longDigits < firstInfinite := by decide +kernel
  have hasks : literal.overrideDelay? (some (String.ofList longDigits)) = some 0 := by
    rw [literal_integer hinteger, if_neg hlong]
  have hreadable : isReadableValue (String.ofList longDigits) = true := by
    rw [isReadableValue, String.toList_ofList]
    decide +kernel
  have hnone : waitMillis 0 = 0 := by decide +kernel
  have hattempts := play_askingOnce hreadable hasks
  rw [hnone] at hattempts
  exact ⟨hinteger, hasks, hattempts, by decide +kernel⟩

end RetryAfter

end EdgeSetup
