import EdgeSetup.Proofs.Retry.Overrides
import EdgeSetup.Settings.Validation

/-!
# Waits that grow

With a multiplier of at least one, no wait is shorter than the one before, unless an answer asks
for another (`NeverShrinks`): waits are amounts, and a factor of at least one makes none smaller. On
the clock this holds up to thirty years, to which a delay is cut that no duration holds.

With a multiplier that is not a number, what follows a wait is not a number, either
(`waitAfter_of_nan`), and the clock takes thirty years for it.

**Validation lets both pass** (`Settings.validate_withMultiplier_iff`). It refuses what is below
one, and that which is not a number is not below anything.

**Main theorem (`Settings.backoff_of_valid`)**: with valid settings the waits never shrink exactly
when the multiplier is a number.
-/

namespace EdgeSetup

open Binary64 Http

namespace RetryPolicy

variable {policy : RetryPolicy} {outcomes : Nat → Outcome} {delay : Binary64}

/-- No wait is shorter than the one before, unless an answer asks for another. -/
def NeverShrinks (policy : RetryPolicy) : Prop :=
  ∀ (outcomes : Nat → Outcome) (i : Nat), policy.override? (outcomes (i + 1)) = none →
    le (policy.waitAfter outcomes i) (policy.waitAfter outcomes (i + 1)) = true

/-! ## Multipliers of at least one -/

theorem nextDelay_grows (hmultiplier : le 1 policy.backoffMultiplier = true) (h : IsAmount delay) :
    IsAmount (policy.nextDelay delay) ∧ le delay (policy.nextDelay delay) = true := by
  rw [nextDelay]
  split
  · next hzero => exact ⟨isAmount_ofNat 100, le_of_isZero hzero (isAmount_ofNat 100)⟩
  · next hzero =>
    rcases one_le_iff.1 hmultiplier with heq | ⟨b, hb, heq⟩
    · rw [heq, h.mul_infinite (Bool.eq_false_iff.2 hzero)]
      exact ⟨.infinite, h.le_infinite⟩
    · rw [heq]
      exact ⟨h.mul (unitsPerOne_pos.trans_le hb), h.le_mul hb⟩

theorem isAmount_override? {outcome : Outcome} (h : policy.override? outcome = some delay) :
    IsAmount delay := by
  cases outcome with
  | error failure => cases h
  | ok response =>
    rw [override?] at h
    split at h
    · exact RetryAfter.isAmount_overrideDelay? h
    · cases h

/-- Whether an outcome overrides it or not, what is waited is an amount. -/
theorem isAmount_getD_override? (h : IsAmount delay) (outcome : Outcome) :
    IsAmount ((policy.override? outcome).getD delay) := by
  cases hoverride : policy.override? outcome with
  | none => exact h
  | some value => exact isAmount_override? hoverride

theorem isAmount_waitAfter (hmultiplier : le 1 policy.backoffMultiplier = true)
    (outcomes : Nat → Outcome) (i : Nat) : IsAmount (policy.waitAfter outcomes i) := by
  rw [waitAfter]
  induction i with
  | zero => exact isAmount_getD_override? (isAmount_ofNat _) _
  | succ i ih => exact isAmount_getD_override? (nextDelay_grows hmultiplier ih).1 _

theorem waitAfter_succ {i : Nat} (hnone : policy.override? (outcomes (i + 1)) = none) :
    policy.waitAfter outcomes (i + 1) = policy.nextDelay (policy.waitAfter outcomes i) := by
  rw [waitAfter, waitFrom, hnone, Option.getD_none]

theorem neverShrinks_of_one_le (hmultiplier : le 1 policy.backoffMultiplier = true) :
    policy.NeverShrinks := by
  intro outcomes i hnone
  rw [waitAfter_succ hnone]
  exact (nextDelay_grows hmultiplier (isAmount_waitAfter hmultiplier outcomes i)).2

/-! ## Multipliers that are not numbers -/

theorem waitAfter_of_nan (hmultiplier : policy.backoffMultiplier = .nan) {i : Nat}
    (hnone : policy.override? (outcomes (i + 1)) = none)
    (hzero : (policy.waitAfter outcomes i).isZero = false) :
    policy.waitAfter outcomes (i + 1) = .nan := by
  rw [waitAfter_succ hnone, nextDelay, hzero, hmultiplier, mul_nan]
  rfl

theorem not_neverShrinks_of_nan (hmultiplier : policy.backoffMultiplier = .nan) :
    ¬ policy.NeverShrinks := by
  intro h
  -- A network that always fails overrides nothing.
  let outcomes : Nat → Outcome := fun _ => .error ⟨.timeout, ""⟩
  cases hfirst : (policy.waitAfter outcomes 0).isZero with
  | false =>
    have hgrows := h outcomes 0 rfl
    rw [waitAfter_of_nan hmultiplier rfl hfirst, le_nan] at hgrows
    cases hgrows
  | true =>
    have hsecond : policy.waitAfter outcomes 1 = 100 := waitFrom_after_zero hfirst rfl
    have hpositive : (policy.waitAfter outcomes 1).isZero = false := by
      rw [hsecond]
      decide +kernel
    have hgrows := h outcomes 1 rfl
    rw [waitAfter_of_nan hmultiplier rfl hpositive, le_nan] at hgrows
    cases hgrows

/-! ## The clock -/

/-- How long a call pauses after the attempt of a number, from its answer to the next attempt. -/
def Pauses (policy : RetryPolicy) (method : Method) (answers : Nat → Answer)
    (start i pause : Nat) : Prop :=
  ∃ before latency, (policy.play method answers start).attempts[i]? = some before ∧
    (answers i).latency = some latency ∧
    (policy.play method answers start).attempts[i + 1]? = some (before + latency + pause)

variable {method : Method} {answers : Nat → Answer} {start i pause pause' : Nat}

theorem Pauses.eq (h : policy.Pauses method answers start i pause) :
    pause = waitMillis (policy.waitAfter (fun j => (answers j).outcome) i) := by
  obtain ⟨before, latency, hbefore, hlatency, htime⟩ := h
  obtain ⟨before', latency', hbefore', hlatency', heq⟩ := play_next htime
  rw [hbefore] at hbefore'
  rw [hlatency] at hlatency'
  cases hbefore'
  cases hlatency'
  omega

/-- A call pauses at least as long as before, up to thirty years. -/
theorem Pauses.le (hmultiplier : le 1 policy.backoffMultiplier = true)
    (h : policy.Pauses method answers start i pause)
    (h' : policy.Pauses method answers start (i + 1) pause')
    (hnone : policy.override? (answers (i + 1)).outcome = none) :
    min pause endlessWait ≤ pause' := by
  rw [h.eq, h'.eq]
  exact waitMillis_mono (isAmount_waitAfter hmultiplier ..) (isAmount_waitAfter hmultiplier ..)
    (neverShrinks_of_one_le hmultiplier _ i hnone)

end RetryPolicy

namespace Settings

variable {settings : Settings}

/-! ## Validation -/

/-- The settings with another multiplier. -/
def withMultiplier (settings : Settings) (multiplier : Binary64) : Settings :=
  { settings with retry := { settings.retry with backoffMultiplier := multiplier } }

theorem validate_eq_ok_iff : settings.validate = .ok () ↔ settings.fault? = none := by
  rw [validate]
  cases settings.fault? with
  | none => exact iff_of_true rfl rfl
  | some fault => exact iff_of_false nofun nofun

theorem ite_some_eq_none_iff {α : Type} {p : Prop} [Decidable p] {a : α} {rest : Option α} :
    (if p then some a else rest) = none ↔ ¬ p ∧ rest = none := by
  split <;> simp [*]

/-- All checks, of which the one of the multiplier is the fourth. -/
theorem fault?_eq_none_iff :
    settings.fault? = none ↔
      settings.listenAddress? ≠ none ∧ isHttpUrl settings.cluster.apiUrl ∧
        settings.cluster.requestTimeoutSeconds ≠ 0 ∧
        lt settings.retry.backoffMultiplier 1 = false ∧
        settings.certificates.tool.validityDays ≠ 0 ∧
        settings.certificates.secretNamespace ≠ "" ∧
        (settings.metrics.enabled = true →
          SocketAddress.parse? settings.metrics.listenAddress ≠ none) := by
  simp [fault?, ite_some_eq_none_iff]

/-- **Validation looks for a multiplier below one**, which one that is not a number is not. -/
theorem validate_withMultiplier_iff (valid : settings.validate = .ok ()) (multiplier : Binary64) :
    (settings.withMultiplier multiplier).validate = .ok () ↔
      multiplier = .nan ∨ le 1 multiplier = true := by
  obtain ⟨haddress, hurl, htimeout, -, hothers⟩ := fault?_eq_none_iff.1 (validate_eq_ok_iff.1 valid)
  rw [validate_eq_ok_iff, fault?_eq_none_iff, ← lt_one_eq_false_iff]
  exact ⟨fun h => h.2.2.2.1, fun h => ⟨haddress, hurl, htimeout, h, hothers⟩⟩

/-! ## Calls with valid settings -/

/-- What the waits of a call are like when the settings are valid. -/
structure BackoffOfValid (settings : Settings) : Prop where
  /-- The multiplier is at least one, if it is a number. -/
  multiplier : settings.retry.backoffMultiplier ≠ .nan →
    le 1 settings.retry.backoffMultiplier = true
  /-- No wait is shorter than the one before exactly when it is a number. -/
  waits : settings.retry.NeverShrinks ↔ settings.retry.backoffMultiplier ≠ .nan
  /-- No pause on the clock is, either, up to thirty years. -/
  pauses : settings.retry.backoffMultiplier ≠ .nan →
    ∀ (method : Method) (answers : Nat → Answer) (start i pause pause' : Nat),
      settings.retry.Pauses method answers start i pause →
      settings.retry.Pauses method answers start (i + 1) pause' →
      settings.retry.override? (answers (i + 1)).outcome = none → min pause endlessWait ≤ pause'
  /-- When it is not a number, what follows a wait lasts for thirty years. -/
  endless : settings.retry.backoffMultiplier = .nan →
    ∀ (outcomes : Nat → Outcome) (i : Nat), settings.retry.override? (outcomes (i + 1)) = none →
      (settings.retry.waitAfter outcomes i).isZero = false →
        settings.retry.waitAfter outcomes (i + 1) = .nan ∧
          waitMillis (settings.retry.waitAfter outcomes (i + 1)) = endlessWait
  /-- Both are valid: in place of the multiplier there can be any other that is at least one, and
  one that is not a number. -/
  others : ∀ multiplier, (settings.withMultiplier multiplier).validate = .ok () ↔
    multiplier = .nan ∨ le 1 multiplier = true

/-- **With valid settings, no wait is shorter than the one before**, if the multiplier is a number
at all, which validation does not ask for. -/
theorem backoff_of_valid (valid : settings.validate = .ok ()) : BackoffOfValid settings := by
  have hothers := validate_withMultiplier_iff valid
  have hmultiplier : settings.retry.backoffMultiplier ≠ .nan →
      le 1 settings.retry.backoffMultiplier = true :=
    ((hothers settings.retry.backoffMultiplier).1 valid).resolve_left
  constructor
  case multiplier => exact hmultiplier
  case waits =>
    exact ⟨fun hwaits hnan => RetryPolicy.not_neverShrinks_of_nan hnan hwaits,
      fun hnumber => RetryPolicy.neverShrinks_of_one_le (hmultiplier hnumber)⟩
  case pauses =>
    intro hnumber method answers start i pause pause' h h' hnone
    exact h.le (hmultiplier hnumber) h' hnone
  case endless =>
    intro hnan outcomes i hnone hzero
    have hwait := RetryPolicy.waitAfter_of_nan hnan hnone hzero
    exact ⟨hwait, hwait ▸ waitMillis_of_isEndless isEndless_nan⟩
  case others => exact hothers

/-- The settings of a service that configures nothing double each wait. -/
theorem backoff_of_valid_doubling :
    standard.validate = .ok () ∧ standard.retry.NeverShrinks ∧
      (standard.withMultiplier (1 / 2)).validate ≠ .ok () := by
  have hvalid : standard.validate = .ok () := validate_eq_ok_iff.2 (by decide +kernel)
  have hbackoff := backoff_of_valid hvalid
  exact ⟨hvalid, hbackoff.waits.2 (by decide +kernel),
    fun h => absurd ((hbackoff.others _).1 h) (by decide +kernel)⟩

/-- Valid settings with which a call that fails waits for one second, and then for thirty years. -/
theorem valid_withMultiplier_nan :
    (standard.withMultiplier .nan).validate = .ok () ∧
      le 1 (standard.withMultiplier .nan).retry.backoffMultiplier = false ∧
      ((standard.withMultiplier .nan).retry.play .get
        (fun _ => ⟨some 0, .error ⟨.timeout, "timed out"⟩⟩) 0).attempts.take 3 =
          [0, 1000, 1000 + endlessWait] ∧
      le ((standard.withMultiplier .nan).retry.waitAfter
          (fun _ => .error ⟨.timeout, "timed out"⟩) 0)
        ((standard.withMultiplier .nan).retry.waitAfter
          (fun _ => .error ⟨.timeout, "timed out"⟩) 1) = false := by
  refine ⟨validate_eq_ok_iff.2 ?_, ?_, ?_, ?_⟩ <;> decide +kernel

end Settings

end EdgeSetup
