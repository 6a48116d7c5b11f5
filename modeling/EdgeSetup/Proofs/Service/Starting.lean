import EdgeSetup.Service.Start
import EdgeSetup.Settings.Validation

/-!
# What keeps a service from starting

A service can not be started with the wildcard as another origin, nor with a ping loop that never
pauses. Nothing else keeps it from starting (`Service.start_comesTo`).

**Validation looks at neither** (`Service.start_of_valid`). Settings that pass it start exactly when
both are in order, and they pass it just as well with any other origin and any other pause.
-/

namespace EdgeSetup

/-! ## The origin -/

theorem CorsPolicy.ofOrigin_eq_invalid_iff {origin : Option String} :
    ofOrigin origin = .invalid ↔ origin = some wildcard := by
  cases origin with
  | none => exact iff_of_false nofun nofun
  | some name =>
    rw [ofOrigin, Option.some.injEq]
    by_cases hname : name = wildcard
    · subst hname
      exact iff_of_true (by decide) rfl
    · rw [if_neg hname]
      refine iff_of_false (fun h => ?_) hname
      split at h <;> cases h

theorem Gateway.new?_eq_none_iff {origin : Option String} {domainChange : DomainChange}
    {monitor : HealthMonitor} :
    new? origin domainChange monitor = none ↔ origin = some CorsPolicy.wildcard := by
  rw [← CorsPolicy.ofOrigin_eq_invalid_iff, new?]
  cases CorsPolicy.ofOrigin origin <;> simp

/-! ## Starting -/

namespace Service

variable {settings : Settings} {token : Secret}

/-- What an attempt to start comes to. -/
inductive ComesTo (settings : Settings) : Except StartFault Service → Prop where
  | noPause (pause : settings.cluster.pingIntervalSeconds = 0) :
      ComesTo settings (.error .noPingInterval)
  | wildcard (pause : settings.cluster.pingIntervalSeconds ≠ 0)
      (origin : settings.server.corsOrigin = some CorsPolicy.wildcard) :
      ComesTo settings (.error .wildcardOrigin)
  | started {service : Service} (pause : settings.cluster.pingIntervalSeconds ≠ 0)
      (origin : settings.server.corsOrigin ≠ some CorsPolicy.wildcard)
      (period : service.pingPeriod =
        millisPerSecond * settings.cluster.pingIntervalSeconds.toNat) :
      ComesTo settings (.ok service)

theorem period_pos_iff {seconds : UInt64} :
    0 < millisPerSecond * seconds.toNat ↔ seconds ≠ 0 := by
  have hzero : seconds = 0 ↔ seconds.toNat = 0 := UInt64.toNat_inj.symm
  rw [ne_eq, hzero, millisPerSecond]
  omega

theorem start_comesTo (settings : Settings) (token : Secret) :
    ComesTo settings (start settings token) := by
  rw [start]
  split
  · next hpositive =>
    have hpause := period_pos_iff.1 hpositive
    cases hgateway : Gateway.new? settings.server.corsOrigin (domainChange settings)
      (monitor settings token) with
    | none => exact .wildcard hpause (Gateway.new?_eq_none_iff.1 hgateway)
    | some gateway =>
      refine .started hpause (fun horigin => ?_) rfl
      cases hgateway.symm.trans (Gateway.new?_eq_none_iff.2 horigin)
  · next hzero =>
    exact .noPause (Decidable.byContradiction fun hpause => hzero (period_pos_iff.2 hpause))

/-- A service starts when its pings pause and its origin is not the wildcard. -/
theorem start_iff :
    (∃ service, start settings token = .ok service) ↔
      settings.cluster.pingIntervalSeconds ≠ 0 ∧
        settings.server.corsOrigin ≠ some CorsPolicy.wildcard := by
  have hcomesTo := start_comesTo settings token
  generalize start settings token = result at hcomesTo
  cases hcomesTo with
  | noPause pause => exact iff_of_false nofun fun h => h.1 pause
  | wildcard _ origin => exact iff_of_false nofun fun h => h.2 origin
  | started pause origin => exact iff_of_true ⟨_, rfl⟩ ⟨pause, origin⟩

end Service

/-! ## Validation -/

/-- The settings with another pause between pings and another origin. -/
def Settings.startingWith (settings : Settings) (seconds : UInt64) (origin : Option String) :
    Settings :=
  { settings with
    cluster := { settings.cluster with pingIntervalSeconds := seconds }
    server := { settings.server with corsOrigin := origin } }

theorem Settings.validate_startingWith (settings : Settings) (seconds : UInt64)
    (origin : Option String) :
    (settings.startingWith seconds origin).validate = settings.validate := rfl

namespace Service

/-- **Valid settings start** when neither the pause nor the origin is in the way, which validation
does not ask for: with any other pause and origin they are valid, too. -/
theorem start_of_valid {settings : Settings} (valid : settings.validate = .ok ()) (token : Secret) :
    ((∃ service, start settings token = .ok service) ↔
        settings.cluster.pingIntervalSeconds ≠ 0 ∧
          settings.server.corsOrigin ≠ some CorsPolicy.wildcard) ∧
      ∀ seconds origin, (settings.startingWith seconds origin).validate = .ok () :=
  ⟨start_iff, fun seconds origin => (settings.validate_startingWith seconds origin).trans valid⟩

theorem standard_valid : Settings.standard.validate = .ok () := by
  have hfault : Settings.standard.fault? = none := by decide +kernel
  rw [Settings.validate, hfault]

/-- The settings of a service that configures nothing are valid and start it. They stay valid with
pings that never pause and any origin. -/
theorem start_of_valid_standard :
    Settings.standard.validate = .ok () ∧
      (∃ service, start .standard ⟨"token"⟩ = .ok service) ∧
      (Settings.standard.startingWith 0 (some "*")).validate = .ok () := by
  obtain ⟨hstarts, hany⟩ := start_of_valid standard_valid ⟨"token"⟩
  exact ⟨standard_valid, hstarts.2 ⟨by decide, by decide⟩, hany 0 (some "*")⟩

/-- Two valid settings with which no service starts. -/
theorem valid_not_started :
    ((Settings.standard.startingWith 0 none).validate = .ok () ∧
        start (Settings.standard.startingWith 0 none) ⟨"token"⟩ = .error .noPingInterval) ∧
      (Settings.standard.startingWith 30 (some "*")).validate = .ok () ∧
        start (Settings.standard.startingWith 30 (some "*")) ⟨"token"⟩ =
          .error .wildcardOrigin :=
  ⟨⟨(Settings.validate_startingWith ..).trans standard_valid, rfl⟩,
    (Settings.validate_startingWith ..).trans standard_valid, rfl⟩

end Service

end EdgeSetup
