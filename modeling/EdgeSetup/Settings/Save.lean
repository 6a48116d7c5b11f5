import EdgeSetup.Error
import EdgeSetup.Settings.Basic
import EdgeSetup.Toml.Writer

/-!
# Saving settings

Settings are saved as TOML, section by section. A number that TOML can not hold makes it fail.
-/

namespace EdgeSetup

open Json

namespace Settings

/-- The section of a retry policy; its multiplier is written even when it is not finite. -/
def retrySection (policy : RetryPolicy) : Value :=
  .object <| RetryPolicy.fieldNames.zip
    [encode policy.maxRetries, encode policy.initialDelayMs,
      .number (.float policy.backoffMultiplier), encode policy.retryAfter]

/-- The sections of some settings. -/
def sections (settings : Settings) : List (String × Value) :=
  sectionNames.zip
    [encode settings.server, encode settings.cluster, retrySection settings.retry,
      encode settings.certificates, encode settings.setupUi, encode settings.metrics,
      encode settings.logging]

/-- The text of some settings. -/
def save (settings : Settings) : Except SetupError String :=
  match Toml.document? settings.sections with
  | some text => .ok text
  | none => .error (.serialization "a number is out of range")

end Settings

end EdgeSetup
