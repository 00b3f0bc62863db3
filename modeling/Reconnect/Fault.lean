/-
Reconnect.Fault — what can be wrong with a configuration.

Pacing itself never fails; faults come from checking a policy and from reading
the label of a preset.

* `Fault`: `ConfigError`, the causes with the values at fault.
* `label`: a fault for metrics, `as_label`.
* `text`: a fault for people, its `Display` text.
* `message`: a fault for logs, `as_message`.
* `eq`: equality that compares the numbers numerically.
-/
import Reconnect.Binary64.Text
import Reconnect.Duration.Text
import Reconnect.Text.Quoted

namespace Reconnect

/-- A fault of a configuration (`ConfigError`). -/
inductive Fault where
  | zeroBaseDelay
  | maxBelowBase (base max : Duration)
  | invalidMultiplier (multiplier : Binary64)
  | invalidJitterFactor (factor : Binary64)
  | unknownPreset (name : String)
  deriving DecidableEq

namespace Fault

/-- The name of the cause (`as_label`). -/
def label : Fault → String
  | zeroBaseDelay => "config_zero_base_delay"
  | maxBelowBase _ _ => "config_max_below_base"
  | invalidMultiplier _ => "config_invalid_multiplier"
  | invalidJitterFactor _ => "config_invalid_jitter_factor"
  | unknownPreset _ => "config_unknown_preset"

/-- The fault in a sentence, its `Display` text. -/
def text : Fault → String
  | zeroBaseDelay => "base delay must be greater than zero"
  | maxBelowBase base max => "max delay " ++ max.text ++ " is below base delay " ++ base.text
  | invalidMultiplier multiplier =>
    "multiplier must be a finite value >= 1.0, got " ++ multiplier.text
  | invalidJitterFactor factor =>
    "jitter factor must be a finite value >= 0.0, got " ++ factor.text
  | unknownPreset name => "unknown backoff preset " ++ Text.quoted name

/-- The values at fault (`as_message`). -/
def message : Fault → String
  | zeroBaseDelay => "base_delay=0s"
  | maxBelowBase base max => "max_delay=" ++ max.text ++ " < base_delay=" ++ base.text
  | invalidMultiplier multiplier => "multiplier=" ++ multiplier.text
  | invalidJitterFactor factor => "jitter_factor=" ++ factor.text
  | unknownPreset name => "preset=" ++ Text.quoted name

/-- Equality of cause and values, numbers being compared numerically. -/
def eq : Fault → Fault → Bool
  | zeroBaseDelay, zeroBaseDelay => true
  | maxBelowBase base max, maxBelowBase base' max' => decide (base = base' ∧ max = max')
  | invalidMultiplier x, invalidMultiplier y => x.eq y
  | invalidJitterFactor x, invalidJitterFactor y => x.eq y
  | unknownPreset name, unknownPreset name' => decide (name = name')
  | _, _ => false

end Fault

end Reconnect
