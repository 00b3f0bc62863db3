/-
Reconnect.Proofs.Policy.Growth — the delays of a sound policy grow from the base
to the cap.

The raw seconds of an attempt are one product of the base with a power, and
products, cutting at the cap and the way back to a duration are monotone. So the
delays are as monotone as the powers are in the exponent.

* `rawSeconds_zero`: the first attempt is the base, to the last bit.
* `cappedDelay_zero_eq_min`: the first delay of any policy is the base or the cap.
* `Sound.rawSeconds_mono`: raw seconds grow with the attempt.
* `ramp_of_check`: the delays start at the base, grow, and stay at the cap.
-/
import Reconnect.Proofs.Binary64.Bits
import Reconnect.Proofs.Binary64.Unit
import Reconnect.Proofs.Policy.Cap

namespace Reconnect

namespace Policy

open Binary64

theorem exponent_mono {n m : Nat} (h : n ≤ m) : exponent n ≤ exponent m := by
  unfold exponent
  omega

theorem exponent_le (n : Nat) : exponent n ≤ maxExponent := Nat.min_le_right n maxExponent

theorem exponent_zero : exponent 0 = 0 := Nat.zero_min _

theorem rawSeconds_zero (p : Policy) : p.rawSeconds 0 = p.baseDelay.toSeconds := by
  rw [rawSeconds, exponent_zero, power_zero, Binary64.mul_one]

/-- The first delay, whatever the multiplier is: any number to the power zero is one. -/
theorem cappedDelay_zero_eq_min {p : Policy} (hcap : p.maxDelay.secs < 2 ^ 23) :
    p.cappedDelay 0 = min p.baseDelay p.maxDelay := by
  rw [cappedDelay_eq_clip, rawSeconds_zero, clip_toSeconds hcap]

/-- With a multiplier at or above zero raw seconds are there too, where they are a number. -/
theorem zero_le_rawSeconds {p : Policy} (hmultiplier : zero ≤ p.multiplier) {n : Nat}
    (h : p.rawSeconds n ≠ nan) : zero ≤ p.rawSeconds n :=
  zero_le_mul p.baseDelay.zero_le_toSeconds (zero_le_power hmultiplier _) h

theorem zero_lt_toSeconds {d : Duration} (h : d ≠ .zero) : zero < d.toSeconds :=
  zero_lt_iff.mpr ⟨d.units, Duration.units_pos (Duration.nanos_pos h), d.position?_toSeconds⟩

namespace Sound

variable {p : Policy} (hp : p.Sound)

include hp

theorem zero_lt_baseDelay : zero < p.baseDelay.toSeconds := zero_lt_toSeconds hp.baseDelay_ne

theorem one_le_multiplier : one ≤ p.multiplier := by
  have hone : one ≠ nan := ne_nan_of_lt Binary64.zero_lt_one
  exact (Binary64.not_lt (ne_nan_of_isFinite hp.multiplier_finite) hone).mp hp.multiplier_ge

theorem rawSeconds_mono {n m : Nat} (h : n ≤ m) : p.rawSeconds n ≤ p.rawSeconds m := by
  have hbase := hp.zero_lt_baseDelay
  have hone := one_le_power hp.one_le_multiplier (exponent n)
  have hpower := power_mono hp.one_le_multiplier (exponent_mono h)
  exact Binary64.mul_le_mul hbase (zero_lt_of_one_le hone)
    (Binary64.le_refl p.baseDelay.toSeconds_ne_nan) hpower

theorem zero_le_rawSeconds (n : Nat) : zero ≤ p.rawSeconds n := by
  have hbase := rawSeconds_mono hp (Nat.zero_le n)
  rw [rawSeconds_zero] at hbase
  exact Binary64.le_of_lt (Binary64.lt_of_lt_of_le hp.zero_lt_baseDelay hbase)

theorem cappedDelay_zero (hcap : p.maxDelay.secs < 2 ^ 23) : p.cappedDelay 0 = p.baseDelay := by
  rw [cappedDelay_zero_eq_min hcap]
  exact Duration.min_eq_left hp.baseDelay_le

theorem cappedDelay_mono (hcap : p.maxDelay.secs < 2 ^ 23) {n m : Nat} (h : n ≤ m) :
    p.cappedDelay n ≤ p.cappedDelay m :=
  clip_mono hcap (hp.zero_le_rawSeconds n) (hp.rawSeconds_mono h)

end Sound

theorem cappedDelay_le_maxDelay {p : Policy} (hcap : p.maxDelay.secs < 2 ^ 23) (n : Nat) :
    p.cappedDelay n ≤ p.maxDelay := clip_le hcap _

/-- **The ramp** of a policy that passes the check, with a cap below 2^23 seconds:
it starts at the base, never falls, never leaves the range from the base to the
cap, and stays at the cap once it is there. -/
theorem ramp_of_check {p : Policy} (hcheck : p.check = .ok ())
    (hcap : p.maxDelay.secs < 2 ^ 23) :
    p.cappedDelay 0 = p.baseDelay ∧
      ∀ n m : Nat, n ≤ m →
        p.baseDelay ≤ p.cappedDelay n ∧ p.cappedDelay n ≤ p.cappedDelay m ∧
          p.cappedDelay m ≤ p.maxDelay ∧
          (p.cappedDelay n = p.maxDelay → p.cappedDelay m = p.maxDelay) := by
  have hp := check_eq_ok_iff.mp hcheck
  have hzero := hp.cappedDelay_zero hcap
  refine ⟨hzero, fun n m hnm => ?_⟩
  have hbase := hp.cappedDelay_mono hcap (Nat.zero_le n)
  have hgrow := hp.cappedDelay_mono hcap hnm
  have hle := cappedDelay_le_maxDelay hcap m
  refine ⟨hzero ▸ hbase, hgrow, hle, fun hn => ?_⟩
  rw [hn] at hgrow
  exact Duration.ext (Nat.le_antisymm hle hgrow)

/-- The slowest growth from the shortest base to the longest cap: a nanosecond, a
multiplier of one and a unit in the last place, and a nanosecond less than 2^23
seconds. -/
def slowestRamp : Policy where
  baseDelay := .saturating 1
  maxDelay := .saturating 8_388_607_999_999_999
  multiplier := .ofBits 0x3ff0000000000001
  jitterFactor := .zero
  maxRetries := none

theorem slowestRamp_grows :
    slowestRamp.check = .ok () ∧ slowestRamp.maxDelay.secs < 2 ^ 23 ∧
      slowestRamp.cappedDelay 0 = slowestRamp.baseDelay ∧
      slowestRamp.cappedDelay 2147483647 ≤ slowestRamp.cappedDelay 4294967295 := by
  have hgrowth : one ≤ slowestRamp.multiplier :=
    one_le_ofFields _ (by rw [unitPlaces_eq]; decide)
  have hcheck : slowestRamp.check = .ok () := check_eq_ok_iff.mpr {
    baseDelay_ne := by decide
    baseDelay_le := by decide
    multiplier_finite := rfl
    multiplier_ge := Binary64.not_lt_of_le hgrowth
    jitterFactor_finite := rfl
    jitterFactor_ge := by decide }
  have hcap : slowestRamp.maxDelay.secs < 2 ^ 23 := by decide
  have hramp := ramp_of_check hcheck hcap
  exact ⟨hcheck, hcap, hramp.1, (hramp.2 2147483647 4294967295 (by decide)).2.1⟩

end Policy

end Reconnect
