/-
Reconnect.Proofs.Policy.Shrinking — tunings that do not grow.

Nothing is asked of these policies but a cap below 2^23 seconds: the base may be above the
cap, and the multiplier from zero to one. Such a multiplier has powers from zero to one
that fall with the exponent, all the way through the smallest numbers to zero, so raw
seconds are finite and fall, and cutting at the cap keeps their order.

* `Falling`: such multipliers; `Falling.rawSeconds_anti`: raw seconds fall with the attempt.
* `falling_delays`: the first delay for any multiplier, and the delays that fall from it.
-/
import Reconnect.Proofs.Policy.Growth

namespace Reconnect

namespace Policy

open Binary64

/-- A policy whose multiplier lies from zero to one. -/
structure Falling (p : Policy) : Prop where
  zero_le : zero ≤ p.multiplier
  le_one : p.multiplier ≤ one

namespace Falling

variable {p : Policy} (h : p.Falling)

include h

/-- Base and power are finite, so their product is a number. -/
theorem rawSeconds_ne_nan (n : Nat) : p.rawSeconds n ≠ nan := by
  obtain ⟨hlow, hhigh⟩ := power_unit h.zero_le h.le_one (exponent n)
  exact mul_ne_nan p.baseDelay.isFinite_toSeconds (isFinite_of_le hlow hhigh isFinite_one)

theorem rawSeconds_anti {n m : Nat} (hnm : n ≤ m) : p.rawSeconds m ≤ p.rawSeconds n := by
  have hself : p.baseDelay.toSeconds ≤ p.baseDelay.toSeconds :=
    Binary64.le_refl p.baseDelay.toSeconds_ne_nan
  have hpower := power_anti h.zero_le h.le_one (exponent_mono hnm)
  exact mul_le_mul_of_zero_le p.baseDelay.zero_le_toSeconds (zero_le_power h.zero_le _) hself
    hpower (h.rawSeconds_ne_nan m) (h.rawSeconds_ne_nan n)

theorem cappedDelay_anti (hcap : p.maxDelay.secs < 2 ^ 23) {n m : Nat} (hnm : n ≤ m) :
    p.cappedDelay m ≤ p.cappedDelay n :=
  clip_mono hcap (zero_le_rawSeconds h.zero_le (h.rawSeconds_ne_nan m)) (h.rawSeconds_anti hnm)

end Falling

/-- A multiplier of one leaves every attempt as it finds the first. -/
theorem rawSeconds_of_one {p : Policy} (h : p.multiplier = one) (n : Nat) :
    p.rawSeconds n = p.rawSeconds 0 := by
  rw [rawSeconds_zero, rawSeconds, h, one_power, Binary64.mul_one]

/-- **Delays that fall**: with a cap below 2^23 seconds the first delay is the shorter of base
and cap, whatever the multiplier is; with a multiplier from zero to one no delay is longer than
one before it, and with a multiplier of one all are as long as the first. -/
theorem falling_delays {p : Policy} (hcap : p.maxDelay.secs < 2 ^ 23) :
    p.cappedDelay 0 = min p.baseDelay p.maxDelay ∧
      (zero ≤ p.multiplier → p.multiplier ≤ one →
        ∀ n m : Nat, n ≤ m → p.cappedDelay m ≤ p.cappedDelay n) ∧
      (p.multiplier = one → ∀ n : Nat, p.cappedDelay n = min p.baseDelay p.maxDelay) := by
  refine ⟨cappedDelay_zero_eq_min hcap, ?_, ?_⟩
  · intro hzero hone n m hnm
    exact Falling.cappedDelay_anti ⟨hzero, hone⟩ hcap hnm
  · intro hone n
    rw [← cappedDelay_zero_eq_min hcap, cappedDelay_eq_clip, rawSeconds_of_one hone]
    rfl

/-- From the longest duration down by the slowest decay: the cap is a nanosecond less than
2^23 seconds, and the multiplier is the number next to one. -/
def slowestDecay : Policy where
  baseDelay := .longest
  maxDelay := .saturating 8_388_607_999_999_999
  multiplier := .ofBits 0x3fefffffffffffff
  jitterFactor := .zero
  maxRetries := none

theorem slowestDecay_falls :
    slowestDecay.maxDelay.secs < 2 ^ 23 ∧ zero ≤ slowestDecay.multiplier ∧
      slowestDecay.multiplier ≤ one ∧ slowestDecay.cappedDelay 0 = slowestDecay.maxDelay ∧
      slowestDecay.cappedDelay 4294967295 ≤ slowestDecay.cappedDelay 2147483646 ∧
      (slowestDecay.adjust (.multiplier .one)).cappedDelay 4294967295 = slowestDecay.maxDelay := by
  have hcap : slowestDecay.maxDelay.secs < 2 ^ 23 := by decide
  have hzero : zero ≤ slowestDecay.multiplier := by decide
  have hone : slowestDecay.multiplier ≤ one :=
    ofFields_le_one _ (by rw [unitPlaces_eq]; decide)
  have hmin : min slowestDecay.baseDelay slowestDecay.maxDelay = slowestDecay.maxDelay := by
    decide
  obtain ⟨hfirst, hfalls, -⟩ := falling_delays hcap
  have hsteady := (falling_delays (p := slowestDecay.adjust (.multiplier .one)) hcap).2.2 rfl
  exact ⟨hcap, hzero, hone, hfirst.trans hmin, hfalls hzero hone _ _ (by decide),
    (hsteady 4294967295).trans hmin⟩

end Policy

end Reconnect
