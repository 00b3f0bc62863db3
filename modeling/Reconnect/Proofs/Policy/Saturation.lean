/-
Reconnect.Proofs.Policy.Saturation — how soon a ramp that doubles is at its cap.

The steps of a delay are all monotone: the way to seconds, powers in number and exponent,
and products. So of all bases above zero, multipliers of at least two and attempts from the
94th on, a nanosecond doubled 94 times gives the least, and of all caps the longest duration
has the most seconds. One comparison of these two numbers settles every policy.

* `nanosecond_doubled`: the comparison, and that one doubling less is not enough.
* `cappedDelay_of_ninetyFour_le`: from attempt 94 on the delay is the cap.
* `steepest`: the policy that needs them all.
-/
import Reconnect.Proofs.Policy.Growth

namespace Reconnect

/-- Two. -/
def Binary64.two : Binary64 := .nearest 2 1

/-- The shortest duration above zero. -/
def Duration.nanosecond : Duration := .saturating 1

namespace Policy

open Binary64 Duration

/-- In seconds, a nanosecond doubled 94 times is longer than the longest duration, and doubled
93 times it is not. -/
theorem nanosecond_doubled :
    Duration.longest.toSeconds < nanosecond.toSeconds * two.power 94 ∧
      clip .longest (nanosecond.toSeconds * two.power 93) < .longest := by
  decide +kernel

theorem one_le_two : one ≤ two := nearest_mono Nat.one_pos (by decide)

theorem nanosecond_le {d : Duration} (h : d ≠ .zero) : nanosecond ≤ d := Duration.nanos_pos h

theorem le_exponent {k n : Nat} (hk : k ≤ maxExponent) (h : k ≤ n) : k ≤ exponent n :=
  Nat.le_min.mpr ⟨h, hk⟩

/-- **The ramp reaches the cap**: with a base above zero and a multiplier of at least two,
infinity included, every delay from attempt 94 on is the cap, however long that is. -/
theorem cappedDelay_of_ninetyFour_le {p : Policy} (hbase : p.baseDelay ≠ .zero)
    (hmultiplier : two ≤ p.multiplier) {n : Nat} (hn : 94 ≤ n) :
    p.cappedDelay n = p.maxDelay := by
  have hexponent : 94 ≤ exponent n := le_exponent (by decide) hn
  have hpower : two.power 94 ≤ p.multiplier.power (exponent n) :=
    Binary64.le_trans (power_le_power one_le_two hmultiplier 94)
      (power_mono (Binary64.le_trans one_le_two hmultiplier) hexponent)
  have hraw : nanosecond.toSeconds * two.power 94 ≤ p.rawSeconds n :=
    Binary64.mul_le_mul (zero_lt_toSeconds (by decide))
      (zero_lt_of_one_le (one_le_power one_le_two 94))
      (Duration.toSeconds_mono (nanosecond_le hbase)) hpower
  have hcap : p.maxDelay.toSeconds < p.rawSeconds n :=
    Binary64.lt_of_le_of_lt (Duration.toSeconds_mono p.maxDelay.le_longest)
      (Binary64.lt_of_lt_of_le nanosecond_doubled.1 hraw)
  rw [cappedDelay_eq_clip, clip_of_lt hcap]

/-- From a nanosecond doubling up to the longest duration: attempt 94 is the first at the cap. -/
def steepest : Policy where
  baseDelay := nanosecond
  maxDelay := .longest
  multiplier := two
  jitterFactor := .zero
  maxRetries := none

theorem steepest_saturates :
    steepest.baseDelay ≠ .zero ∧ two ≤ steepest.multiplier ∧
      steepest.cappedDelay 93 < .longest ∧ steepest.cappedDelay 94 = .longest ∧
      (steepest.adjust (.multiplier (.infinite false))).cappedDelay 4294967295 = .longest := by
  have hbase : steepest.baseDelay ≠ .zero := by decide
  have htwo : two ≤ steepest.multiplier := Binary64.le_refl (ne_nan_of_le one_le_two).2
  have hinfinite : two ≤ .infinite false :=
    le_infinite (Binary64.le_trans Binary64.zero_le_one one_le_two)
  have hshort : steepest.cappedDelay 93 < .longest := nanosecond_doubled.2
  exact ⟨hbase, htwo, hshort, cappedDelay_of_ninetyFour_le hbase htwo (Nat.le_refl 94),
    cappedDelay_of_ninetyFour_le (p := steepest.adjust (.multiplier (.infinite false))) hbase
      hinfinite (by decide)⟩

end Policy

end Reconnect
