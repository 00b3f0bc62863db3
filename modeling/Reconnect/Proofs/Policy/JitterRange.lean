/-
Reconnect.Proofs.Policy.JitterRange — how much jitter a policy allows.

The range of a delay is one product of its seconds with the jitter factor. As a
duration it grows with the delay for every factor: where the product is not above
zero, because of a sign, a zero or a not-a-number, it gives no time at all, and
where it is above zero both factors are, so products are monotone.

* `JitterFree`: factors that leave no room under any delay; `hasRoom_jitterRange`.
* `ofSeconds_jitterRange_le`: a longer delay allows no less jitter.
* `longestDelay_le`: no attempt's longest delay is above the one at the cap.
* `Sound.jitterRange_mono`: the range itself, as a number, under a policy that passes the check.
-/
import Reconnect.Proofs.Jitter.Draws
import Reconnect.Proofs.Policy.Growth

namespace Reconnect

namespace Policy

open Binary64

/-- A policy whose jitter factor is not above zero, or no finite number. -/
def JitterFree (p : Policy) : Prop := p.jitterFactor ≤ .zero ∨ p.jitterFactor.isFinite = false

/-- What has room is the product of a delay with a finite factor above zero. -/
theorem JitterFree.hasRoom_jitterRange {p : Policy} (h : p.JitterFree) (capped : Duration) :
    Jitter.hasRoom (p.jitterRange capped) = false := by
  rw [Bool.eq_false_iff, Ne, Jitter.hasRoom_eq_true_iff]
  rintro ⟨hfinite, hpos⟩
  rw [jitterRange, capped.toSeconds_eq] at hfinite hpos
  obtain ⟨hunits, hfactor⟩ := zero_lt_of_zero_lt_mul hpos
  obtain hle | hinfinite := h
  · exact Binary64.not_lt_of_le hle hfactor
  · -- an infinite factor of any delay above zero gives an infinite range
    cases hf : p.jitterFactor with
    | nan => exact ne_nan_of_lt hfactor hf
    | finite s m =>
      rw [hf] at hinfinite
      cases hinfinite
    | infinite s =>
      rw [hf, finite_mul_infinite _ _ hunits] at hfinite
      cases hfinite

/-- A jitter factor of zero, of either sign, leaves no room. -/
theorem hasRoom_jitterRange {p : Policy} (h : p.jitterFactor.eq zero = true)
    (capped : Duration) : Jitter.hasRoom (p.jitterRange capped) = false :=
  JitterFree.hasRoom_jitterRange (.inl (le_of_eq h)) capped

/-! ## Longer delays -/

/-- A longer delay allows no less jitter, whatever the factor is. -/
theorem ofSeconds_jitterRange_le (p : Policy) {a b : Duration} (h : a ≤ b) :
    Duration.ofSeconds (p.jitterRange a) ≤ Duration.ofSeconds (p.jitterRange b) := by
  by_cases hrange : zero < p.jitterRange a
  · have hseconds := Duration.toSeconds_mono h
    rw [jitterRange, a.toSeconds_eq] at hrange
    obtain ⟨hunits, hfactor⟩ := zero_lt_of_zero_lt_mul hrange
    have ha : zero < a.toSeconds := zero_lt_iff.mpr ⟨a.units, hunits, a.position?_toSeconds⟩
    apply Duration.ofSeconds_le_ofSeconds
    exact Binary64.mul_le_mul ha hfactor hseconds (Binary64.le_refl (ne_nan_of_lt hfactor))
  · rw [Duration.ofSeconds_of_not_zero_lt hrange]
    exact Nat.zero_le _

/-- The delay of an attempt with all the jitter that it allows. -/
def longestDelay (p : Policy) (attempt : Nat) : Duration :=
  (p.cappedDelay attempt).saturatingAdd (.ofSeconds (p.jitterRange (p.cappedDelay attempt)))

theorem longestDelay_le {p : Policy} (hcap : p.maxDelay.secs < 2 ^ 23) (n : Nat) :
    p.longestDelay n ≤ p.maxJitteredDelay := by
  have hle := cappedDelay_le_maxDelay hcap n
  exact Duration.saturatingAdd_mono hle (p.ofSeconds_jitterRange_le hle)

/-! ## Sound policies -/

namespace Sound

variable {p : Policy} (hp : p.Sound)

include hp

theorem zero_le_jitterFactor : zero ≤ p.jitterFactor :=
  (Binary64.not_lt (ne_nan_of_isFinite hp.jitterFactor_finite) (show zero ≠ nan from nofun)).mp
    hp.jitterFactor_ge

theorem zero_le_jitterRange (capped : Duration) : zero ≤ p.jitterRange capped :=
  zero_le_mul capped.zero_le_toSeconds hp.zero_le_jitterFactor
    (mul_ne_nan capped.isFinite_toSeconds hp.jitterFactor_finite)

/-- A longer delay has no smaller range. -/
theorem jitterRange_mono {a b : Duration} (h : a ≤ b) : p.jitterRange a ≤ p.jitterRange b :=
  mul_le_mul_of_zero_le a.zero_le_toSeconds hp.zero_le_jitterFactor (Duration.toSeconds_mono h)
    (Binary64.le_refl (ne_nan_of_isFinite hp.jitterFactor_finite))
    (mul_ne_nan a.isFinite_toSeconds hp.jitterFactor_finite)
    (mul_ne_nan b.isFinite_toSeconds hp.jitterFactor_finite)

/-- A range that is finite at the cap is finite at every delay. -/
theorem isFinite_jitterRange (hcap : p.maxDelay.secs < 2 ^ 23)
    (hrange : (p.jitterRange p.maxDelay).isFinite = true) (n : Nat) :
    (p.jitterRange (p.cappedDelay n)).isFinite = true :=
  isFinite_of_le (hp.zero_le_jitterRange _) (hp.jitterRange_mono (cappedDelay_le_maxDelay hcap n))
    hrange

end Sound

end Policy

end Reconnect
