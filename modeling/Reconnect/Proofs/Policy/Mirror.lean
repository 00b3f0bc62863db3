/-
Reconnect.Proofs.Policy.Mirror — negative multipliers.

A negative multiplier has the powers of the positive one, with the sign of the odd ones
turned (`Binary64.power_neg`), and the product with the base passes that sign on. So every
other delay is that of the positive multiplier. In between raw seconds are not above zero
where they are finite, which is no time at all; where they are not, the sign is not looked
at and the delay is the cap. From the greatest exponent on, which is odd, there is no other
delay than these two.

* `mirrored`: the policy with the negative multiplier; `rawSeconds_mirrored`: its raw seconds.
* `clip_neg`: seconds that are not above zero, cut at a cap.
* `cappedDelay_mirrored`: its delays.
-/
import Reconnect.Proofs.Binary64.Sign
import Reconnect.Proofs.Policy.Growth

namespace Reconnect

namespace Policy

open Binary64

/-- The policy with the negative of its multiplier. -/
def mirrored (p : Policy) : Policy := p.adjust (.multiplier (-p.multiplier))

@[simp] theorem mirrored_baseDelay (p : Policy) : p.mirrored.baseDelay = p.baseDelay := rfl
@[simp] theorem mirrored_maxDelay (p : Policy) : p.mirrored.maxDelay = p.maxDelay := rfl
@[simp] theorem mirrored_multiplier (p : Policy) : p.mirrored.multiplier = -p.multiplier := rfl

/-- The sign of the multiplier is that of the raw seconds at odd exponents, and lost at even
ones. -/
theorem rawSeconds_mirrored (p : Policy) (n : Nat) :
    p.mirrored.rawSeconds n =
      if exponent n % 2 = 1 then -p.rawSeconds n else p.rawSeconds n := by
  simp only [rawSeconds, mirrored_baseDelay, mirrored_multiplier, power_neg]
  split
  · rw [Binary64.mul_neg]
  · rfl

/-- Seconds that are not above zero are no time at all, and what is not finite is cut at the
cap whatever its sign is. -/
theorem clip_neg (cap : Duration) {x : Binary64} (h : x ≠ nan → zero ≤ x) :
    clip cap (-x) = if x.isFinite then .zero else cap := by
  cases hx : x.isFinite with
  | false =>
    rw [clip_of_not_finite cap (by rwa [isFinite_neg])]
    rfl
  | true =>
    have hneg : -x ≤ zero := by
      obtain ⟨a, b, ha, hb, hab⟩ := le_iff.mp (h (ne_nan_of_isFinite hx))
      obtain rfl : 0 = a := Option.some.inj ha
      rw [le_of_positions (show (-x).position? = some (-b) by simp [hb]) position?_zero]
      omega
    rw [clip_of_le (by rwa [isFinite_neg]) (Binary64.le_trans hneg cap.zero_le_toSeconds),
      Duration.ofSeconds_of_not_zero_lt (Binary64.not_lt_of_le hneg)]
    rfl

/-- **Negative multipliers**: with a multiplier at or above zero, infinity included, its
negative gives the same delay at even exponents. At odd ones it gives no time at all where the
product of base and power is finite, and the cap where it is not. -/
theorem cappedDelay_mirrored {p : Policy} (hmultiplier : zero ≤ p.multiplier) (n : Nat) :
    (exponent n % 2 = 0 → p.mirrored.cappedDelay n = p.cappedDelay n) ∧
      (exponent n % 2 = 1 →
        p.mirrored.cappedDelay n =
          if (p.baseDelay.toSeconds * p.multiplier.power (exponent n)).isFinite then .zero
          else p.maxDelay) := by
  rw [cappedDelay_eq_clip, cappedDelay_eq_clip, rawSeconds_mirrored, mirrored_maxDelay]
  constructor
  · intro heven
    rw [if_neg (by omega)]
  · intro hodd
    rw [if_pos hodd]
    exact clip_neg p.maxDelay (zero_le_rawSeconds hmultiplier)

theorem standard_mirrored :
    zero ≤ standard.multiplier ∧
      (exponent 2 % 2 = 0 ∧ standard.mirrored.cappedDelay 2 = standard.cappedDelay 2) ∧
      (exponent 9 % 2 = 1 ∧ standard.mirrored.cappedDelay 9 = .zero) ∧
      exponent 4294967295 % 2 = 1 ∧
      standard.mirrored.cappedDelay 4294967295 = standard.maxDelay := by
  have hmultiplier : zero ≤ standard.multiplier :=
    Binary64.le_trans Binary64.zero_le_one (nearest_mono Nat.one_pos (by decide))
  have heven : exponent 2 % 2 = 0 := by decide
  have hodd : exponent 9 % 2 = 1 := by decide
  have hlast : exponent 4294967295 % 2 = 1 := by decide
  have hfinite :
      (standard.baseDelay.toSeconds * standard.multiplier.power (exponent 9)).isFinite = true := by
    decide +kernel
  have hinfinite :
      ¬ (standard.baseDelay.toSeconds *
        standard.multiplier.power (exponent 4294967295)).isFinite = true := by
    decide +kernel
  exact ⟨hmultiplier, ⟨heven, (cappedDelay_mirrored hmultiplier 2).1 heven⟩,
    ⟨hodd, ((cappedDelay_mirrored hmultiplier 9).2 hodd).trans (if_pos hfinite)⟩, hlast,
    ((cappedDelay_mirrored hmultiplier 4294967295).2 hlast).trans (if_neg hinfinite)⟩

end Policy

end Reconnect
