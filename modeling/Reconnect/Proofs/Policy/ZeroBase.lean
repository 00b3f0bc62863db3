/-
Reconnect.Proofs.Policy.ZeroBase — delays without a first delay.

Nothing times a power is nothing, and so the delays of a zero base are zero, as long as the
power is a finite number. The power itself knows nothing of the base: where it leaves the
finite range the product is zero times an infinity, which is no number, and what is not
finite is taken for a delay past the cap. From that attempt on every delay is the cap.

* `position?_rawSeconds_of_zero`: the raw seconds are zero or not a number.
* `cappedDelay_of_zero_base`: when the delays are zero, for any finite multiplier.
* `idle`: a policy whose delays are zero a thousand times, and a minute from then on.
-/
import Reconnect.Proofs.Binary64.Place
import Reconnect.Proofs.Binary64.Sign
import Reconnect.Proofs.Policy.Growth

namespace Reconnect

namespace Policy

open Binary64

section

variable {p : Policy} (hbase : p.baseDelay = .zero)

include hbase

theorem position?_rawSeconds_of_zero (n : Nat) :
    (p.rawSeconds n).position? =
      if (p.multiplier.power (exponent n)).isFinite then some 0 else none := by
  rw [rawSeconds, hbase, Binary64.mul_comm]
  exact position?_mul_of_zero_right _ Duration.position?_toSeconds_zero

theorem cappedDelay_of_isFinite {n : Nat}
    (h : (p.multiplier.power (exponent n)).isFinite = true) : p.cappedDelay n = .zero := by
  have hplace : (p.rawSeconds n).position? = some ((0 : Nat) : Int) := by
    rw [position?_rawSeconds_of_zero hbase, if_pos h]
    rfl
  rw [cappedDelay_eq_clip, clip_of_position? hplace, if_neg (Nat.not_lt_zero _),
    Duration.nearestNanos_zero]

theorem cappedDelay_of_not_isFinite {n : Nat}
    (h : (p.multiplier.power (exponent n)).isFinite = false) : p.cappedDelay n = p.maxDelay := by
  have hnan : p.rawSeconds n = nan := by
    rw [← position?_eq_none_iff, position?_rawSeconds_of_zero hbase, h]
    rfl
  rw [cappedDelay_eq_clip, hnan]
  exact clip_of_not_finite p.maxDelay rfl

theorem cappedDelay_of_zero (n : Nat) :
    p.cappedDelay n =
      if (p.multiplier.power (exponent n)).isFinite then .zero else p.maxDelay := by
  cases hpower : (p.multiplier.power (exponent n)).isFinite with
  | true => simp [cappedDelay_of_isFinite hbase hpower]
  | false => simp [cappedDelay_of_not_isFinite hbase hpower]

variable (hmultiplier : p.multiplier ≠ nan)

include hmultiplier

/-- A delay above zero is the cap for good, as the powers do not come back. -/
theorem cappedDelay_of_grown {n m : Nat} (h : n ≤ m) (hn : p.cappedDelay n ≠ .zero) :
    p.cappedDelay m = p.maxDelay := by
  apply cappedDelay_of_not_isFinite hbase
  by_contra hfinite
  rw [Bool.not_eq_false] at hfinite
  exact hn (cappedDelay_of_isFinite hbase
    (isFinite_power_of_le hmultiplier (exponent_mono h) hfinite))

theorem forall_cappedDelay_eq_zero_iff :
    (∀ n, p.cappedDelay n = .zero) ↔
      p.maxDelay = .zero ∨ (p.multiplier.power maxExponent).isFinite = true := by
  have hlast : exponent maxExponent = maxExponent := Nat.min_self _
  constructor
  · intro hzero
    cases hpower : (p.multiplier.power maxExponent).isFinite with
    | true => exact .inr rfl
    | false =>
      rw [← hlast] at hpower
      exact .inl ((cappedDelay_of_not_isFinite hbase hpower).symm.trans (hzero maxExponent))
  · intro h n
    rw [cappedDelay_of_zero hbase]
    rcases h with hcap | hpower
    · rw [hcap, ite_self]
    · rw [if_pos (isFinite_power_of_le hmultiplier (exponent_le n) hpower)]

omit hmultiplier

/-- **A zero base**: with a finite multiplier, a delay is zero exactly where the power is
finite, and the cap else. All are zero exactly if the greatest power is finite, or if the
cap is zero itself; a delay above zero is the cap for good; and multipliers from minus one
to one never get there. -/
theorem cappedDelay_of_zero_base (hmultiplier : p.multiplier.isFinite = true) :
    (∀ n, p.cappedDelay n =
        if (p.multiplier.power (exponent n)).isFinite then .zero else p.maxDelay) ∧
      ((∀ n, p.cappedDelay n = .zero) ↔
        p.maxDelay = .zero ∨ (p.multiplier.power maxExponent).isFinite = true) ∧
      (∀ n m, n ≤ m → p.cappedDelay n ≠ .zero → p.cappedDelay m = p.maxDelay) ∧
      (-one ≤ p.multiplier → p.multiplier ≤ one → ∀ n, p.cappedDelay n = .zero) := by
  have hnan := ne_nan_of_isFinite hmultiplier
  refine ⟨cappedDelay_of_zero hbase, forall_cappedDelay_eq_zero_iff hbase hnan, ?_, ?_⟩
  · intro n m hnm hn
    exact cappedDelay_of_grown hbase hnan hnm hn
  · intro hlow hhigh n
    exact cappedDelay_of_isFinite hbase (isFinite_power_of_between hlow hhigh _)

end

/-- No first delay, and doubled up to a minute. -/
def idle : Policy := { standard with baseDelay := .zero }

/-- Attempt 1024 is the first whose power is past the finite range. -/
theorem idle_turn :
    idle.multiplier.isFinite = true ∧ idle.cappedDelay 1023 = .zero ∧
      idle.cappedDelay 1024 = .seconds 60 := by
  decide +kernel

theorem idle_turn_ne : idle.cappedDelay 1024 ≠ .zero := by
  rw [idle_turn.2.2]
  decide

/-- The first power of two past the finite range turns a zero delay into a minute. -/
theorem idle_grows :
    idle.baseDelay = .zero ∧ idle.multiplier.isFinite = true ∧ idle.cappedDelay 1023 = .zero ∧
      idle.cappedDelay 1024 = .seconds 60 ∧ idle.cappedDelay 1024 ≠ .zero := by
  obtain ⟨hmultiplier, hfinite, hgrown⟩ := idle_turn
  exact ⟨by decide, hmultiplier, hfinite, hgrown, idle_turn_ne⟩

theorem idle_stays :
    idle.baseDelay = .zero ∧ idle.multiplier.isFinite = true ∧
      idle.cappedDelay 4294967295 = .seconds 60 := by
  have hbase : idle.baseDelay = .zero := by decide
  have hmultiplier : idle.multiplier.isFinite = true := idle_turn.1
  obtain ⟨-, -, hstays, -⟩ := cappedDelay_of_zero_base hbase hmultiplier
  exact ⟨hbase, hmultiplier, hstays 1024 4294967295 (by decide) idle_turn_ne⟩

end Policy

end Reconnect
