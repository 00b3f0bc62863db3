/-
Reconnect.Proofs.Binary64.Error — how far rounded values are from exact ones.

One rounding of a value that is not too small multiplies it by a factor between
`1 - 2^-53` and `1 + 2^-53`. `Within k` says that a value is an exact one times `k`
such factors; it composes along sums, products and further roundings.

* `abs_roundDiv_sub_le`: a rounded quotient is half off at most, and even if it is just that.
* `value?`: the exact value of a finite number.
* `Within`: the exact value up to a number of roundings.
* `within_roundUnits`: one rounding is one factor.
-/
import Mathlib.Data.Rat.Cast.Order
import Mathlib.Tactic.FieldSimp
import Mathlib.Tactic.GCongr
import Mathlib.Tactic.Linarith
import Mathlib.Tactic.Positivity
import Reconnect.Proofs.Binary64.Order

namespace Reconnect

/-! ## Whole numbers -/

/-- A rounded quotient is half off at most. -/
theorem abs_roundDiv_sub_le {den : ℕ} (hden : 0 < den) (num : ℕ) :
    |(roundDiv num den : ℚ) - num / den| ≤ 1 / 2 := by
  have hden' : (0 : ℚ) < den := Nat.cast_pos.mpr hden
  have high : (2 : ℚ) * (roundDiv num den * den) ≤ 2 * num + den := by
    exact_mod_cast two_mul_roundDiv_le num den
  have low : (2 : ℚ) * num ≤ 2 * (roundDiv num den * den) + den := by
    exact_mod_cast two_mul_le_roundDiv hden num
  have hexact : (num : ℚ) = num / den * den := by field_simp
  generalize (num : ℚ) / den = q at hexact ⊢
  generalize (roundDiv num den : ℚ) = r at high low ⊢
  rw [hexact] at high low
  rw [abs_le]
  constructor <;> nlinarith

/-- If it is half off, it is even. -/
theorem roundDiv_mod_two_of_half {den : ℕ} (hden : 0 < den) {num : ℕ}
    (h : |(roundDiv num den : ℚ) - num / den| = 1 / 2) : roundDiv num den % 2 = 0 := by
  have hden' : (den : ℚ) ≠ 0 := Nat.cast_ne_zero.mpr hden.ne'
  apply roundDiv_mod_two_of_tie hden
  rcases eq_or_eq_neg_of_abs_eq h with high | low
  · right
    field_simp at high
    have : 2 * ((roundDiv num den : ℚ) * den) = 2 * num + den := by linarith
    exact_mod_cast this
  · left
    field_simp at low
    have : 2 * (num : ℚ) = 2 * (roundDiv num den * den) + den := by linarith
    exact_mod_cast this

/-- Two whole numbers cannot both be less than half away from a value. -/
theorem one_le_abs_sub_add_abs_sub {k : ℤ} {n : ℕ} (h : k ≠ n) (t : ℚ) :
    1 ≤ |(k : ℚ) - t| + |(n : ℚ) - t| := by
  have apart : (1 : ℚ) ≤ |(k : ℚ) - n| := by
    exact_mod_cast Int.one_le_abs (sub_ne_zero.mpr h)
  calc (1 : ℚ) ≤ |(k : ℚ) - n| := apart
    _ ≤ |(k : ℚ) - t| + |t - n| := abs_sub_le _ _ _
    _ = |(k : ℚ) - t| + |(n : ℚ) - t| := by rw [abs_sub_comm t]

namespace Binary64

/-! ## Exact values -/

/-- The exact value of a finite number. -/
def value? : Binary64 → Option ℚ
  | finite negative m => some (signed negative m.units / scale)
  | _ => none

theorem scale_pos_rat : (0 : ℚ) < scale := Nat.cast_pos.mpr scale_pos

theorem position?_of_value? {x : Binary64} {v : ℚ} (h : x.value? = some v) :
    ∃ a : ℤ, x.position? = some a ∧ (a : ℚ) = v * scale := by
  have hscale := scale_pos_rat
  cases x with
  | nan => cases h
  | infinite s => cases h
  | finite s m =>
    obtain rfl := Option.some.inj h
    exact ⟨signed s m.units, rfl, by field_simp⟩

/-- A whole value is a whole number of ones. -/
theorem position?_of_value?_natCast {x : Binary64} {n : ℕ} (h : x.value? = some (n : ℚ)) :
    x.position? = some ((n * scale : ℕ) : ℤ) := by
  obtain ⟨a, hx, ha⟩ := position?_of_value? h
  rw [hx]
  congr 1
  exact_mod_cast ha

theorem value?_nearest {n : ℕ} (h : n ≤ 2 ^ 53) : (nearest n 1).value? = some (n : ℚ) := by
  have hscale := scale_pos_rat
  have hlimit : n * scale < limit :=
    Nat.lt_of_le_of_lt (Nat.mul_le_mul_right scale h) (two_pow_mul_scale_lt_limit (by decide))
  have hunits := roundUnits_of_representable Nat.one_pos (representable_mul_scale h)
  rw [Nat.mul_one] at hunits
  have hround : nearest n 1 = finite false ⟨n * scale, representable_mul_scale h, hlimit⟩ :=
    round_eq_finite hunits false
  rw [hround, value?, signed]
  push_cast
  congr 1
  field_simp

/-! ## Factors of roundings -/

/-- The most that one rounding adds to a value of one. -/
def roundoff : ℚ := 1 / 2 ^ 53

theorem roundoff_pos : 0 < roundoff := by norm_num [roundoff]

theorem roundoff_lt_one : roundoff < 1 := by norm_num [roundoff]

/-! Roundings up are powers of `1 + roundoff`, and roundings down of `1 - roundoff`. -/

theorem one_le_up (k : ℕ) : 1 ≤ (1 + roundoff) ^ k :=
  one_le_pow₀ (by linarith [roundoff_pos])

theorem up_nonneg (k : ℕ) : 0 ≤ (1 + roundoff) ^ k := zero_le_one.trans (one_le_up k)

theorem up_mono {j k : ℕ} (h : j ≤ k) : (1 + roundoff) ^ j ≤ (1 + roundoff) ^ k :=
  pow_le_pow_right₀ (by linarith [roundoff_pos]) h

theorem down_nonneg (k : ℕ) : 0 ≤ (1 - roundoff) ^ k :=
  pow_nonneg (by linarith [roundoff_lt_one]) k

theorem down_le_one (k : ℕ) : (1 - roundoff) ^ k ≤ 1 :=
  pow_le_one₀ (by linarith [roundoff_lt_one]) (by linarith [roundoff_pos])

theorem down_anti {j k : ℕ} (h : j ≤ k) : (1 - roundoff) ^ k ≤ (1 - roundoff) ^ j :=
  pow_le_pow_of_le_one (by linarith [roundoff_lt_one]) (by linarith [roundoff_pos]) h

/-- The exact value up to `k` roundings. -/
structure Within (k : ℕ) (approx exact : ℚ) : Prop where
  low : exact * (1 - roundoff) ^ k ≤ approx
  high : approx ≤ exact * (1 + roundoff) ^ k

namespace Within

variable {j k : ℕ} {a b c x y : ℚ}

theorem trans (hab : Within j a b) (hbc : Within k b c) : Within (j + k) a c := by
  constructor
  · have := mul_le_mul_of_nonneg_right hbc.low (down_nonneg j)
    rw [mul_assoc, ← pow_add, Nat.add_comm] at this
    exact this.trans hab.low
  · have := mul_le_mul_of_nonneg_right hbc.high (up_nonneg j)
    rw [mul_assoc, ← pow_add, Nat.add_comm] at this
    exact hab.high.trans this

theorem add (ha : Within k a x) (hb : Within k b y) : Within k (a + b) (x + y) := by
  constructor
  · rw [add_mul]
    exact add_le_add ha.low hb.low
  · rw [add_mul]
    exact add_le_add ha.high hb.high

theorem mul_right (ha : Within k a x) (hc : 0 ≤ c) : Within k (a * c) (x * c) := by
  constructor
  · rw [mul_right_comm]
    exact mul_le_mul_of_nonneg_right ha.low hc
  · rw [mul_right_comm]
    exact mul_le_mul_of_nonneg_right ha.high hc

theorem mul (ha : Within j a x) (hb : Within k b y) (hx : 0 ≤ x) (hy : 0 ≤ y) :
    Within (j + k) (a * b) (x * y) := by
  have ha' : 0 ≤ a := (mul_nonneg hx (down_nonneg j)).trans ha.low
  have hb' : 0 ≤ b := (mul_nonneg hy (down_nonneg k)).trans hb.low
  constructor
  · rw [pow_add, mul_mul_mul_comm]
    exact mul_le_mul ha.low hb.low (mul_nonneg hy (down_nonneg k)) ha'
  · rw [pow_add, mul_mul_mul_comm]
    exact mul_le_mul ha.high hb.high hb' (mul_nonneg hx (up_nonneg j))

/-- Three roundings are less than four times the most that one adds. -/
theorem le_of_le_three (h : Within k a x) (hk : k ≤ 3) (hx : 0 ≤ x) :
    a ≤ x * (1 + 4 * roundoff) := by
  have factor : (1 + roundoff) ^ k ≤ 1 + 4 * roundoff := by
    refine (up_mono hk).trans ?_
    norm_num [roundoff]
  exact h.high.trans (mul_le_mul_of_nonneg_left factor hx)

theorem ge_of_le_three (h : Within k a x) (hk : k ≤ 3) (hx : 0 ≤ x) :
    x * (1 - 4 * roundoff) ≤ a := by
  have factor : 1 - 4 * roundoff ≤ (1 - roundoff) ^ k := by
    refine le_trans ?_ (down_anti hk)
    norm_num [roundoff]
  exact (mul_le_mul_of_nonneg_left factor hx).trans h.low

end Within

/-- One rounding of nothing, or of at least 2^52 units, is one factor. -/
theorem within_roundUnits {num den : ℕ} (hden : 0 < den) (h : num = 0 ∨ 2 ^ 52 * den ≤ num) :
    Within 1 (roundUnits num den) (num / den) := by
  rcases h with rfl | hnum
  · constructor <;> simp
  · have hden' : (0 : ℚ) < den := Nat.cast_pos.mpr hden
    have hquotient : 2 ^ 52 ≤ num / den := (Nat.le_div_iff_mul_le hden).mpr hnum
    -- half a gap is at most the quotient's 2^-53
    have hgap : (spacing (num / den) : ℚ) * 2 ^ 52 ≤ num / den := by
      rw [le_div_iff₀ hden']
      have := Nat.mul_le_mul_right den (spacing_mul_le hquotient)
      exact_mod_cast this.trans (Nat.div_mul_le_self num den)
    have high : 2 * ((roundUnits num den : ℚ) * den) ≤ 2 * num + den * spacing (num / den) := by
      exact_mod_cast two_mul_roundUnits_le num den
    have low : 2 * (num : ℚ) ≤ 2 * (roundUnits num den * den) + den * spacing (num / den) := by
      exact_mod_cast two_mul_le_roundUnits hden num
    have hexact : (num : ℚ) = num / den * den := by field_simp
    generalize (num : ℚ) / den = q at hgap hexact ⊢
    generalize (roundUnits num den : ℚ) = r at high low ⊢
    generalize (spacing (num / den) : ℚ) = g at hgap high low
    rw [hexact] at high low
    constructor
    · rw [pow_one, roundoff]
      nlinarith
    · rw [pow_one, roundoff]
      nlinarith

end Binary64

end Reconnect
