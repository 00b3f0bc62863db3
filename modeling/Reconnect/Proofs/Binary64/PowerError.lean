/-
Reconnect.Proofs.Binary64.PowerError — how far a rounded power is from the exact one.

Square and multiply rounds products of rounded products, so the squares carry the roundings
of their factors twice. What a rounded product is off by goes by the number of its factors
all the same: one of `j` factors has `j - 1` roundings at most, and so the product of two of
them, with `j` and `k` factors, has `(j - 1) + (k - 1) + 1`. The loop starts with no factor,
and the product with the one it starts from is exact.

Past the finite range a rounded product may be below the exact one by any amount, but it is
at the limit then, and the exact one is there too, up to its roundings.

* `Reaches`: the exact value up to a number of roundings, as far as the finite range goes.
* `Reaches.productUnits`: one product is one more rounding.
* `rounded_power`: the power with exponent `k + 1` has `k` roundings at most.
-/
import Mathlib.Algebra.Group.Action.Defs
import Mathlib.Algebra.Group.Prod
import Mathlib.Algebra.Group.TypeTags.Basic
import Reconnect.Proofs.Binary64.Error
import Reconnect.Proofs.Binary64.Power

namespace Reconnect

namespace Binary64

/-! ## The end of the finite range -/

/-- The place of an exact number of units up to `k` roundings; at the limit nothing is said of
how much the exact number is above. -/
structure Reaches (k a : ℕ) (exact : ℚ) : Prop where
  low : a < limit → exact * (1 - roundoff) ^ k ≤ a
  high : a ≤ exact * (1 + roundoff) ^ k

theorem Within.reaches {k a : ℕ} {exact : ℚ} (h : Within k a exact) :
    Reaches k (min a limit) exact := by
  constructor
  · intro hlt
    rw [Nat.min_eq_left (by omega)]
    exact h.low
  · refine le_trans ?_ h.high
    exact_mod_cast Nat.min_le_left a limit

section

variable {j k a b : ℕ} {v w : ℚ}

theorem Reaches.within (h : Reaches k a v) (ha : a < limit) : Within k a v := ⟨h.low ha, h.high⟩

theorem Reaches.pos (h : Reaches k a (v * scale)) (ha : scale ≤ a) : 0 < v := by
  have hscale := scale_pos_rat
  have hplace : (scale : ℚ) ≤ a := by exact_mod_cast ha
  by_contra hneg
  have hexact : v * scale * (1 + roundoff) ^ k ≤ 0 :=
    mul_nonpos_of_nonpos_of_nonneg
      (mul_nonpos_of_nonpos_of_nonneg (not_lt.mp hneg) hscale.le) (up_nonneg k)
  linarith [h.high]

/-- A factor of at least one does not bring what is past the finite range back. -/
theorem limit_le_of_reaches (ha : Reaches j limit (v * scale)) (hb : Reaches k b (w * scale))
    (hb' : scale ≤ b) : limit ≤ v * w * scale * (1 + roundoff) ^ (j + k + 1) := by
  have hscale := scale_pos_rat
  have hone : 1 ≤ 1 + roundoff := by linarith [roundoff_pos]
  have hfactor : 1 ≤ w * (1 + roundoff) ^ k := by
    have hplace : (scale : ℚ) ≤ b := by exact_mod_cast hb'
    have := hplace.trans hb.high
    rw [mul_right_comm] at this
    exact le_of_mul_le_mul_right (by rwa [one_mul]) hscale
  have hlimit : (0 : ℚ) ≤ v * scale * (1 + roundoff) ^ j :=
    le_trans (Nat.cast_nonneg limit) ha.high
  calc (limit : ℚ) ≤ v * scale * (1 + roundoff) ^ j := ha.high
    _ ≤ v * scale * (1 + roundoff) ^ j * (w * (1 + roundoff) ^ k) :=
        le_mul_of_one_le_right hlimit hfactor
    _ ≤ v * scale * (1 + roundoff) ^ j * (w * (1 + roundoff) ^ k) * (1 + roundoff) :=
        le_mul_of_one_le_right (mul_nonneg hlimit (by linarith)) hone
    _ = v * w * scale * (1 + roundoff) ^ (j + k + 1) := by ring

/-- A product of finite places is one more rounding. -/
theorem within_roundUnits_mul {x y : ℚ} (ha : Within j a x) (hb : Within k b y) (hx : 0 ≤ x)
    (hy : 0 ≤ y) (normal : a * b = 0 ∨ 2 ^ 52 * scale ≤ a * b) :
    Within (j + k + 1) (roundUnits (a * b) scale) (x * y / scale) := by
  have product := (ha.mul hb hx hy).mul_right (c := 1 / scale) (by positivity)
  have rounding := within_roundUnits scale_pos normal
  rw [Nat.cast_mul] at rounding
  rw [mul_one_div, mul_one_div] at product
  rw [Nat.add_comm]
  exact rounding.trans product

theorem Reaches.productUnits (ha : Reaches j a (v * scale)) (hb : Reaches k b (w * scale))
    (ha' : scale ≤ a) (hb' : scale ≤ b) (hlimit : a ≤ limit) (hlimit' : b ≤ limit) :
    Reaches (j + k + 1) (productUnits a b) (v * w * scale) := by
  unfold Binary64.productUnits
  split
  · rename_i hpast
    constructor
    · intro hlt
      exact absurd hlt (Nat.lt_irrefl _)
    · rcases hpast with rfl | rfl
      · exact limit_le_of_reaches ha hb hb'
      · rw [mul_comm v, Nat.add_comm j]
        exact limit_le_of_reaches hb ha ha'
  · have hscale := scale_pos_rat
    have hv := ha.pos ha'
    have hw := hb.pos hb'
    have normal : 2 ^ 52 * scale ≤ a * b :=
      Nat.mul_le_mul ((two_pow_le_scale (by norm_num)).trans ha') hb'
    have product := within_roundUnits_mul (ha.within (by omega)) (hb.within (by omega))
      (by positivity) (by positivity) (.inr normal)
    have exact : v * scale * (w * scale) / scale = v * w * scale := by field_simp
    rw [exact] at product
    exact product.reaches

end

/-! ## Powers -/

/-- A number of at least one that is an exact value up to `k` roundings. -/
def Rounded (k : ℕ) (v : ℚ) (x : Binary64) : Prop :=
  one ≤ x ∧ ∃ a : ℕ, x.position? = some (a : ℤ) ∧ Reaches k a (v * scale)

theorem scale_le_of_one_le {x : Binary64} {a : ℕ} (h : one ≤ x)
    (hx : x.position? = some (a : ℤ)) : scale ≤ a := by
  rw [le_of_positions position?_one hx] at h
  omega

theorem rounded_of_value? {x : Binary64} {v : ℚ} (hx : x.value? = some v) (hv : 1 ≤ v) :
    Rounded 0 v x := by
  have hscale := scale_pos_rat
  obtain ⟨a, hplace, ha⟩ := position?_of_value? hx
  have hle : (scale : ℚ) ≤ a := by
    rw [ha]
    exact le_mul_of_one_le_left hscale.le hv
  have hone : (scale : ℤ) ≤ a := by exact_mod_cast hle
  obtain ⟨n, rfl⟩ := Int.eq_ofNat_of_zero_le ((Int.natCast_nonneg scale).trans hone)
  refine ⟨(le_of_positions position?_one hplace).mpr hone, n, hplace, ?_⟩
  have hn : (n : ℚ) = v * scale := by exact_mod_cast ha
  constructor
  · intro _
    rw [hn, pow_zero, mul_one]
  · rw [hn, pow_zero, mul_one]

theorem Rounded.mul {j k : ℕ} {v w : ℚ} {x y : Binary64} (hx : Rounded j v x)
    (hy : Rounded k w y) : Rounded (j + k + 1) (v * w) (x * y) := by
  have hscale := scale_pos
  obtain ⟨hx', a, hxa, ha⟩ := hx
  obtain ⟨hy', b, hyb, hb⟩ := hy
  have hsa := scale_le_of_one_le hx' hxa
  have hsb := scale_le_of_one_le hy' hyb
  refine ⟨one_le_mul hx' hy', _, position?_mul hxa hyb (by omega) (by omega), ?_⟩
  exact ha.productUnits hb hsa hsb (position?_le_limit hxa) (position?_le_limit hyb)

/-- A rounded product of so many factors: the number one of none, and one rounding less than
there are factors else. -/
def RoundedProduct (exact : ℚ × Multiplicative ℕ) (x : Binary64) : Prop :=
  exact = 1 ∧ x = one ∨ ∃ k, exact.2 = .ofAdd (k + 1) ∧ Rounded k exact.1 x

theorem RoundedProduct.mul {v w : ℚ × Multiplicative ℕ} {x y : Binary64}
    (hx : RoundedProduct v x) (hy : RoundedProduct w y) : RoundedProduct (v * w) (x * y) := by
  rcases hx with ⟨rfl, rfl⟩ | ⟨j, hj, hx⟩
  · rw [one_mul, Binary64.one_mul]
    exact hy
  · rcases hy with ⟨rfl, rfl⟩ | ⟨k, hk, hy⟩
    · rw [mul_one, Binary64.mul_one]
      exact .inr ⟨j, hj, hx⟩
    · refine .inr ⟨j + k + 1, ?_, hx.mul hy⟩
      rw [Prod.snd_mul, hj, hk, ← ofAdd_add]
      congr 1
      omega

/-- **The error of a power**: one rounding less than there are factors, in whatever order the
loop multiplies them. -/
theorem rounded_power {x : Binary64} {v : ℚ} (hx : x.value? = some v) (hv : 1 ≤ v) (k : ℕ) :
    Rounded k (v ^ (k + 1)) (x.power (k + 1)) := by
  have single : RoundedProduct (v, .ofAdd 1) x := .inr ⟨0, rfl, rounded_of_value? hx hv⟩
  have product := power_tracks RoundedProduct.mul (.inl ⟨rfl, rfl⟩) single (k + 1)
  rw [Prod.pow_mk, ← ofAdd_nsmul, smul_eq_mul, mul_one] at product
  rcases product with ⟨hone, -⟩ | ⟨count, hcount, hpower⟩
  · have hzero : k + 1 = 0 := Multiplicative.ofAdd.injective (congrArg Prod.snd hone)
    omega
  · have hk : k + 1 = count + 1 := Multiplicative.ofAdd.injective hcount
    obtain rfl : k = count := by omega
    exact hpower

end Binary64

end Reconnect
