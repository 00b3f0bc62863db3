/-
Reconnect.Proofs.Binary64.Bits — numbers and the words that stand for them.

A word is its sign bit, its exponent field and its fraction. Each finite number has one
word, because a magnitude counted in its own gaps fills field and fraction at once; only
not-a-number has many. So equality of numbers as data is equality of their words.

* `fields_eq`: a word from its three parts.
* `toBits_ofBits`: the word of the number that a word stands for.
* `ofBits_eq_ofBits_iff`: when two words stand for the same number.
* `one_le_ofFields`, `ofFields_le_one`: the exponent field tells on which side of one.
-/
import Reconnect.Binary64.Bits
import Reconnect.Proofs.Binary64.Order

namespace Reconnect

namespace Binary64

/-- A word is put together from its sign bit, its exponent field and its fraction. -/
theorem fields_eq (word : UInt64) :
    signBit (1 <<< 63 ≤ word.toNat) +
      (((word.toNat >>> 52) % (1 <<< 11)) <<< 52 + word.toNat % (1 <<< 52)) = word.toNat := by
  have hlt := word.toNat_lt
  simp only [Nat.shiftLeft_eq, Nat.shiftRight_eq_div_pow, signBit, decide_eq_true_eq]
  split <;> omega

/-- Below 2^52 units the gap is one unit. -/
theorem spacing_of_lt {units : Nat} (h : units < 1 <<< 52) : spacing units = 1 := by
  apply Nat.le_antisymm _ (spacing_pos units)
  have hlt : units < 2 ^ (0 + 53) := Nat.lt_trans h (by decide)
  simpa using spacing_le hlt

/-- The significand of a normal number has 53 bits. -/
theorem log2_significand {fraction : Nat} (h : fraction < 1 <<< 52) (shift : Nat) :
    (((1 <<< 52) + fraction) <<< shift).log2 = 52 + shift := by
  have hpos := Nat.two_pow_pos shift
  rw [Nat.one_shiftLeft] at h ⊢
  rw [Nat.shiftLeft_eq, Nat.log2_eq_iff (Nat.mul_ne_zero (by omega) (by omega)), Nat.pow_add,
    show 52 + shift + 1 = 53 + shift by omega, Nat.pow_add]
  exact ⟨Nat.mul_le_mul_right _ (by omega), Nat.mul_lt_mul_of_pos_right (by omega) hpos⟩

theorem toBits_ofFraction (negative : Bool) (fraction : Fin (1 <<< 52)) :
    toBits (finite negative (.ofFraction fraction)) = .ofNat (signBit negative + fraction) := by
  have hgap := spacing_of_lt fraction.isLt
  have hlog : fraction.val.log2 - 52 = 0 := by
    rw [spacing_eq] at hgap
    exact (Nat.pow_eq_one.mp hgap).resolve_left (by decide)
  simp only [toBits, Magnitude.ofFraction, hgap, hlog, Nat.zero_shiftLeft, Nat.div_one,
    Nat.zero_add]

theorem toBits_ofFields (negative : Bool) (fraction : Fin (1 <<< 52)) (shift : Fin 2046) :
    toBits (finite negative (.ofFields fraction shift)) =
      .ofNat (signBit negative + ((shift.val + 1) <<< 52 + fraction)) := by
  have hlog := log2_significand fraction.isLt shift
  have hgap : spacing (((1 <<< 52) + fraction) <<< shift.val) = 2 ^ shift.val := by
    rw [spacing_eq, hlog, Nat.add_sub_cancel_left]
  have hcarry : shift.val <<< 52 + ((1 <<< 52) + fraction.val) =
      (shift.val + 1) <<< 52 + fraction := by
    simp only [Nat.shiftLeft_eq]
    omega
  simp only [toBits, Magnitude.ofFields, hgap, hlog, Nat.add_sub_cancel_left]
  rw [Nat.shiftLeft_eq _ shift.val, Nat.mul_div_cancel _ (Nat.two_pow_pos _), hcarry]

/-- A number that is read from a word has that word. -/
theorem toBits_ofBits {word : UInt64} (h : ofBits word ≠ nan) : toBits (ofBits word) = word := by
  have hfields := fields_eq word
  have hmod : (word.toNat >>> 52) % (1 <<< 11) < 1 <<< 11 := Nat.mod_lt _ (by decide)
  unfold ofBits at h ⊢
  dsimp only at h ⊢
  generalize (word.toNat >>> 52) % (1 <<< 11) = field at hfields hmod h ⊢
  generalize decide (1 <<< 63 ≤ word.toNat) = negative at hfields h ⊢
  -- each kind of field leaves the word in its three parts
  suffices hparts : toBits _ =
      .ofNat (signBit negative + (field <<< 52 + word.toNat % (1 <<< 52))) by
    rw [hparts, hfields, UInt64.ofNat_toNat]
  split
  · next hzero =>
    rw [toBits_ofFraction, hzero, Nat.zero_shiftLeft, Nat.zero_add]
  · next hne =>
    split
    · next hnormal =>
      rw [toBits_ofFields, show field - 1 + 1 = field by omega]
    · next hspecial =>
      have hfield : field = 2047 := by omega
      rw [if_neg hne, dif_neg hspecial] at h
      split
      · next hfraction =>
        rw [hfraction, hfield, Nat.add_zero]
        rfl
      · next hfraction =>
        rw [if_neg hfraction] at h
        exact absurd rfl h

/-- Two words stand for the same number only if they are the same word, or stand for no
number both. -/
theorem ofBits_eq_ofBits_iff {v w : UInt64} :
    ofBits v = ofBits w ↔ v = w ∨ (ofBits v).isNaN = true ∧ (ofBits w).isNaN = true := by
  constructor
  · intro h
    by_cases hnan : ofBits v = nan
    · rw [← h, hnan]
      exact .inr ⟨rfl, rfl⟩
    · have hv := toBits_ofBits hnan
      rw [h] at hnan hv
      exact .inl (hv.symm.trans (toBits_ofBits hnan))
  · rintro (rfl | ⟨hv, hw⟩)
    · rfl
    · rw [eq_nan_of_isNaN hv, eq_nan_of_isNaN hw]

/-! ## The exponent field of one -/

theorem units_ofFields (fraction : Fin (1 <<< 52)) (shift : Fin 2046) :
    (Magnitude.ofFields fraction shift).units = (2 ^ 52 + fraction) * 2 ^ shift.val :=
  Nat.shiftLeft_eq _ _

/-- The significand of one is 2^52. -/
theorem scale_eq_significand : scale = 2 ^ 52 * 2 ^ (unitPlaces - 52) := by
  have hplaces : unitPlaces = 52 + (unitPlaces - 52) := by rw [unitPlaces_eq]
  rw [scale_eq_two_pow, ← Nat.pow_add, ← hplaces]

/-- With the exponent field of one or a greater one, a number is at least one. -/
theorem one_le_ofFields (fraction : Fin (1 <<< 52)) {shift : Fin 2046}
    (h : unitPlaces - 52 ≤ shift.val) : one ≤ finite false (.ofFields fraction shift) := by
  rw [le_of_positions position?_one (position?_magnitude _), Int.ofNat_le, units_ofFields,
    scale_eq_significand]
  exact Nat.mul_le_mul (Nat.le_add_right _ _) (Nat.pow_le_pow_right Nat.two_pos h)

/-- With a smaller one it is at most one. -/
theorem ofFields_le_one (fraction : Fin (1 <<< 52)) {shift : Fin 2046}
    (h : shift.val < unitPlaces - 52) : finite false (.ofFields fraction shift) ≤ one := by
  have hsignificand : 2 ^ 52 + fraction.val ≤ 2 ^ 52 * 2 := by omega
  have hpower : 2 * 2 ^ shift.val ≤ 2 ^ (unitPlaces - 52) := by
    rw [← Nat.pow_succ']
    exact Nat.pow_le_pow_right Nat.two_pos h
  rw [le_of_positions (position?_magnitude _) position?_one, Int.ofNat_le, units_ofFields,
    scale_eq_significand]
  calc (2 ^ 52 + fraction.val) * 2 ^ shift.val
      ≤ 2 ^ 52 * 2 * 2 ^ shift.val := Nat.mul_le_mul_right _ hsignificand
    _ = 2 ^ 52 * (2 * 2 ^ shift.val) := Nat.mul_assoc _ _ _
    _ ≤ 2 ^ 52 * 2 ^ (unitPlaces - 52) := Nat.mul_le_mul_left _ hpower

end Binary64

end Reconnect
