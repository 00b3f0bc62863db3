/-
Reconnect.Proofs.Binary64.Place — numbers at one place.

Comparison sees nothing of a number but its place, and only the two zeros share one. A
product does not tell the zeros apart either, except in the sign of a zero, so places are
all that products and powers need to be told: what is at one place stays at one place.

* `eq_or_zero_of_position?_eq`: only the zeros share a place.
* `position?_mul_of_zero_right`: a product with a zero, of any sign.
* `position?_mul_congr`, `position?_power_congr`: products and powers go by places.
* `isFinite_congr`, `lt_congr`, `eq_of_zero_lt`: so do the other questions.
-/
import Reconnect.Proofs.Binary64.Power

namespace Reconnect

namespace Binary64

variable {x x' y y' : Binary64}

/-! ## The zeros -/

theorem exists_signedZero (h : x.position? = some 0) : ∃ s, x = signedZero s := by
  have hlimit := limit_pos
  cases x with
  | nan => cases h
  | infinite s =>
    rw [position?_infinite, Option.some.injEq] at h
    cases s <;> simp only [signed, if_true, Bool.false_eq_true, if_false] at h <;> omega
  | finite s m =>
    rw [position?_finite, Option.some.injEq] at h
    have hunits : m.units = 0 := by
      cases s <;> simp only [signed, if_true, Bool.false_eq_true, if_false] at h <;> omega
    exact ⟨s, congrArg (finite s) (Magnitude.ext hunits)⟩

/-- Only the two zeros share a place; and not-a-number is one. -/
theorem eq_or_zero_of_position?_eq (h : x.position? = y.position?) :
    x = y ∨ x.position? = some 0 ∧ y.position? = some 0 := by
  cases hx : x.position? with
  | none =>
    rw [hx] at h
    rw [position?_eq_none_iff.mp hx, position?_eq_none_iff.mp h.symm]
    exact .inl rfl
  | some a =>
    rw [hx] at h
    rcases Int.lt_trichotomy a 0 with hneg | rfl | hpos
    · -- the numbers with the other sign are above zero
      left
      obtain ⟨n, hn⟩ := Int.eq_ofNat_of_zero_le (show 0 ≤ -a by omega)
      have hnx : (-x).position? = some (n : Int) := by simp [hx, hn]
      have hny : (-y).position? = some (n : Int) := by simp [← h, hn]
      have heq := eq_of_position? hnx hny (by omega)
      rw [← neg_neg x, heq, neg_neg]
    · exact .inr ⟨rfl, h.symm⟩
    · left
      obtain ⟨n, rfl⟩ := Int.eq_ofNat_of_zero_le (show 0 ≤ a by omega)
      exact eq_of_position? hx h.symm (by omega)

/-! ## Products and powers -/

/-- A product with a zero is at zero, or not-a-number where the other factor is not finite. -/
theorem position?_mul_of_zero_right (x : Binary64) (hy : y.position? = some 0) :
    (x * y).position? = if x.isFinite then some 0 else none := by
  cases hx : x.isFinite with
  | true => exact position?_mul_of_zero hx hy
  | false =>
    obtain ⟨t, rfl⟩ := exists_signedZero hy
    cases x with
    | nan => rfl
    | infinite s => rfl
    | finite s m => cases hx

theorem position?_mul_congr_right (x : Binary64) (h : y.position? = y'.position?) :
    (x * y).position? = (x * y').position? := by
  rcases eq_or_zero_of_position?_eq h with rfl | ⟨hy, hy'⟩
  · rfl
  · rw [position?_mul_of_zero_right x hy, position?_mul_of_zero_right x hy']

/-- Products of numbers at one place each are at one place. -/
theorem position?_mul_congr (hx : x.position? = x'.position?) (hy : y.position? = y'.position?) :
    (x * y).position? = (x' * y').position? := by
  rw [position?_mul_congr_right x hy, Binary64.mul_comm x, Binary64.mul_comm x',
    position?_mul_congr_right y' hx]

/-- Powers of numbers at one place are at one place. -/
theorem position?_power_congr (h : x.position? = y.position?) (n : Nat) :
    (x.power n).position? = (y.power n).position? :=
  powerLoop_rel (R := fun x y => x.position? = y.position?) position?_mul_congr n.log2 n rfl h

/-! ## Other questions -/

theorem isFinite_congr (h : x.position? = y.position?) : x.isFinite = y.isFinite := by
  rcases eq_or_zero_of_position?_eq h with rfl | ⟨hx, hy⟩
  · rfl
  · obtain ⟨s, rfl⟩ := exists_signedZero hx
    obtain ⟨t, rfl⟩ := exists_signedZero hy
    rfl

theorem lt_congr (hx : x.position? = x'.position?) (hy : y.position? = y'.position?) :
    x < y ↔ x' < y' := by
  rw [lt_iff, lt_iff, hx, hy]

/-- A number above zero is the only one at its place. -/
theorem eq_of_zero_lt (hx : zero < x) (h : x.position? = y.position?) : x = y := by
  obtain ⟨a, ha, hplace⟩ := zero_lt_iff.mp hx
  exact eq_of_position? hplace (h ▸ hplace) ha

/-- Numbers that are numerically equal are at one place. -/
theorem position?_eq_of_eq (h : x.eq y = true) : x.position? = y.position? := by
  obtain ⟨a, hx, hy⟩ := eq_iff.mp h
  rw [hx, hy]

end Binary64

end Reconnect
