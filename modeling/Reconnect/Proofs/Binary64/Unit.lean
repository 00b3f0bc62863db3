/-
Reconnect.Proofs.Binary64.Unit — numbers at or above zero, and those from zero to one.

Zero times an infinity has no place, and nothing else keeps products at or above zero from
being monotone: where they are numbers they are. Between zero and one there are no
infinities, so products stay there and keep the order, down through the smallest numbers to
zero. By square and multiply, powers of such a number then fall with the exponent
(`power_rel_of_le`).

* `zero_le_mul`, `mul_le_mul_of_zero_le`: products at or above zero.
* `mul_between`: a share of a number lies between zero and the number.
* `ShrinksTo`: the order from one down to zero; products keep it.
* `power_unit`, `power_anti`: powers stay from zero to one, and fall with the exponent.
* `zero_le_power`: powers of what is at or above zero, infinities included.
-/
import Reconnect.Proofs.Binary64.Place

namespace Reconnect

namespace Binary64

variable {w x y z : Binary64}

/-! ## Products at or above zero -/

theorem zero_lt_or_position?_eq (h : zero ≤ x) : zero < x ∨ x.position? = some 0 := by
  obtain ⟨a, b, ha, hb, hab⟩ := le_iff.mp h
  obtain rfl : 0 = a := Option.some.inj ha
  rcases Int.lt_or_eq_of_le hab with hlt | rfl
  · exact .inl ((lt_of_positions position?_zero hb).mpr hlt)
  · exact .inr hb

theorem mul_ne_nan (hx : x.isFinite = true) (hy : y.isFinite = true) : x * y ≠ nan := by
  cases x with
  | nan => cases hx
  | infinite s => cases hx
  | finite s m =>
    cases y with
    | nan => cases hy
    | infinite t => cases hy
    | finite t n =>
      rw [finite_mul_finite, Ne, ← position?_eq_none_iff, position?_round]
      nofun

/-- A product with a zero is at zero, if it is a number. -/
theorem position?_mul_of_ne_nan (hzero : x.position? = some 0 ∨ y.position? = some 0)
    (h : x * y ≠ nan) : (x * y).position? = some 0 := by
  have right {v w : Binary64} (hw : w.position? = some 0) (hvw : v * w ≠ nan) :
      (v * w).position? = some 0 := by
    have hplace := position?_mul_of_zero_right v hw
    rw [Ne, ← position?_eq_none_iff, hplace] at hvw
    rw [hplace]
    split at hvw
    · rw [if_pos ‹_›]
    · exact absurd rfl hvw
  rcases hzero with hx | hy
  · rw [Binary64.mul_comm] at h ⊢
    exact right hx h
  · exact right hy h

theorem zero_le_mul (hx : zero ≤ x) (hy : zero ≤ y) (h : x * y ≠ nan) : zero ≤ x * y := by
  have at_zero (hzero : x.position? = some 0 ∨ y.position? = some 0) : zero ≤ x * y :=
    (le_of_positions position?_zero (position?_mul_of_ne_nan hzero h)).mpr (Int.le_refl 0)
  rcases zero_lt_or_position?_eq hx with hx' | hx'
  · rcases zero_lt_or_position?_eq hy with hy' | hy'
    · obtain ⟨a, ha, hxa⟩ := zero_lt_iff.mp hx'
      obtain ⟨b, hb, hyb⟩ := zero_lt_iff.mp hy'
      rw [le_of_positions position?_zero (position?_mul hxa hyb ha hb)]
      exact Int.natCast_nonneg _
    · exact at_zero (.inr hy')
  · exact at_zero (.inl hx')

/-- Products at or above zero are monotone in both factors, where they are numbers. -/
theorem mul_le_mul_of_zero_le (hw : zero ≤ w) (hx : zero ≤ x) (hwy : w ≤ y) (hxz : x ≤ z)
    (h : w * x ≠ nan) (h' : y * z ≠ nan) : w * x ≤ y * z := by
  have at_zero (hzero : w.position? = some 0 ∨ x.position? = some 0) : w * x ≤ y * z := by
    have hyz := zero_le_mul (Binary64.le_trans hw hwy) (Binary64.le_trans hx hxz) h'
    have hplace := position?_mul_of_ne_nan hzero h
    rwa [le_iff, hplace, ← position?_zero, ← le_iff]
  rcases zero_lt_or_position?_eq hw with hw' | hw'
  · rcases zero_lt_or_position?_eq hx with hx' | hx'
    · exact Binary64.mul_le_mul hw' hx' hwy hxz
    · exact at_zero (.inr hx')
  · exact at_zero (.inl hw')

/-! ## From one down to zero -/

theorem isFinite_one : one.isFinite = true := by
  rw [one_eq]
  rfl

protected theorem one_le_one : one ≤ one := Binary64.le_refl (ne_nan_of_isFinite isFinite_one)

protected theorem zero_le_one : zero ≤ one := Binary64.le_of_lt Binary64.zero_lt_one

/-- A share of a finite number lies between zero and the number. -/
theorem mul_between (hx : x.isFinite = true) (hpos : zero ≤ x) (hy : zero ≤ y)
    (hone : y ≤ one) : zero ≤ x * y ∧ x * y ≤ x := by
  have hyf := isFinite_of_le hy hone isFinite_one
  have hproduct := mul_ne_nan hx hyf
  have hself := Binary64.le_refl (ne_nan_of_isFinite hx)
  have hle := mul_le_mul_of_zero_le hpos hy hself hone hproduct (mul_ne_nan hx isFinite_one)
  rw [Binary64.mul_one] at hle
  exact ⟨zero_le_mul hpos hy hproduct, hle⟩

/-- A number of at most one, and one that is not above it and not below zero. -/
structure ShrinksTo (x y : Binary64) : Prop where
  le_one : x ≤ one
  le : y ≤ x
  zero_le : zero ≤ y

namespace ShrinksTo

theorem isFinite (h : ShrinksTo x y) : x.isFinite = true ∧ y.isFinite = true :=
  ⟨isFinite_of_le (Binary64.le_trans h.zero_le h.le) h.le_one isFinite_one,
    isFinite_of_le h.zero_le (Binary64.le_trans h.le h.le_one) isFinite_one⟩

theorem mul (hwx : ShrinksTo w x) (hyz : ShrinksTo y z) : ShrinksTo (w * y) (x * z) where
  le_one := by
    have hw := Binary64.le_trans hwx.zero_le hwx.le
    have hy := Binary64.le_trans hyz.zero_le hyz.le
    exact Binary64.le_trans (mul_between hwx.isFinite.1 hw hy hyz.le_one).2 hwx.le_one
  le := mul_le_mul_of_zero_le hwx.zero_le hyz.zero_le hwx.le hyz.le
    (mul_ne_nan hwx.isFinite.2 hyz.isFinite.2) (mul_ne_nan hwx.isFinite.1 hyz.isFinite.1)
  zero_le := zero_le_mul hwx.zero_le hyz.zero_le (mul_ne_nan hwx.isFinite.2 hyz.isFinite.2)

theorem trans (hxy : ShrinksTo x y) (hyz : ShrinksTo y z) : ShrinksTo x z :=
  ⟨hxy.le_one, Binary64.le_trans hyz.le hxy.le, hyz.zero_le⟩

end ShrinksTo

/-! ## Powers -/

/-- Powers of a number from zero to one fall from one towards zero. -/
theorem shrinksTo_power (hzero : zero ≤ x) (hone : x ≤ one) {n m : Nat} (h : n ≤ m) :
    ShrinksTo (x.power n) (x.power m) := by
  have hstart : ShrinksTo one one :=
    ⟨Binary64.one_le_one, Binary64.one_le_one, Binary64.zero_le_one⟩
  have hfirst : ShrinksTo one x := ⟨Binary64.one_le_one, hone, hzero⟩
  have hself : ShrinksTo x x := ⟨hone, Binary64.le_refl (ne_nan_of_le hone).1, hzero⟩
  exact power_rel_of_le (R := ShrinksTo) ShrinksTo.mul ShrinksTo.trans hstart hfirst hself h

theorem power_anti (hzero : zero ≤ x) (hone : x ≤ one) {n m : Nat} (h : n ≤ m) :
    x.power m ≤ x.power n := (shrinksTo_power hzero hone h).le

theorem power_unit (hzero : zero ≤ x) (hone : x ≤ one) (n : Nat) :
    zero ≤ x.power n ∧ x.power n ≤ one := by
  have hself := shrinksTo_power hzero hone (Nat.le_refl n)
  exact ⟨hself.zero_le, hself.le_one⟩

/-- Powers of a number at or above zero are there too: those of at least one grow from one,
and the others stay from zero to one. -/
theorem zero_le_power (hx : zero ≤ x) (n : Nat) : zero ≤ x.power n := by
  by_cases hone : one < x
  · exact Binary64.le_trans Binary64.zero_le_one (one_le_power (Binary64.le_of_lt hone) n)
  · have hle := (Binary64.not_lt (ne_nan_of_isFinite isFinite_one) (ne_nan_of_le hx).2).mp hone
    exact (power_unit hx hle n).1

/-- Powers of one are one, to the last bit. -/
theorem one_power (n : Nat) : one.power n = one := by
  have hmul {x y : Binary64} (hx : x = one) (hy : y = one) : x * y = one := by
    rw [hx, hy, Binary64.one_mul]
  exact power_tracks (T := fun (_ : Nat) y => y = one) hmul rfl (w := 1) rfl n

end Binary64

end Reconnect
