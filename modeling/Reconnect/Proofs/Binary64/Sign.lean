/-
Reconnect.Proofs.Binary64.Sign — numbers and their negatives.

A product takes its sign from the factors and all else from their magnitudes. So the square
of a number and of its negative are the same, to the last bit, and square and multiply gives
the negative the same powers, but for the sign of those with an odd exponent: only the first
product takes the number itself, and all later ones take squares.

* `neg_mul`, `mul_neg`: products and signs.
* `power_neg`: powers of the negative.
* `isFinite_power_of_between`, `isFinite_power_of_le`: which powers are finite.
-/
import Reconnect.Proofs.Binary64.Unit

namespace Reconnect

namespace Binary64

/-! ## Products -/

@[simp] theorem isFinite_neg (x : Binary64) : (-x).isFinite = x.isFinite := by
  cases x <;> rfl

theorem neg_round (s : Bool) (num den : Nat) : -round s num den = round (!s) num den := by
  unfold round
  split <;> rfl

protected theorem neg_mul (x y : Binary64) : -x * y = -(x * y) := by
  show mul (neg x) y = neg (mul x y)
  cases x with
  | nan => cases y <;> rfl
  | infinite s =>
    cases y with
    | nan => rfl
    | infinite t => simp [mul, neg]
    | finite t n =>
      simp only [mul, neg]
      split <;> simp
  | finite s m =>
    cases y with
    | nan => rfl
    | infinite t =>
      simp only [mul, neg]
      split <;> simp
    | finite t n =>
      show round ((!s) != t) _ _ = -round (s != t) _ _
      simp [neg_round]

protected theorem mul_neg (x y : Binary64) : x * -y = -(x * y) := by
  rw [Binary64.mul_comm, Binary64.neg_mul, Binary64.mul_comm]

/-! ## Powers -/

/-- The loop passes the sign of its result on. -/
theorem powerLoop_neg (halvings exponent : Nat) : ∀ r a : Binary64,
    powerLoop (-r) a exponent halvings = -powerLoop r a exponent halvings := by
  induction halvings generalizing exponent with
  | zero =>
    intro r a
    unfold powerLoop
    split
    · rw [Binary64.neg_mul]
    · rfl
  | succ halvings ih =>
    intro r a
    unfold powerLoop
    split
    · rw [Binary64.neg_mul, ih]
    · rw [ih]

/-- The lowest bit of the exponent decides on the sign; the rest of the loop sees squares. -/
theorem power_neg (x : Binary64) (n : Nat) :
    (-x).power n = if n % 2 = 1 then -x.power n else x.power n := by
  unfold power
  cases n.log2 with
  | zero =>
    simp only [powerLoop, Binary64.mul_neg]
    split <;> rfl
  | succ halvings =>
    simp only [powerLoop, Binary64.mul_neg, Binary64.neg_mul, neg_neg]
    split
    · rw [powerLoop_neg]
    · rfl

@[simp] theorem isFinite_power_neg (x : Binary64) (n : Nat) :
    ((-x).power n).isFinite = (x.power n).isFinite := by
  rw [power_neg]
  split
  · rw [isFinite_neg]
  · rfl

/-! ## Finite powers -/

theorem zero_le_or_zero_le_neg {x : Binary64} (h : x ≠ nan) : zero ≤ x ∨ zero ≤ -x := by
  obtain ⟨a, ha⟩ := exists_position? h
  have hneg : (-x).position? = some (-a) := by simp [ha]
  rw [le_of_positions position?_zero ha, le_of_positions position?_zero hneg]
  omega

theorem neg_le_of_neg_le {x y : Binary64} (h : -x ≤ y) : -y ≤ x := by
  obtain ⟨a, b, ha, hb, hab⟩ := le_iff.mp h
  obtain ⟨c, hc⟩ : ∃ c, x.position? = some c :=
    exists_position? fun hx => (ne_nan_of_le h).1 (by rw [hx]; rfl)
  have hneg : (-y).position? = some (-b) := by simp [hb]
  have hac : -c = a := by simpa [hc] using ha
  rw [le_of_positions hneg hc]
  omega

/-- Powers of a number from minus one to one are all finite. -/
theorem isFinite_power_of_between {x : Binary64} (hlow : -one ≤ x) (hhigh : x ≤ one) (n : Nat) :
    (x.power n).isFinite = true := by
  rcases zero_le_or_zero_le_neg (ne_nan_of_le hhigh).1 with hzero | hzero
  · have hunit := power_unit hzero hhigh n
    exact isFinite_of_le hunit.1 hunit.2 isFinite_one
  · have hunit := power_unit hzero (neg_le_of_neg_le hlow) n
    rw [← isFinite_power_neg]
    exact isFinite_of_le hunit.1 hunit.2 isFinite_one

theorem isFinite_power_of_zero_le {x : Binary64} (hx : zero ≤ x) {n m : Nat} (h : n ≤ m)
    (hm : (x.power m).isFinite = true) : (x.power n).isFinite = true := by
  by_cases hone : one < x
  · have hone' := Binary64.le_of_lt hone
    exact isFinite_of_le (zero_le_power hx n) (power_mono hone' h) hm
  · have hle := (Binary64.not_lt (ne_nan_of_isFinite isFinite_one) (ne_nan_of_le hx).2).mp hone
    have hunit := power_unit hx hle n
    exact isFinite_of_le hunit.1 hunit.2 isFinite_one

/-- Powers that have left the finite range do not come back. -/
theorem isFinite_power_of_le {x : Binary64} (hx : x ≠ nan) {n m : Nat} (h : n ≤ m)
    (hm : (x.power m).isFinite = true) : (x.power n).isFinite = true := by
  rcases zero_le_or_zero_le_neg hx with hzero | hzero
  · exact isFinite_power_of_zero_le hzero h hm
  · rw [← isFinite_power_neg] at *
    exact isFinite_power_of_zero_le hzero h hm

end Binary64

end Reconnect
