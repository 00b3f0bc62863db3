/-
Reconnect.Proofs.Binary64.Order — the order of the numbers, and products in it.

All comparisons go through `position?`, so the order is that of the integers on
everything but not-a-number. A product of two numbers above zero is at the place
`productUnits`, whether or not one of them or the product is infinite; in that
form monotonicity is one statement about natural numbers.

* `le_trans`, `not_lt`, `eq_of_position?`: the order.
* `position?_round`, `round_eq_finite`: rounding in it.
* `position?_add_zero`: zero on top of a number.
* `position?_mul`, `mul_le_mul`: products of numbers above zero.
* `mul_comm`, `one_mul`, `mul_one`: exact laws of products.
-/
import Reconnect.Binary64.Basic
import Reconnect.Proofs.Binary64.Rounding

namespace Reconnect

namespace Binary64

/-! ## The order -/

theorem le_of_positions {x y : Binary64} {a b : Int} (hx : x.position? = some a)
    (hy : y.position? = some b) : x ≤ y ↔ a ≤ b := by
  simp [le_iff, hx, hy]

theorem lt_of_positions {x y : Binary64} {a b : Int} (hx : x.position? = some a)
    (hy : y.position? = some b) : x < y ↔ a < b := by
  simp [lt_iff, hx, hy]

theorem position?_eq_none_iff {x : Binary64} : x.position? = none ↔ x = nan := by
  cases x <;> simp

theorem eq_nan_of_isNaN {x : Binary64} (h : x.isNaN = true) : x = nan := by
  cases x with
  | nan => rfl
  | infinite negative => cases h
  | finite negative m => cases h

/-- What is comparable at all has a place. -/
theorem exists_position? {x : Binary64} (h : x ≠ nan) : ∃ a, x.position? = some a := by
  cases hx : x.position? with
  | none => exact absurd (position?_eq_none_iff.mp hx) h
  | some a => exact ⟨a, rfl⟩

protected theorem le_refl {x : Binary64} (h : x ≠ nan) : x ≤ x := by
  obtain ⟨a, ha⟩ := exists_position? h
  exact (le_of_positions ha ha).mpr (Int.le_refl a)

protected theorem le_trans {x y z : Binary64} (hxy : x ≤ y) (hyz : y ≤ z) : x ≤ z := by
  obtain ⟨a, b, hx, hy, hab⟩ := le_iff.mp hxy
  obtain ⟨b', c, hy', hz, hbc⟩ := le_iff.mp hyz
  rw [hy, Option.some.injEq] at hy'
  exact (le_of_positions hx hz).mpr (by omega)

protected theorem lt_of_lt_of_le {x y z : Binary64} (hxy : x < y) (hyz : y ≤ z) : x < z := by
  obtain ⟨a, b, hx, hy, hab⟩ := lt_iff.mp hxy
  obtain ⟨b', c, hy', hz, hbc⟩ := le_iff.mp hyz
  rw [hy, Option.some.injEq] at hy'
  exact (lt_of_positions hx hz).mpr (by omega)

protected theorem lt_of_le_of_lt {x y z : Binary64} (hxy : x ≤ y) (hyz : y < z) : x < z := by
  obtain ⟨a, b, hx, hy, hab⟩ := le_iff.mp hxy
  obtain ⟨b', c, hy', hz, hbc⟩ := lt_iff.mp hyz
  rw [hy, Option.some.injEq] at hy'
  exact (lt_of_positions hx hz).mpr (by omega)

protected theorem le_of_lt {x y : Binary64} (h : x < y) : x ≤ y := by
  obtain ⟨a, b, hx, hy, hab⟩ := lt_iff.mp h
  exact (le_of_positions hx hy).mpr (Int.le_of_lt hab)

/-- Between two comparable numbers, not below is at or above. -/
protected theorem not_lt {x y : Binary64} (hx : x ≠ nan) (hy : y ≠ nan) : ¬ x < y ↔ y ≤ x := by
  obtain ⟨a, ha⟩ := exists_position? hx
  obtain ⟨b, hb⟩ := exists_position? hy
  rw [lt_of_positions ha hb, le_of_positions hb ha]
  exact Int.not_lt

protected theorem lt_or_le {x y : Binary64} (hx : x ≠ nan) (hy : y ≠ nan) : x < y ∨ y ≤ x := by
  by_cases h : x < y
  · exact .inl h
  · exact .inr ((Binary64.not_lt hx hy).mp h)

protected theorem not_lt_of_le {x y : Binary64} (h : x ≤ y) : ¬ y < x := by
  obtain ⟨a, b, hx, hy, hab⟩ := le_iff.mp h
  rw [lt_of_positions hy hx]
  exact Int.not_lt.mpr hab

/-- Numbers that are not above each other are at one place. -/
theorem position?_eq_of_le_of_le {x y : Binary64} (hxy : x ≤ y) (hyx : y ≤ x) :
    x.position? = y.position? := by
  obtain ⟨a, b, hx, hy, hab⟩ := le_iff.mp hxy
  rw [le_of_positions hy hx] at hyx
  rw [hx, hy, Int.le_antisymm hab hyx]

theorem le_of_eq {x y : Binary64} (h : x.eq y = true) : x ≤ y := by
  obtain ⟨a, hx, hy⟩ := eq_iff.mp h
  exact (le_of_positions hx hy).mpr (Int.le_refl a)

theorem ne_nan_of_le {x y : Binary64} (h : x ≤ y) : x ≠ nan ∧ y ≠ nan := by
  obtain ⟨a, b, hx, hy, -⟩ := le_iff.mp h
  constructor <;> rintro rfl
  · cases hx
  · cases hy

theorem ne_nan_of_lt {x y : Binary64} (h : x < y) : y ≠ nan :=
  (ne_nan_of_le (Binary64.le_of_lt h)).2

theorem ne_nan_of_isFinite {x : Binary64} (h : x.isFinite = true) : x ≠ nan := by
  rintro rfl
  cases h

/-! ## Numbers above zero -/

theorem position?_zero : zero.position? = some 0 := rfl

theorem position?_magnitude (m : Magnitude) :
    (finite false m).position? = some (m.units : Int) := rfl

/-- A place above zero belongs to one number. -/
theorem cases_of_position? {x : Binary64} {a : Nat} (h : x.position? = some (a : Int))
    (ha : 0 < a) :
    (x = infinite false ∧ a = limit) ∨ ∃ m : Magnitude, x = finite false m ∧ m.units = a := by
  have := limit_pos
  cases x with
  | nan => cases h
  | infinite s =>
    cases s <;> simp only [position?_infinite, signed, Option.some.injEq] at h
    · exact .inl ⟨rfl, (Int.ofNat.inj h).symm⟩
    · simp only [if_true] at h
      omega
  | finite s m =>
    cases s <;> simp only [position?_finite, signed, Option.some.injEq] at h
    · exact .inr ⟨m, rfl, Int.ofNat.inj h⟩
    · simp only [if_true] at h
      omega

theorem Magnitude.ext {m n : Magnitude} (h : m.units = n.units) : m = n := by
  cases m
  cases n
  simp_all

/-- Two numbers at one place above zero are the same. -/
theorem eq_of_position? {x y : Binary64} {a : Nat} (hx : x.position? = some (a : Int))
    (hy : y.position? = some (a : Int)) (ha : 0 < a) : x = y := by
  rcases cases_of_position? hx ha with ⟨rfl, hlim⟩ | ⟨m, rfl, hm⟩ <;>
    rcases cases_of_position? hy ha with ⟨rfl, hlim'⟩ | ⟨n, rfl, hn⟩
  · rfl
  · have := n.lt_limit
    omega
  · have := m.lt_limit
    omega
  · rw [Magnitude.ext (hm.trans hn.symm)]

theorem zero_lt_iff {x : Binary64} :
    zero < x ↔ ∃ a : Nat, 0 < a ∧ x.position? = some (a : Int) := by
  rw [lt_iff]
  constructor
  · rintro ⟨z, a, hz, hx, ha⟩
    rw [position?_zero, Option.some.injEq] at hz
    exact ⟨a.toNat, by omega, by rw [hx]; congr 1; omega⟩
  · rintro ⟨a, ha, hx⟩
    exact ⟨0, a, position?_zero, hx, by omega⟩

/-- No place is past the infinities. -/
theorem position?_le_limit {x : Binary64} {a : Nat} (h : x.position? = some (a : Int)) :
    a ≤ limit := by
  rcases Nat.eq_zero_or_pos a with rfl | ha
  · exact Nat.zero_le _
  · rcases cases_of_position? h ha with ⟨-, rfl⟩ | ⟨m, -, rfl⟩
    · exact Nat.le_refl _
    · exact Nat.le_of_lt m.lt_limit

theorem le_infinite {x : Binary64} (h : zero ≤ x) : x ≤ infinite false := by
  obtain ⟨a, b, ha, hb, hab⟩ := le_iff.mp h
  obtain rfl : 0 = a := Option.some.inj ha
  obtain ⟨n, rfl⟩ := Int.eq_ofNat_of_zero_le hab
  rw [le_of_positions hb (position?_infinite false)]
  exact Int.ofNat_le.mpr (position?_le_limit hb)

/-- Between zero and a finite number everything is finite. -/
theorem isFinite_of_le {x y : Binary64} (hx : zero ≤ x) (h : x ≤ y) (hy : y.isFinite = true) :
    x.isFinite = true := by
  cases x with
  | nan => exact absurd rfl (ne_nan_of_le h).1
  | finite _ _ => rfl
  | infinite s =>
    have hlim := limit_pos
    cases s with
    | true =>
      rw [le_of_positions position?_zero (position?_infinite _)] at hx
      simp only [signed, if_true] at hx
      omega
    | false =>
      cases y with
      | nan => cases hy
      | infinite _ => cases hy
      | finite t m =>
        have hm := m.lt_limit
        rw [le_of_positions (position?_infinite _) (position?_finite _ _)] at h
        cases t <;> simp [signed] at h <;> omega

/-! ## Rounding -/

theorem position?_round (s : Bool) (num den : Nat) :
    (round s num den).position? = some (signed s (min (roundUnits num den) limit)) := by
  unfold round
  split
  · rw [position?_finite, Nat.min_eq_left (by omega)]
  · rw [position?_infinite, Nat.min_eq_right (by omega)]

/-- The closest numbers are in the order of the quotients. -/
theorem nearest_mono {den : Nat} (hden : 0 < den) {a b : Nat} (h : a ≤ b) :
    nearest a den ≤ nearest b den := by
  have hunits := roundUnits_le_roundUnits hden (Nat.mul_le_mul_right scale h)
  unfold nearest
  rw [le_of_positions (position?_round false _ _) (position?_round false _ _)]
  simp only [signed, Bool.false_eq_true, if_false]
  omega

/-- Powers of two within the range are on the grid. -/
theorem position?_nearest_two_pow {k : Nat} (h : k < 1024) :
    (nearest (2 ^ k) 1).position? = some ((2 ^ k * scale : Nat) : Int) := by
  have hunits := roundUnits_of_representable Nat.one_pos (representable_two_pow_mul_scale k)
  rw [Nat.mul_one] at hunits
  have hlimit := Nat.le_of_lt (two_pow_mul_scale_lt_limit h)
  rw [nearest, position?_round, hunits, Nat.min_eq_left hlimit]
  rfl

/-- A number between zero and a power of two within the range is a magnitude below it. -/
theorem exists_magnitude {x : Binary64} {k : Nat} (hk : k < 1024) (hpos : zero < x)
    (hlt : x < nearest (2 ^ k) 1) :
    ∃ m : Magnitude, x = finite false m ∧ 0 < m.units ∧ m.units < 2 ^ k * scale := by
  obtain ⟨a, ha, hplace⟩ := zero_lt_iff.mp hpos
  rw [lt_of_positions hplace (position?_nearest_two_pow hk), Int.ofNat_lt] at hlt
  rcases cases_of_position? hplace ha with ⟨-, rfl⟩ | ⟨m, rfl, rfl⟩
  · exact absurd hlt (Nat.lt_asymm (two_pow_mul_scale_lt_limit hk))
  · exact ⟨m, rfl, ha, hlt⟩

/-- A quotient that rounds to a magnitude gives the number with it. -/
theorem round_eq_finite {num den : Nat} {m : Magnitude} (h : roundUnits num den = m.units)
    (s : Bool) : round s num den = finite s m := by
  unfold round
  rw [dif_pos (h ▸ m.lt_limit)]
  congr 1
  exact Magnitude.ext h

/-- A magnitude is its own rounding, over any denominator. -/
theorem round_magnitude {den : Nat} (hden : 0 < den) (s : Bool) (m : Magnitude) :
    round s (m.units * den) den = finite s m :=
  round_eq_finite (roundUnits_of_representable hden m.representable) s

/-- Zero on top moves no number; it only takes the sign from a zero. -/
theorem position?_add_zero (x : Binary64) : (x + zero).position? = x.position? := by
  cases x with
  | nan => rfl
  | infinite s => rfl
  | finite s m =>
    show (addSigned s m.units false 0).position? = _
    have hround : round s m.units 1 = finite s m := by
      simpa using round_magnitude Nat.one_pos s m
    unfold addSigned
    split
    · rw [Nat.add_zero, hround]
    · split
      · rw [Nat.sub_zero, hround]
      · rename_i hpos
        rw [if_neg (by omega), position?_finite, show m.units = 0 by omega]
        simp [position?_zero, signed]

/-! ## One -/

theorem representable_scale : Representable scale := by
  simpa using representable_mul_scale (n := 1) (by decide)

theorem scale_lt_limit : scale < limit := by
  rw [limit_eq_two_pow_mul, rangePlaces_eq]
  have := scale_pos
  omega

/-- The magnitude of one. -/
def Magnitude.one : Magnitude := ⟨scale, representable_scale, scale_lt_limit⟩

@[simp] theorem Magnitude.units_one : Magnitude.one.units = scale := rfl

theorem one_eq : one = finite false .one := by
  unfold one nearest
  rw [Nat.one_mul]
  simpa using round_magnitude Nat.one_pos false .one

theorem position?_one : one.position? = some (scale : Int) := by
  rw [one_eq, position?_magnitude, Magnitude.units_one]

protected theorem zero_lt_one : zero < one := zero_lt_iff.mpr ⟨scale, scale_pos, position?_one⟩

theorem finite_mul_finite (s t : Bool) (a b : Magnitude) :
    finite s a * finite t b = round (s != t) (a.units * b.units) scale := rfl

theorem finite_mul_infinite (s t : Bool) {a : Magnitude} (ha : 0 < a.units) :
    finite s a * infinite t = infinite (s != t) := if_neg (Nat.ne_of_gt ha)

theorem infinite_mul_finite (s t : Bool) {b : Magnitude} (hb : 0 < b.units) :
    infinite s * finite t b = infinite (s != t) := if_neg (Nat.ne_of_gt hb)

theorem infinite_mul_infinite (s t : Bool) :
    infinite s * infinite t = infinite (s != t) := rfl

protected theorem mul_comm (x y : Binary64) : x * y = y * x := by
  show mul x y = mul y x
  cases x <;> cases y <;> simp only [mul, bne_comm, Nat.mul_comm]

/-- One times a number is the number, to the last bit and sign. -/
protected theorem one_mul (x : Binary64) : one * x = x := by
  rw [one_eq]
  cases x with
  | nan => rfl
  | infinite s =>
    rw [finite_mul_infinite _ _ scale_pos]
    simp
  | finite s m =>
    rw [finite_mul_finite, Nat.mul_comm]
    simpa using round_magnitude scale_pos (false != s) m

/-- A number times one is the number, to the last bit and sign. -/
protected theorem mul_one (x : Binary64) : x * one = x := by
  rw [Binary64.mul_comm, Binary64.one_mul]

/-! ## Products above zero -/

/-- A finite number times zero is at zero. -/
theorem position?_mul_of_zero {x y : Binary64} (hx : x.isFinite = true)
    (hy : y.position? = some 0) : (x * y).position? = some 0 := by
  have hlimit := limit_pos
  cases x with
  | nan => cases hx
  | infinite s => cases hx
  | finite s m =>
    cases y with
    | nan => cases hy
    | infinite t => cases t <;> simp [signed] at hy <;> omega
    | finite t n =>
      have hn : n.units = 0 := by
        cases t <;> simpa [signed] using hy
      rw [finite_mul_finite, position?_round, hn]
      simp [signed]

/-- A product above zero with a magnitude has both factors above zero. -/
theorem zero_lt_of_zero_lt_mul {m : Magnitude} {y : Binary64} (h : zero < finite false m * y) :
    0 < m.units ∧ zero < y := by
  have hlimit := limit_pos
  obtain ⟨a, ha, hplace⟩ := zero_lt_iff.mp h
  rw [Nat.pos_iff_ne_zero]
  cases y with
  | nan => cases hplace
  | infinite t =>
    by_cases hm : m.units = 0
    · rw [show finite false m * infinite t = nan from if_pos hm] at hplace
      cases hplace
    · rw [finite_mul_infinite _ _ (Nat.pos_of_ne_zero hm)] at hplace
      cases t with
      | false => exact ⟨hm, zero_lt_iff.mpr ⟨limit, hlimit, rfl⟩⟩
      | true =>
        simp [signed] at hplace
        omega
  | finite t n =>
    rw [finite_mul_finite, position?_round] at hplace
    cases t with
    | true =>
      simp [signed] at hplace
      omega
    | false =>
      simp only [bne_self_eq_false, signed, Bool.false_eq_true, if_false,
        Option.some.injEq] at hplace
      have hproduct : m.units * n.units ≠ 0 := by
        intro hzero
        rw [hzero, roundUnits_zero] at hplace
        omega
      obtain ⟨hm, hn⟩ := Nat.mul_ne_zero_iff.mp hproduct
      exact ⟨hm, zero_lt_iff.mpr ⟨n.units, Nat.pos_of_ne_zero hn, rfl⟩⟩

/-- The place of the product of the numbers at two places above zero. -/
def productUnits (a b : Nat) : Nat :=
  if a = limit ∨ b = limit then limit else min (roundUnits (a * b) scale) limit

theorem productUnits_le_limit (a b : Nat) : productUnits a b ≤ limit := by
  unfold productUnits
  split
  · exact Nat.le_refl _
  · exact Nat.min_le_right _ _

theorem position?_mul {x y : Binary64} {a b : Nat} (hx : x.position? = some (a : Int))
    (hy : y.position? = some (b : Int)) (ha : 0 < a) (hb : 0 < b) :
    (x * y).position? = some (productUnits a b : Int) := by
  unfold productUnits
  rcases cases_of_position? hx ha with ⟨rfl, hlim⟩ | ⟨m, rfl, rfl⟩ <;>
    rcases cases_of_position? hy hb with ⟨rfl, hlim'⟩ | ⟨n, rfl, rfl⟩
  · rw [if_pos (.inl hlim), infinite_mul_infinite]
    rfl
  · rw [if_pos (.inl hlim), infinite_mul_finite _ _ hb]
    rfl
  · rw [if_pos (.inr hlim'), finite_mul_infinite _ _ ha]
    rfl
  · have := m.lt_limit
    have := n.lt_limit
    rw [if_neg (by omega), finite_mul_finite, position?_round]
    rfl

theorem productUnits_mono {a b a' b' : Nat} (ha : a ≤ a') (hb : b ≤ b') (ha' : a' ≤ limit)
    (hb' : b' ≤ limit) : productUnits a b ≤ productUnits a' b' := by
  by_cases h : a' = limit ∨ b' = limit
  · calc productUnits a b ≤ limit := productUnits_le_limit a b
      _ = productUnits a' b' := (if_pos h).symm
  · have := roundUnits_le_roundUnits scale_pos (Nat.mul_le_mul ha hb)
    unfold productUnits
    rw [if_neg h, if_neg (by omega)]
    omega

/-- Products above zero are monotone in both factors. -/
protected theorem mul_le_mul {w x y z : Binary64} (hw : zero < w) (hx : zero < x) (hwy : w ≤ y)
    (hxz : x ≤ z) : w * x ≤ y * z := by
  obtain ⟨a, ha, wa⟩ := zero_lt_iff.mp hw
  obtain ⟨b, hb, xb⟩ := zero_lt_iff.mp hx
  obtain ⟨c, hc, yc⟩ := zero_lt_iff.mp (Binary64.lt_of_lt_of_le hw hwy)
  obtain ⟨d, hd, zd⟩ := zero_lt_iff.mp (Binary64.lt_of_lt_of_le hx hxz)
  rw [le_of_positions wa yc] at hwy
  rw [le_of_positions xb zd] at hxz
  rw [le_of_positions (position?_mul wa xb ha hb) (position?_mul yc zd hc hd)]
  exact Int.ofNat_le.mpr (productUnits_mono (Int.ofNat_le.mp hwy) (Int.ofNat_le.mp hxz)
    (position?_le_limit yc) (position?_le_limit zd))

theorem zero_lt_of_one_le {x : Binary64} (h : one ≤ x) : zero < x :=
  Binary64.lt_of_lt_of_le Binary64.zero_lt_one h

/-- What is at least one stays so in products. -/
theorem one_le_mul {x y : Binary64} (hx : one ≤ x) (hy : one ≤ y) : one ≤ x * y := by
  have := Binary64.mul_le_mul Binary64.zero_lt_one Binary64.zero_lt_one hx hy
  rwa [Binary64.one_mul] at this

end Binary64

end Reconnect
