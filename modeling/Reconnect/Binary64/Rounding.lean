/-
Reconnect.Binary64.Rounding — rounding a quotient to the binary64 grid.

Magnitudes are counted in units of 2^-1074, the smallest binary64 number above
zero, so every finite magnitude is a natural number and every exact result of
an operation is a quotient of two.

* `roundDiv`: the whole number nearest to a quotient, ties to even.
* `spacing`: the gap from a magnitude to the next one above it.
* `Representable`: the magnitudes on the grid.
* `roundUnits`: the grid point nearest to a quotient, ties to even.
* `representable_roundUnits`: rounding always lands on the grid.
-/

namespace Reconnect

/-- The whole number nearest to `num / den`; a tie goes to the even neighbour. -/
def roundDiv (num den : Nat) : Nat :=
  let quotient := num / den
  let rest := num % den
  if 2 * rest < den then quotient
  else if den < 2 * rest then quotient + 1
  else quotient + quotient % 2

theorem roundDiv_le (num den : Nat) : roundDiv num den ≤ num / den + 1 := by
  unfold roundDiv
  dsimp only
  split
  · omega
  · split <;> omega

theorem le_roundDiv (num den : Nat) : num / den ≤ roundDiv num den := by
  unfold roundDiv
  dsimp only
  split
  · omega
  · split <;> omega

namespace Binary64

/-! ## The grid -/

/-- One is two to this power of units. -/
@[irreducible] def unitPlaces : Nat := 1074

/-- Two to this power is the first power of two past the finite numbers. -/
@[irreducible] def rangePlaces : Nat := 1024

/-- The number one, in units. -/
@[irreducible] def scale : Nat := 1 <<< unitPlaces

/-- The first power of two past the finite numbers, in units. -/
@[irreducible] def limit : Nat := 1 <<< (rangePlaces + unitPlaces)

theorem unitPlaces_eq : unitPlaces = 1074 := by rw [unitPlaces]

theorem rangePlaces_eq : rangePlaces = 1024 := by rw [rangePlaces]

theorem scale_eq : scale = 1 <<< unitPlaces := by rw [scale]

theorem limit_eq : limit = scale <<< rangePlaces := by
  rw [limit, scale, ← Nat.shiftLeft_add, Nat.add_comm]

theorem scale_pos : 0 < scale := by
  rw [scale_eq, Nat.one_shiftLeft]
  exact Nat.two_pow_pos _

theorem lt_limit_of_lt_shiftLeft {units k : Nat} (h : units < 1 <<< k) (hk : k ≤ 2098) :
    units < limit := by
  have := unitPlaces_eq
  have := rangePlaces_eq
  rw [Nat.one_shiftLeft] at h
  rw [limit, Nat.one_shiftLeft]
  exact Nat.lt_of_lt_of_le h (Nat.pow_le_pow_right (by decide) (by omega))

theorem limit_pos : 0 < limit := lt_limit_of_lt_shiftLeft (k := 0) (by decide) (by decide)

/-- The gap between neighbours on the grid at and above `units`: a significand
has 53 bits, and near zero the gap is one unit. -/
def spacing (units : Nat) : Nat := 1 <<< (units.log2 - 52)

/-- A magnitude of at most 53 significant bits. -/
def Representable (units : Nat) : Prop := spacing units ∣ units

instance (units : Nat) : Decidable (Representable units) :=
  inferInstanceAs (Decidable (_ ∣ _))

/-- The grid point nearest to `num / den` units; a tie goes to the even significand. -/
def roundUnits (num den : Nat) : Nat :=
  let gap := spacing (num / den)
  roundDiv num (den * gap) * gap

/-! ## Rounding lands on the grid -/

theorem representable_zero : Representable 0 := Nat.dvd_zero _

/-- At most 53 bits times a power of two is on the grid. -/
theorem representable_shiftLeft {significand : Nat} (h : significand ≤ 1 <<< 53) (k : Nat) :
    Representable (significand <<< k) := by
  unfold Representable spacing
  rw [Nat.one_shiftLeft] at *
  rw [Nat.shiftLeft_eq]
  rcases Nat.eq_zero_or_pos significand with rfl | hpos
  · simp
  · rcases Nat.lt_or_eq_of_le h with hlt | rfl
    · have hlog : (significand * 2 ^ k).log2 - 52 ≤ k := by
        have hne : significand * 2 ^ k ≠ 0 :=
          Nat.mul_ne_zero (Nat.ne_of_gt hpos) (Nat.ne_of_gt (Nat.two_pow_pos k))
        have : (significand * 2 ^ k).log2 < 53 + k := by
          rw [Nat.log2_lt hne, Nat.pow_add]
          exact Nat.mul_lt_mul_of_pos_right hlt (Nat.two_pow_pos k)
        omega
      exact Nat.dvd_mul_left_of_dvd (Nat.pow_dvd_pow 2 hlog) significand
    · rw [← Nat.pow_add, Nat.log2_two_pow]
      exact Nat.pow_dvd_pow 2 (by omega)

theorem roundDiv_spacing_le (num den : Nat) :
    roundDiv num (den * spacing (num / den)) ≤ 1 <<< 53 := by
  refine Nat.le_trans (roundDiv_le _ _) (Nat.succ_le_of_lt ?_)
  rw [spacing, Nat.one_shiftLeft, Nat.one_shiftLeft]
  rw [← Nat.div_div_eq_div_mul, Nat.div_lt_iff_lt_mul (Nat.two_pow_pos _), ← Nat.pow_add]
  exact Nat.lt_of_lt_of_le Nat.lt_log2_self (Nat.pow_le_pow_right (by decide) (by omega))

/-- Every rounded quotient is on the grid. -/
theorem representable_roundUnits (num den : Nat) : Representable (roundUnits num den) := by
  have := representable_shiftLeft (roundDiv_spacing_le num den) ((num / den).log2 - 52)
  rwa [Nat.shiftLeft_eq, ← Nat.one_shiftLeft] at this

end Binary64

end Reconnect
