/-
Reconnect.Proofs.Binary64.Rounding — the laws of rounding to the grid.

Rounding is known by three facts: it is monotone in the exact quotient, it
leaves a grid point where it is, and it moves any other quotient by at most half
a gap. A bound by a grid point therefore survives rounding (`roundUnits_le`,
`le_roundUnits`), and the proofs about sums and products use nothing else.

* `roundDiv_le_roundDiv`, `roundUnits_le_roundUnits`: monotone.
* `roundUnits_of_representable`: exact on the grid.
* `two_mul_roundUnits_le`, `two_mul_le_roundUnits`: within half a gap.
* `roundUnits_of_near`: less than half a gap, on top of a grid point or short of it, is lost.
* `scale_dvd`: from 2^52 on there are whole numbers only.
-/
import Mathlib.Algebra.Group.Nat.Defs
import Reconnect.Binary64.Rounding

namespace Reconnect

/-! ## Rounding to whole numbers -/

/-- The rounded quotient is at most half a divisor too high. -/
theorem two_mul_roundDiv_le (num den : Nat) :
    2 * (roundDiv num den * den) ≤ 2 * num + den := by
  have split := Nat.div_add_mod' num den
  have up : (num / den + 1) * den = num / den * den + den := Nat.succ_mul _ _
  unfold roundDiv
  dsimp only
  split
  · omega
  · split
    · omega
    · rcases Nat.mod_two_eq_zero_or_one (num / den) with even | odd
      · rw [even, Nat.add_zero]
        omega
      · rw [odd]
        omega

/-- The rounded quotient is at most half a divisor too low. -/
theorem two_mul_le_roundDiv {den : Nat} (hden : 0 < den) (num : Nat) :
    2 * num ≤ 2 * (roundDiv num den * den) + den := by
  have split := Nat.div_add_mod' num den
  have rest := Nat.mod_lt num hden
  have up : (num / den + 1) * den = num / den * den + den := Nat.succ_mul _ _
  unfold roundDiv
  dsimp only
  split
  · omega
  · split
    · omega
    · rcases Nat.mod_two_eq_zero_or_one (num / den) with even | odd
      · rw [even, Nat.add_zero]
        omega
      · rw [odd]
        omega

/-- What is closer to `k` than half a divisor rounds to `k`. -/
theorem roundDiv_eq {num den k : Nat} (below : 2 * (k * den) < 2 * num + den)
    (above : 2 * num < 2 * (k * den) + den) : roundDiv num den = k := by
  have hden : 0 < den := by omega
  have high := two_mul_roundDiv_le num den
  have low := two_mul_le_roundDiv hden num
  have le : roundDiv num den < k + 1 := by
    apply Nat.lt_of_mul_lt_mul_right (a := den)
    rw [Nat.succ_mul]
    omega
  have ge : k < roundDiv num den + 1 := by
    apply Nat.lt_of_mul_lt_mul_right (a := den)
    rw [Nat.succ_mul]
    omega
  omega

/-- A whole quotient is its own rounding. -/
theorem roundDiv_mul {den : Nat} (hden : 0 < den) (k : Nat) : roundDiv (k * den) den = k :=
  roundDiv_eq (by omega) (by omega)

@[simp] theorem roundDiv_zero (den : Nat) : roundDiv 0 den = 0 := by
  simp [roundDiv]

/-- A quotient half-way between two whole numbers goes to the even one. -/
theorem roundDiv_mod_two_of_tie {num den : Nat} (hden : 0 < den)
    (h : 2 * num = 2 * (roundDiv num den * den) + den ∨
      2 * (roundDiv num den * den) = 2 * num + den) : roundDiv num den % 2 = 0 := by
  have split := Nat.div_add_mod' num den
  have rest := Nat.mod_lt num hden
  have up : (num / den + 1) * den = num / den * den + den := Nat.succ_mul _ _
  unfold roundDiv at h ⊢
  dsimp only at h ⊢
  by_cases down : 2 * (num % den) < den
  · rw [if_pos down] at h
    omega
  · by_cases more : den < 2 * (num % den)
    · rw [if_neg down, if_pos more] at h
      omega
    · rw [if_neg down, if_neg more]
      omega

/-- Rounding depends on the quotient alone. -/
theorem roundDiv_mul_mul {c : Nat} (hc : 0 < c) (num den : Nat) :
    roundDiv (num * c) (den * c) = roundDiv num den := by
  have twice : 2 * (num % den * c) = 2 * (num % den) * c := (Nat.mul_assoc _ _ _).symm
  unfold roundDiv
  simp only [Nat.mul_div_mul_right _ _ hc, Nat.mul_mod_mul_right, twice, Nat.mul_lt_mul_right hc]

theorem roundDiv_le_roundDiv {num num' : Nat} (h : num ≤ num') (den : Nat) :
    roundDiv num den ≤ roundDiv num' den := by
  rcases Nat.lt_or_eq_of_le (Nat.div_le_div_right (c := den) h) with lt | eq
  · calc roundDiv num den ≤ num / den + 1 := roundDiv_le _ _
      _ ≤ num' / den := lt
      _ ≤ roundDiv num' den := le_roundDiv _ _
  · -- with equal whole parts the order is that of the rests
    have rest : num % den ≤ num' % den := by
      have split := Nat.div_add_mod num den
      have split' := Nat.div_add_mod num' den
      rw [eq] at split
      omega
    unfold roundDiv
    dsimp only
    rw [eq]
    have parity := Nat.mod_lt (num' / den) (show 0 < 2 by decide)
    by_cases down : 2 * (num % den) < den
    · rw [if_pos down]
      split
      · exact Nat.le_refl _
      · split <;> omega
    · rw [if_neg down, if_neg (show ¬ 2 * (num' % den) < den by omega)]
      split <;> split <;> omega

namespace Binary64

/-! ## The gaps of the grid -/

theorem spacing_eq (units : Nat) : spacing units = 2 ^ (units.log2 - 52) := Nat.one_shiftLeft _

theorem scale_eq_two_pow : scale = 2 ^ unitPlaces := by rw [scale_eq, Nat.one_shiftLeft]

theorem limit_eq_two_pow_mul : limit = 2 ^ rangePlaces * scale := by
  rw [limit_eq, Nat.shiftLeft_eq, Nat.mul_comm]

/-- At most 53 bits times a power of two is on the grid. -/
theorem representable_mul_two_pow {significand : Nat} (h : significand ≤ 2 ^ 53) (k : Nat) :
    Representable (significand * 2 ^ k) := by
  rw [← Nat.shiftLeft_eq]
  exact representable_shiftLeft h k

theorem spacing_pos (units : Nat) : 0 < spacing units := by
  rw [spacing_eq]
  exact Nat.two_pow_pos _

theorem log2_le_log2 {a b : Nat} (h : a ≤ b) : a.log2 ≤ b.log2 := by
  rcases Nat.eq_zero_or_pos a with rfl | ha
  · simp
  · rw [Nat.le_log2 (by omega)]
    exact Nat.le_trans (Nat.log2_self_le (by omega)) h

/-- Gaps do not shrink going up. -/
theorem spacing_mono {a b : Nat} (h : a ≤ b) : spacing a ≤ spacing b := by
  rw [spacing_eq, spacing_eq]
  exact Nat.pow_le_pow_right (by decide) (Nat.sub_le_sub_right (log2_le_log2 h) 52)

/-- Below a power of two the gap is at most the one just under it. -/
theorem spacing_le {units k : Nat} (h : units < 2 ^ (k + 53)) : spacing units ≤ 2 ^ k := by
  rw [spacing_eq]
  apply Nat.pow_le_pow_right (by decide)
  rcases Nat.eq_zero_or_pos units with rfl | hpos
  · simp
  · have := (Nat.log2_lt (by omega)).mpr h
    omega

/-- From a power of two on the gap is at least the one just above it. -/
theorem le_spacing {units k : Nat} (h : 2 ^ (k + 52) ≤ units) : 2 ^ k ≤ spacing units := by
  rw [spacing_eq]
  apply Nat.pow_le_pow_right (by decide)
  have hne : units ≠ 0 := by
    have := Nat.two_pow_pos (k + 52)
    omega
  have := (Nat.le_log2 hne).mpr h
  omega

/-- A gap divides the larger powers of two. -/
theorem spacing_dvd_two_pow {units k : Nat} (h : units.log2 - 52 ≤ k) :
    spacing units ∣ 2 ^ k := by
  rw [spacing_eq]
  exact Nat.pow_dvd_pow 2 h

/-- From 2^52 units on, 2^52 gaps fit below a magnitude. -/
theorem spacing_mul_le {units : Nat} (h : 2 ^ 52 ≤ units) : spacing units * 2 ^ 52 ≤ units := by
  have hne : units ≠ 0 := by omega
  have hlog : 52 ≤ units.log2 := (Nat.le_log2 hne).mpr h
  rw [spacing_eq, ← Nat.pow_add, Nat.sub_add_cancel hlog]
  exact Nat.log2_self_le hne

theorem representable_two_pow (k : Nat) : Representable (2 ^ k) := by
  simpa using representable_mul_two_pow (show 1 ≤ 2 ^ 53 by decide) k

theorem representable_mul_scale {n : Nat} (h : n ≤ 2 ^ 53) : Representable (n * scale) := by
  rw [scale_eq_two_pow]
  exact representable_mul_two_pow h _

theorem representable_two_pow_mul_scale (k : Nat) : Representable (2 ^ k * scale) := by
  rw [scale_eq_two_pow, ← Nat.pow_add]
  exact representable_two_pow _

theorem two_pow_mul_scale_lt_limit {k : Nat} (h : k < 1024) : 2 ^ k * scale < limit := by
  rw [limit_eq_two_pow_mul]
  apply Nat.mul_lt_mul_of_pos_right _ scale_pos
  exact Nat.pow_lt_pow_right (by decide) (by rwa [rangePlaces_eq])

theorem two_pow_le_scale {k : Nat} (h : k ≤ 1074) : 2 ^ k ≤ scale := by
  rw [scale_eq_two_pow]
  exact Nat.pow_le_pow_right (by decide) (by rwa [unitPlaces_eq])

/-! ## The gap just below one

It is the 2^53-th part of one. Proofs that compare errors with gaps take it as
`g` with `scale = 2^53 * g`, so that they stay linear in `g`. -/

theorem exists_gap : ∃ g, scale = 2 ^ 53 * g := by
  have := unitPlaces_eq
  rw [scale_eq_two_pow]
  exact Nat.pow_dvd_pow 2 (by omega)

theorem gap_eq {g : Nat} (hg : scale = 2 ^ 53 * g) : g = 2 ^ (unitPlaces - 53) := by
  have := unitPlaces_eq
  apply Nat.eq_of_mul_eq_mul_left (Nat.two_pow_pos 53)
  rw [← hg, scale_eq_two_pow, ← Nat.pow_add]
  congr 1
  omega

theorem representable_mul_gap {g n : Nat} (hg : scale = 2 ^ 53 * g) (h : n ≤ 2 ^ 53) :
    Representable (n * g) := by
  rw [gap_eq hg]
  exact representable_mul_two_pow h _

theorem spacing_le_gaps {g units k : Nat} (hg : scale = 2 ^ 53 * g) (h : units < 2 ^ k * scale) :
    spacing units ≤ 2 ^ k * g := by
  have := unitPlaces_eq
  rw [scale_eq_two_pow, ← Nat.pow_add] at h
  rw [gap_eq hg, ← Nat.pow_add]
  apply spacing_le
  rwa [show k + (unitPlaces - 53) + 53 = k + unitPlaces by omega]

theorem gaps_le_spacing {g units k : Nat} (hg : scale = 2 ^ 53 * g) (h : 2 ^ k * scale ≤ units) :
    2 ^ (k + 1) * g ≤ spacing units := by
  have := unitPlaces_eq
  rw [scale_eq_two_pow, ← Nat.pow_add] at h
  rw [gap_eq hg, ← Nat.pow_add]
  apply le_spacing
  rwa [show k + 1 + (unitPlaces - 53) + 52 = k + unitPlaces by omega]

/-- From 2^52 on the grid holds whole numbers only. -/
theorem scale_dvd {units : Nat} (hunits : Representable units) (h : 2 ^ 52 * scale ≤ units) :
    scale ∣ units := by
  rw [scale_eq_two_pow, ← Nat.pow_add] at h
  have hne : units ≠ 0 := by
    have := Nat.two_pow_pos (52 + unitPlaces)
    omega
  have hlog := (Nat.le_log2 hne).mpr h
  have gap : scale ∣ spacing units := by
    rw [scale_eq_two_pow, spacing_eq]
    exact Nat.pow_dvd_pow 2 (by omega)
  exact Nat.dvd_trans gap hunits

/-! ## Rounding to the grid -/

theorem roundUnits_eq (num den : Nat) :
    roundUnits num den = roundDiv num (den * spacing (num / den)) * spacing (num / den) := rfl

theorem roundUnits_mul (num den : Nat) :
    roundUnits num den * den =
      roundDiv num (den * spacing (num / den)) * (den * spacing (num / den)) := by
  rw [roundUnits_eq, Nat.mul_assoc, Nat.mul_comm den]

/-- The rounded quotient is at most half a gap too high. -/
theorem two_mul_roundUnits_le (num den : Nat) :
    2 * (roundUnits num den * den) ≤ 2 * num + den * spacing (num / den) := by
  rw [roundUnits_mul]
  exact two_mul_roundDiv_le _ _

/-- The rounded quotient is at most half a gap too low. -/
theorem two_mul_le_roundUnits {den : Nat} (hden : 0 < den) (num : Nat) :
    2 * num ≤ 2 * (roundUnits num den * den) + den * spacing (num / den) := by
  rw [roundUnits_mul]
  exact two_mul_le_roundDiv (Nat.mul_pos hden (spacing_pos _)) _

/-- Rounding depends on the quotient alone. -/
theorem roundUnits_mul_mul {c : Nat} (hc : 0 < c) (num den : Nat) :
    roundUnits (num * c) (den * c) = roundUnits num den := by
  rw [roundUnits_eq, roundUnits_eq, Nat.mul_div_mul_right _ _ hc, Nat.mul_right_comm,
    roundDiv_mul_mul hc]

/-- A multiple of the gap above the quotient stays above. -/
theorem roundUnits_le_of_dvd {num den v : Nat} (hden : 0 < den)
    (hv : spacing (num / den) ∣ v) (h : num ≤ v * den) : roundUnits num den ≤ v := by
  obtain ⟨k, rfl⟩ := hv
  rw [roundUnits_eq]
  have gap := spacing_pos (num / den)
  generalize spacing (num / den) = g at *
  have le : roundDiv num (den * g) ≤ k := by
    calc roundDiv num (den * g) ≤ roundDiv (k * (den * g)) (den * g) := by
          apply roundDiv_le_roundDiv
          rwa [Nat.mul_comm den, ← Nat.mul_assoc, Nat.mul_comm k]
      _ = k := roundDiv_mul (Nat.mul_pos hden gap) k
  rw [Nat.mul_comm g]
  exact Nat.mul_le_mul_right g le

/-- A multiple of the gap below the quotient stays below. -/
theorem le_roundUnits_of_dvd {num den v : Nat} (hden : 0 < den)
    (hv : spacing (num / den) ∣ v) (h : v * den ≤ num) : v ≤ roundUnits num den := by
  obtain ⟨k, rfl⟩ := hv
  rw [roundUnits_eq]
  have gap := spacing_pos (num / den)
  generalize spacing (num / den) = g at *
  have le : k ≤ roundDiv num (den * g) := by
    calc k = roundDiv (k * (den * g)) (den * g) := (roundDiv_mul (Nat.mul_pos hden gap) k).symm
      _ ≤ roundDiv num (den * g) := by
          apply roundDiv_le_roundDiv
          rwa [Nat.mul_comm den, ← Nat.mul_assoc, Nat.mul_comm k]
  rw [Nat.mul_comm g]
  exact Nat.mul_le_mul_right g le

/-- A grid point is its own rounding. -/
theorem roundUnits_of_representable {units den : Nat} (hden : 0 < den)
    (h : Representable units) : roundUnits (units * den) den = units := by
  have quotient : units * den / den = units := Nat.mul_div_cancel _ hden
  apply Nat.le_antisymm
  · exact roundUnits_le_of_dvd hden (by rwa [quotient]) (Nat.le_refl _)
  · exact le_roundUnits_of_dvd hden (by rwa [quotient]) (Nat.le_refl _)

theorem roundUnits_le_roundUnits {num num' den : Nat} (hden : 0 < den) (h : num ≤ num') :
    roundUnits num den ≤ roundUnits num' den := by
  have quotients : num / den ≤ num' / den := Nat.div_le_div_right h
  rcases Nat.lt_or_eq_of_le (spacing_mono quotients) with lt | eq
  · -- different gaps: a power of two on both grids lies between the quotients
    have hlog : (num / den).log2 - 52 < (num' / den).log2 - 52 := by
      rw [spacing_eq, spacing_eq] at lt
      exact (Nat.pow_lt_pow_iff_right (by decide)).mp lt
    have below : num / den < 2 ^ (num' / den).log2 :=
      Nat.lt_of_lt_of_le Nat.lt_log2_self (Nat.pow_le_pow_right (by decide) (by omega))
    have above : 2 ^ (num' / den).log2 ≤ num' / den := by
      apply Nat.log2_self_le
      intro zero
      simp [zero] at hlog
    calc roundUnits num den ≤ 2 ^ (num' / den).log2 := by
          apply roundUnits_le_of_dvd hden
          · exact spacing_dvd_two_pow (by omega)
          · exact Nat.le_of_lt ((Nat.div_lt_iff_lt_mul hden).mp below)
      _ ≤ roundUnits num' den := by
          apply le_roundUnits_of_dvd hden
          · exact spacing_dvd_two_pow (by omega)
          · exact (Nat.le_div_iff_mul_le hden).mp above
  · rw [roundUnits_eq, roundUnits_eq, eq]
    exact Nat.mul_le_mul_right _ (roundDiv_le_roundDiv h _)

/-- A grid point above the quotient stays above. -/
theorem roundUnits_le {num den v : Nat} (hden : 0 < den) (hv : Representable v)
    (h : num ≤ v * den) : roundUnits num den ≤ v :=
  calc roundUnits num den ≤ roundUnits (v * den) den := roundUnits_le_roundUnits hden h
    _ = v := roundUnits_of_representable hden hv

/-- A grid point below the quotient stays below. -/
theorem le_roundUnits {num den v : Nat} (hden : 0 < den) (hv : Representable v)
    (h : v * den ≤ num) : v ≤ roundUnits num den :=
  calc v = roundUnits (v * den) den := (roundUnits_of_representable hden hv).symm
    _ ≤ roundUnits num den := roundUnits_le_roundUnits hden h

@[simp] theorem roundUnits_zero (den : Nat) : roundUnits 0 den = 0 := by
  simp [roundUnits]

/-- Less than a gap on top of a grid point stays below the next power of two. -/
theorem spacing_add_of_lt {w f : Nat} (hw : Representable w) (hf : f < spacing w) :
    spacing (w + f) = spacing w := by
  apply Nat.le_antisymm _ (spacing_mono (Nat.le_add_right w f))
  rcases Nat.eq_zero_or_pos w with rfl | hpos
  · have : f = 0 := by simpa [spacing] using hf
    simp [this]
  · -- both the magnitude and the end of its binade are multiples of the gap
    have hlt : w < 2 ^ (w.log2 + 1) := Nat.lt_log2_self
    have hend : spacing w ∣ 2 ^ (w.log2 + 1) := spacing_dvd_two_pow (by omega)
    have room : w + spacing w ≤ 2 ^ (w.log2 + 1) := by
      obtain ⟨i, hi⟩ := hw
      obtain ⟨j, hj⟩ := hend
      have : i < j := by
        apply Nat.lt_of_mul_lt_mul_left (a := spacing w)
        omega
      calc w + spacing w = spacing w * (i + 1) := by rw [Nat.mul_succ, ← hi]
        _ ≤ spacing w * j := Nat.mul_le_mul_left _ this
        _ = 2 ^ (w.log2 + 1) := hj.symm
    have hlog : (w + f).log2 < w.log2 + 1 := by
      rw [Nat.log2_lt (by omega)]
      omega
    rw [spacing_eq, spacing_eq]
    exact Nat.pow_le_pow_right (by decide) (by omega)

/-- Less than half a gap on top of a grid point is lost in rounding. -/
theorem roundUnits_add_of_lt {w f : Nat} (hw : Representable w) (hf : 2 * f < spacing w) :
    roundUnits (w + f) 1 = w := by
  rw [roundUnits_eq, Nat.div_one, spacing_add_of_lt hw (by omega), Nat.one_mul]
  obtain ⟨k, hk⟩ := hw
  have nearest : roundDiv (w + f) (spacing w) = k := by
    rw [Nat.mul_comm] at hk
    apply roundDiv_eq <;> omega
  rw [nearest, Nat.mul_comm, ← hk]

/-- Less than half a gap short of a grid point is lost in rounding. The gap is that below the
point, which at a power of two is half of that above it. -/
theorem roundUnits_sub_of_lt {w f : Nat} (hw : Representable w) (hle : f ≤ w)
    (hf : 2 * f < spacing (w - f)) : roundUnits (w - f) 1 = w := by
  have gap : spacing (w - f) ∣ w := by
    refine Nat.dvd_trans ?_ hw
    rw [spacing_eq w]
    exact spacing_dvd_two_pow (Nat.sub_le_sub_right (log2_le_log2 (Nat.sub_le w f)) 52)
  rw [roundUnits_eq, Nat.div_one, Nat.one_mul]
  generalize spacing (w - f) = g at *
  obtain ⟨k, hk⟩ := gap
  have nearest : roundDiv (w - f) g = k := by
    rw [Nat.mul_comm] at hk
    apply roundDiv_eq <;> omega
  rw [nearest, Nat.mul_comm, ← hk]

/-- What is less than half a gap from a grid point rounds to it. -/
theorem roundUnits_of_near {w q : Nat} (hw : Representable w) (above : 2 * (q - w) < spacing w)
    (below : 2 * (w - q) < spacing q) : roundUnits q 1 = w := by
  rcases Nat.le_total w q with hle | hle
  · have hround := roundUnits_add_of_lt hw above
    rwa [Nat.add_sub_cancel' hle] at hround
  · have hround := roundUnits_sub_of_lt hw (Nat.sub_le w q) (by rwa [Nat.sub_sub_self hle])
    rwa [Nat.sub_sub_self hle] at hround

end Binary64

end Reconnect
