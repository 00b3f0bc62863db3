/-
Reconnect.Proofs.Duration.Seconds — what the way to binary64 seconds and back
keeps.

`units d` is the magnitude of `d.toSeconds`: whole seconds and fraction are
rounded each, then their sum. Three roundings are not one, so the result need not
be the number nearest to the duration; `units_le` says that it is still one of
its two neighbours on the grid. On the way back `nearestNanos` rounds once more.

* `toSeconds_eq`, `ofSeconds_of_position`: the two ways as functions of units.
* `toSeconds_mono`, `ofSeconds_le_ofSeconds`: both ways are monotone.
* `units_le`: a grid point above a duration is above its seconds.
* `parts_error`: what the roundings of the parts are off.
* `ofSeconds_toSeconds`: below 2^23 seconds the way there and back is exact,
  because a gap there is less than one nanosecond.
* `within_units`, `within_nanos`: the seconds are the exact ones up to two roundings.
* `nearestNanos_le_inNanos`, `le_nearestNanos`: the way back is half a nanosecond off at most.
-/
import Reconnect.Duration.Basic
import Reconnect.Proofs.Binary64.Error

namespace Reconnect

namespace Duration

open Binary64

/-! ## Seconds as units -/

/-- The whole seconds, in units. -/
def wholeUnits (d : Duration) : Nat := roundUnits (d.secs * scale) 1

/-- The nanoseconds beyond the whole seconds, in units. -/
def fractionUnits (d : Duration) : Nat := roundUnits (d.subsecNanos * scale) 1_000_000_000

/-- The seconds of a duration, in units. -/
def units (d : Duration) : Nat := roundUnits (d.wholeUnits + d.fractionUnits) 1

theorem nanos_eq (d : Duration) : d.nanos = d.secs * 1_000_000_000 + d.subsecNanos := by
  unfold secs subsecNanos
  omega

theorem nanos_lt_of_secs_lt {d : Duration} {s : Nat} (h : d.secs < s) :
    d.nanos < s * 1_000_000_000 := by
  have := d.nanos_eq
  have := d.subsecNanos_lt
  omega

theorem wholeUnits_of_le {d : Duration} (h : d.secs ≤ 2 ^ 53) :
    d.wholeUnits = d.secs * scale := by
  simpa [wholeUnits] using roundUnits_of_representable Nat.one_pos (representable_mul_scale h)

theorem wholeUnits_le (d : Duration) : d.wholeUnits ≤ 2 ^ 64 * scale := by
  apply roundUnits_le Nat.one_pos (representable_two_pow_mul_scale 64)
  rw [Nat.mul_one]
  exact Nat.mul_le_mul_right _ (Nat.le_of_lt d.secs_lt)

/-- The error of the fraction is at most half the gap below one. -/
theorem fractionUnits_error {g : Nat} (hg : scale = 2 ^ 53 * g) (d : Duration) :
    2 * (d.fractionUnits * 1_000_000_000) ≤ 2 * (d.subsecNanos * scale) + 1_000_000_000 * g ∧
      2 * (d.subsecNanos * scale) ≤ 2 * (d.fractionUnits * 1_000_000_000) + 1_000_000_000 * g := by
  have gap : spacing (d.subsecNanos * scale / 1_000_000_000) ≤ 2 ^ 0 * g := by
    apply spacing_le_gaps hg
    rw [Nat.div_lt_iff_lt_mul (by norm_num), pow_zero, one_mul, Nat.mul_comm scale]
    exact Nat.mul_lt_mul_of_pos_right d.subsecNanos_lt scale_pos
  have high := two_mul_roundUnits_le (d.subsecNanos * scale) 1_000_000_000
  have low := two_mul_le_roundUnits (show 0 < 1_000_000_000 by norm_num) (d.subsecNanos * scale)
  unfold fractionUnits
  omega

/-- A fraction of a second stays below one: it is at least a nanosecond away. -/
theorem fractionUnits_lt (d : Duration) : d.fractionUnits < scale := by
  obtain ⟨g, hg⟩ := exists_gap
  have hpos := scale_pos
  have nanosecond : d.subsecNanos * scale ≤ (1_000_000_000 - 1) * scale :=
    Nat.mul_le_mul_right _ (Nat.le_pred_of_lt d.subsecNanos_lt)
  have below : d.fractionUnits ≤ (2 ^ 53 - 1) * g :=
    roundUnits_le (by norm_num) (representable_mul_gap hg (by norm_num)) (by omega)
  omega

theorem units_le_two_pow (d : Duration) : d.units ≤ 2 ^ 65 * scale := by
  have whole := d.wholeUnits_le
  have fraction := d.fractionUnits_lt
  exact roundUnits_le Nat.one_pos (representable_two_pow_mul_scale 65) (by omega)

theorem units_lt_limit (d : Duration) : d.units < limit := by
  exact Nat.lt_of_le_of_lt d.units_le_two_pow (two_pow_mul_scale_lt_limit (by decide))

/-- The magnitude of the seconds of a duration. -/
def magnitude (d : Duration) : Magnitude :=
  ⟨d.units, representable_roundUnits _ _, d.units_lt_limit⟩

theorem finite_add_finite (a b : Magnitude) :
    finite false a + finite false b = round false (a.units + b.units) 1 := rfl

theorem toSeconds_eq (d : Duration) : d.toSeconds = finite false d.magnitude := by
  have wholeLt : d.wholeUnits < limit :=
    Nat.lt_of_le_of_lt d.wholeUnits_le (two_pow_mul_scale_lt_limit (by decide))
  have whole : nearest d.secs 1 = finite false
      ⟨d.wholeUnits, representable_roundUnits _ _, wholeLt⟩ :=
    round_eq_finite rfl false
  have fraction : nearest d.subsecNanos 1_000_000_000 = finite false
      ⟨d.fractionUnits, representable_roundUnits _ _,
        Nat.lt_trans d.fractionUnits_lt scale_lt_limit⟩ :=
    round_eq_finite rfl false
  rw [toSeconds, whole, fraction, finite_add_finite]
  exact round_eq_finite rfl false

theorem position?_toSeconds (d : Duration) : d.toSeconds.position? = some (d.units : Int) := by
  rw [toSeconds_eq]
  exact position?_magnitude d.magnitude

theorem isFinite_toSeconds (d : Duration) : d.toSeconds.isFinite = true := by
  rw [toSeconds_eq]
  rfl

theorem position?_toSeconds_zero : zero.toSeconds.position? = some 0 := by
  have hunits : zero.units = 0 := by
    simp [units, wholeUnits, fractionUnits, secs, subsecNanos, zero]
  rw [position?_toSeconds, hunits]
  rfl

theorem toSeconds_ne_nan (d : Duration) : d.toSeconds ≠ nan :=
  ne_nan_of_isFinite d.isFinite_toSeconds

theorem zero_le_toSeconds (d : Duration) : Binary64.zero ≤ d.toSeconds := by
  rw [le_of_positions position?_zero d.position?_toSeconds]
  exact Int.natCast_nonneg _

/-! ## The order of seconds -/

theorem secs_mono {a b : Duration} (h : a ≤ b) : a.secs ≤ b.secs := Nat.div_le_div_right h

/-- From 2^53 seconds on the grid holds whole even seconds only, and a fraction is lost. -/
theorem units_of_le {d : Duration} (h : 2 ^ 53 ≤ d.secs) : d.units = d.wholeUnits := by
  obtain ⟨g, hg⟩ := exists_gap
  have hwhole : 2 ^ 53 * scale ≤ d.wholeUnits := by
    apply le_roundUnits Nat.one_pos (representable_two_pow_mul_scale 53)
    rw [Nat.mul_one]
    exact Nat.mul_le_mul_right scale h
  have gap := gaps_le_spacing hg hwhole
  have hfraction := d.fractionUnits_lt
  exact roundUnits_add_of_lt (representable_roundUnits _ _) (by omega)

/-- A longer duration has no fewer units, whatever the roundings of its parts do: up to 2^53
whole seconds they are exact and more than a fraction apart, and beyond there is no fraction. -/
theorem units_mono {a b : Duration} (h : a ≤ b) : a.units ≤ b.units := by
  rcases Nat.lt_or_eq_of_le (secs_mono h) with hlt | heq
  · have hwhole : a.wholeUnits ≤ b.wholeUnits :=
      roundUnits_le_roundUnits Nat.one_pos (Nat.mul_le_mul_right scale hlt.le)
    rcases Nat.lt_or_ge a.secs (2 ^ 53) with small | large
    · have hfraction := a.fractionUnits_lt
      have next : (a.secs + 1) * scale ≤ b.wholeUnits := by
        apply le_roundUnits Nat.one_pos (representable_mul_scale small)
        rw [Nat.mul_one]
        exact Nat.mul_le_mul_right scale hlt
      rw [Nat.succ_mul, ← wholeUnits_of_le small.le] at next
      exact roundUnits_le_roundUnits Nat.one_pos (by omega)
    · rw [units_of_le large, units_of_le (large.trans hlt.le)]
      exact hwhole
  · have hsub : a.subsecNanos ≤ b.subsecNanos := by
      have ha := a.nanos_eq
      have hb := b.nanos_eq
      rw [le_def] at h
      omega
    have hfraction : a.fractionUnits ≤ b.fractionUnits :=
      roundUnits_le_roundUnits (by norm_num) (Nat.mul_le_mul_right scale hsub)
    have hwhole : a.wholeUnits = b.wholeUnits := by rw [wholeUnits, wholeUnits, heq]
    exact roundUnits_le_roundUnits Nat.one_pos (by omega)

/-- The way to seconds is monotone. -/
theorem toSeconds_mono {a b : Duration} (h : a ≤ b) : a.toSeconds ≤ b.toSeconds := by
  rw [le_of_positions a.position?_toSeconds b.position?_toSeconds]
  exact Int.ofNat_le.mpr (units_mono h)

/-! ## Units as a duration -/

/-- The duration closest to so many units of seconds. -/
def nearestNanos (units : Nat) : Duration := saturating (roundDiv (units * 1_000_000_000) scale)

theorem saturating_mono {a b : Nat} (h : a ≤ b) : saturating a ≤ saturating b := by
  simp only [le_def, nanos_saturating]
  omega

theorem saturatingAdd_mono {a b c d : Duration} (hab : a ≤ b) (hcd : c ≤ d) :
    a.saturatingAdd c ≤ b.saturatingAdd d := saturating_mono (Nat.add_le_add hab hcd)

theorem saturating_of_le {n : Nat} (h : longest.nanos ≤ n) : saturating n = longest :=
  ext (Nat.min_eq_right h)

theorem nearestNanos_mono {a b : Nat} (h : a ≤ b) : nearestNanos a ≤ nearestNanos b :=
  saturating_mono (roundDiv_le_roundDiv (Nat.mul_le_mul_right _ h) _)

theorem nearestNanos_zero : nearestNanos 0 = zero := by
  rw [nearestNanos, Nat.zero_mul, roundDiv_zero]
  rfl

/-- From 2^64 seconds on the nearest duration is the longest one. -/
theorem nearestNanos_of_le {units : Nat} (h : 2 ^ 64 * scale ≤ units) :
    nearestNanos units = longest := by
  apply saturating_of_le
  have exact := roundDiv_mul scale_pos (2 ^ 64 * 1_000_000_000)
  have whole : 2 ^ 64 * 1_000_000_000 * scale ≤ units * 1_000_000_000 := by omega
  have := roundDiv_le_roundDiv whole scale
  simp only [longest]
  omega

/-- The way back depends on the place alone; whatever is below zero is at zero. -/
theorem ofSeconds_of_position {x : Binary64} {a : Int} (h : x.position? = some a) :
    ofSeconds x = nearestNanos a.toNat := by
  cases x with
  | nan => cases h
  | infinite s =>
    obtain rfl := Option.some.inj h
    cases s with
    | false =>
      have past : 2 ^ 64 * scale < limit := two_pow_mul_scale_lt_limit (by decide)
      exact (nearestNanos_of_le (Nat.le_of_lt past)).symm
    | true =>
      have below : (signed true limit).toNat = 0 := by
        simp only [signed, if_true]
        omega
      rw [below, nearestNanos_zero]
      rfl
  | finite s m =>
    obtain rfl := Option.some.inj h
    cases s with
    | false => rfl
    | true =>
      have below : (signed true m.units).toNat = 0 := by
        simp only [signed, if_true]
        omega
      rw [below, nearestNanos_zero]
      rfl

/-- What is not above zero gives no time at all. -/
theorem ofSeconds_of_not_zero_lt {x : Binary64} (h : ¬ Binary64.zero < x) : ofSeconds x = zero := by
  by_cases hx : x = nan
  · rw [hx]
    rfl
  · obtain ⟨a, ha⟩ := exists_position? hx
    rw [lt_of_positions position?_zero ha] at h
    rw [ofSeconds_of_position ha, Int.toNat_of_nonpos (Int.not_lt.mp h), nearestNanos_zero]

theorem ofSeconds_le_ofSeconds {x y : Binary64} (h : x ≤ y) : ofSeconds x ≤ ofSeconds y := by
  obtain ⟨a, b, hx, hy, hab⟩ := le_iff.mp h
  rw [ofSeconds_of_position hx, ofSeconds_of_position hy]
  exact nearestNanos_mono (by omega)

theorem ofSeconds_toSeconds_eq (d : Duration) : ofSeconds d.toSeconds = nearestNanos d.units := by
  rw [ofSeconds_of_position d.position?_toSeconds, Int.toNat_natCast]

/-- Units that are not above a duration give no longer duration. -/
theorem nearestNanos_le {d : Duration} {units : Nat} (h : units * 1_000_000_000 ≤ d.nanos * scale) :
    nearestNanos units ≤ d := by
  have le := roundDiv_le_roundDiv h scale
  rw [roundDiv_mul scale_pos] at le
  exact Nat.le_trans (Nat.min_le_left _ _) le

theorem nanos_pos {d : Duration} (h : d ≠ zero) : 0 < d.nanos := by
  by_contra hzero
  exact h (ext (by simp only [zero]; omega))

theorem units_pos {d : Duration} (h : 0 < d.nanos) : 0 < d.units := by
  obtain ⟨g, hg⟩ := exists_gap
  have hnanos := d.nanos_eq
  have hpos := scale_pos
  have one : Representable 1 := representable_two_pow 0
  have summand : 0 < d.wholeUnits + d.fractionUnits := by
    rcases Nat.eq_zero_or_pos d.secs with hzero | hsecs
    · have hsub : 0 < d.subsecNanos := by omega
      have := Nat.mul_le_mul_right scale hsub
      have : 1 ≤ d.fractionUnits := le_roundUnits (by norm_num) one (by omega)
      omega
    · have := Nat.mul_le_mul_right scale hsecs
      have : 1 ≤ d.wholeUnits := le_roundUnits Nat.one_pos one (by omega)
      omega
  exact le_roundUnits Nat.one_pos one (by omega)

/-! ## Neighbours on the grid -/

/-- What the three roundings add to a whole part and a fraction never reaches half
the gap above a grid point that the duration is not above. -/
theorem two_mul_excess_lt {d : Duration} {v : Nat} (hv : Representable v) (hsecs : 0 < d.secs)
    (h : d.nanos * scale ≤ v * 1_000_000_000) :
    2 * (d.wholeUnits + d.fractionUnits - v) < spacing v := by
  obtain ⟨g, hg⟩ := exists_gap
  have hpos := scale_pos
  have product : d.nanos * scale = d.secs * scale * 1_000_000_000 + d.subsecNanos * scale := by
    rw [nanos_eq, Nat.add_mul, Nat.mul_right_comm]
  rcases Nat.lt_or_ge d.secs (2 ^ 53) with small | large
  · -- the whole seconds are exact, and the fraction is off by half the gap below one
    have hwhole : d.wholeUnits = d.secs * scale := wholeUnits_of_le (by omega)
    have second := Nat.mul_le_mul_right scale hsecs
    obtain ⟨high, -⟩ := fractionUnits_error hg d
    have gap := gaps_le_spacing hg (show 2 ^ 0 * scale ≤ v by omega)
    omega
  · -- the grid holds whole even seconds only, and the fraction is below one second
    have far := Nat.mul_le_mul_right scale large
    have hwhole : d.wholeUnits ≤ v := roundUnits_le Nat.one_pos hv (by omega)
    have hfraction := d.fractionUnits_lt
    have gap := gaps_le_spacing hg (show 2 ^ 53 * scale ≤ v by omega)
    omega

/-- A grid point above a duration is above its seconds. -/
theorem units_le {d : Duration} {v : Nat} (hv : Representable v)
    (h : d.nanos * scale ≤ v * 1_000_000_000) : d.units ≤ v := by
  have hnanos := d.nanos_eq
  have fraction : d.subsecNanos * scale ≤ d.nanos * scale :=
    Nat.mul_le_mul_right scale (by omega)
  rcases Nat.eq_zero_or_pos d.secs with hzero | hsecs
  · have hwhole : d.wholeUnits = 0 := by simp [wholeUnits, hzero]
    have hle : d.fractionUnits ≤ v := roundUnits_le (by norm_num) hv (by omega)
    exact roundUnits_le Nat.one_pos hv (by omega)
  · calc d.units ≤ roundUnits (v + (d.wholeUnits + d.fractionUnits - v)) 1 :=
          roundUnits_le_roundUnits Nat.one_pos (by omega)
      _ = v := roundUnits_add_of_lt hv (two_mul_excess_lt hv hsecs h)

/-- A grid point below the seconds of a duration is no longer than the duration. -/
theorem nearestNanos_le_of_lt {d : Duration} {v : Nat} (hv : Representable v)
    (h : v < d.units) : nearestNanos v ≤ d := by
  apply nearestNanos_le
  by_contra hlt
  have := units_le hv (d := d) (by omega)
  omega

/-! ## There and back -/

/-- Up to 2^53 seconds the whole part is exact, and the parts are off by the error of the
fraction alone. -/
theorem parts_error {g : Nat} (hg : scale = 2 ^ 53 * g) {d : Duration} (h : d.secs ≤ 2 ^ 53) :
    2 * ((d.wholeUnits + d.fractionUnits) * 1_000_000_000) ≤
        2 * (d.nanos * scale) + 1_000_000_000 * g ∧
      2 * (d.nanos * scale) ≤
        2 * ((d.wholeUnits + d.fractionUnits) * 1_000_000_000) + 1_000_000_000 * g := by
  obtain ⟨fractionHigh, fractionLow⟩ := fractionUnits_error hg d
  have product : d.nanos * scale = d.wholeUnits * 1_000_000_000 + d.subsecNanos * scale := by
    rw [d.nanos_eq, Nat.add_mul, wholeUnits_of_le h, Nat.mul_right_comm]
  omega

theorem nearestNanos_units {d : Duration} (h : d.nanos < 2 ^ 23 * 1_000_000_000) :
    nearestNanos d.units = d := by
  obtain ⟨g, hg⟩ := exists_gap
  have hnanos := d.nanos_eq
  have hsecs : d.secs < 2 ^ 23 := by omega
  have hwhole : d.wholeUnits = d.secs * scale := wholeUnits_of_le (by omega)
  obtain ⟨partsHigh, partsLow⟩ := parts_error hg (d := d) (by omega)
  -- the sum is off by at most half the gap below 2^23
  have gap : spacing ((d.wholeUnits + d.fractionUnits) / 1) ≤ 2 ^ 23 * g := by
    apply spacing_le_gaps hg
    have hfraction := d.fractionUnits_lt
    have := Nat.mul_le_mul_right scale (show d.secs + 1 ≤ 2 ^ 23 by omega)
    rw [Nat.succ_mul] at this
    omega
  have high := two_mul_roundUnits_le (d.wholeUnits + d.fractionUnits) 1
  have low := two_mul_le_roundUnits Nat.one_pos (d.wholeUnits + d.fractionUnits)
  have hpos := scale_pos
  have nearest : roundDiv (d.units * 1_000_000_000) scale = d.nanos := by
    unfold units
    apply roundDiv_eq <;> omega
  rw [nearestNanos, nearest, saturating_nanos]

theorem ofSeconds_toSeconds {d : Duration} (h : d.nanos < 2 ^ 23 * 1_000_000_000) :
    ofSeconds d.toSeconds = d := by
  rw [ofSeconds_toSeconds_eq, nearestNanos_units h]

/-! ## The error of the way there -/

/-- A rounded quotient is nothing, or at least 2^52 units, if the quotient is. -/
theorem roundUnits_normal {num den : ℕ} (hden : 0 < den)
    (h : num = 0 ∨ 2 ^ 52 * den ≤ num) :
    roundUnits num den = 0 ∨ 2 ^ 52 ≤ roundUnits num den := by
  rcases h with rfl | hnum
  · exact .inl (roundUnits_zero den)
  · exact .inr (le_roundUnits hden (representable_two_pow 52) hnum)

theorem mul_scale_normal {den : ℕ} (hden : den ≤ 2 ^ 30) (n : ℕ) :
    n * scale = 0 ∨ 2 ^ 52 * den ≤ n * scale := by
  rcases Nat.eq_zero_or_pos n with rfl | hpos
  · exact .inl (Nat.zero_mul _)
  · have hlarge := two_pow_le_scale (k := 82) (by norm_num)
    have := Nat.mul_le_mul_right scale hpos
    exact .inr (by omega)

theorem parts_normal (d : Duration) :
    d.wholeUnits + d.fractionUnits = 0 ∨ 2 ^ 52 * 1 ≤ d.wholeUnits + d.fractionUnits := by
  have whole := roundUnits_normal Nat.one_pos (mul_scale_normal (by norm_num) d.secs)
  have fraction : d.fractionUnits = 0 ∨ 2 ^ 52 ≤ d.fractionUnits :=
    roundUnits_normal (by norm_num) (mul_scale_normal (by norm_num) d.subsecNanos)
  rw [← wholeUnits] at whole
  omega

theorem units_normal (d : Duration) : d.units = 0 ∨ 2 ^ 52 ≤ d.units :=
  roundUnits_normal Nat.one_pos d.parts_normal

/-- So many nanoseconds, in units of seconds. -/
def exactUnits (nanos : ℕ) : ℚ := nanos * scale / 1_000_000_000

theorem exactUnits_nonneg (n : ℕ) : 0 ≤ exactUnits n := by
  unfold exactUnits
  positivity

theorem exactUnits_mono {m n : ℕ} (h : m ≤ n) : exactUnits m ≤ exactUnits n := by
  unfold exactUnits
  gcongr

/-- The seconds are the exact ones up to two roundings: those of the parts, side by
side, and that of their sum. -/
theorem within_units (d : Duration) : Within 2 d.units (exactUnits d.nanos) := by
  have parts := (within_roundUnits Nat.one_pos (mul_scale_normal (by norm_num) d.secs)).add
    (within_roundUnits (show 0 < 1_000_000_000 by norm_num)
      (mul_scale_normal (by norm_num) d.subsecNanos))
  have sum := within_roundUnits Nat.one_pos d.parts_normal
  have split : exactUnits d.nanos =
      (d.secs * scale : ℕ) / (1 : ℕ) + (d.subsecNanos * scale : ℕ) / (1_000_000_000 : ℕ) := by
    rw [exactUnits, d.nanos_eq]
    push_cast
    field_simp
  have whole : ((d.wholeUnits + d.fractionUnits : ℕ) : ℚ) / (1 : ℕ) =
      d.wholeUnits + d.fractionUnits := by
    push_cast
    rw [div_one]
  rw [split]
  rw [whole] at sum
  exact sum.trans parts

/-! ## In nanoseconds -/

/-- So many units of seconds, in nanoseconds. -/
def inNanos (units : ℕ) : ℚ := units * 1_000_000_000 / scale

theorem inNanos_mono {m n : ℕ} (h : m ≤ n) : inNanos m ≤ inNanos n := by
  have hscale := scale_pos_rat
  unfold inNanos
  gcongr

theorem within_nanos (d : Duration) : Within 2 (inNanos d.units) d.nanos := by
  have hscale := scale_pos_rat
  have units := d.within_units.mul_right (c := 1_000_000_000 / scale) (by positivity)
  have exact : exactUnits d.nanos * (1_000_000_000 / scale) = d.nanos := by
    unfold exactUnits
    field_simp
  rw [exact, ← mul_div_assoc] at units
  exact units

/-- The way back is half a nanosecond off, before it is cut at the longest duration. -/
theorem abs_roundDiv_sub_inNanos_le (units : ℕ) :
    |(roundDiv (units * 1_000_000_000) scale : ℚ) - inNanos units| ≤ 1 / 2 := by
  have herror := abs_roundDiv_sub_le scale_pos (units * 1_000_000_000)
  rwa [Nat.cast_mul] at herror

/-- The way back is at most half a nanosecond too long. -/
theorem nearestNanos_le_inNanos (units : ℕ) :
    ((nearestNanos units).nanos : ℚ) ≤ inNanos units + 1 / 2 := by
  obtain ⟨-, high⟩ := abs_le.mp (abs_roundDiv_sub_inNanos_le units)
  have saturated : (nearestNanos units).nanos ≤ roundDiv (units * 1_000_000_000) scale := by
    rw [nearestNanos, nanos_saturating]
    exact Nat.min_le_left _ _
  calc ((nearestNanos units).nanos : ℚ) ≤ roundDiv (units * 1_000_000_000) scale := by
        exact_mod_cast saturated
    _ ≤ inNanos units + 1 / 2 := by linarith

/-- The way back is at most half a nanosecond too short, up to the longest duration. -/
theorem le_nearestNanos {units : ℕ} {t : ℚ} (h : t ≤ inNanos units) (ht : t ≤ longest.nanos) :
    t - 1 / 2 ≤ (nearestNanos units).nanos := by
  obtain ⟨low, -⟩ := abs_le.mp (abs_roundDiv_sub_inNanos_le units)
  rw [nearestNanos, nanos_saturating, Nat.cast_min, le_min_iff]
  constructor
  · linarith
  · linarith

end Duration

end Reconnect
