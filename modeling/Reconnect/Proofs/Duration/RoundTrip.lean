/-
Reconnect.Proofs.Duration.RoundTrip — seconds survive the way to a duration and back.

Below 2^23 seconds a duration survives the way to seconds and back (`ofSeconds_toSeconds`),
and with it its seconds. Beyond, gaps are wider than nanoseconds and several durations share
their seconds. There the closest duration is half a nanosecond off its seconds at most, and
rounding its fraction adds far less; half a gap is more than both together, so that the sum of
the parts rounds back to where it came from. From 2^53 seconds on all seconds on the grid are
whole and no part is rounded at all, and 2^64 seconds are those of the longest duration.

* `units_nearestNanos`: from 2^23 to 2^64 seconds every grid point comes back.
* `units_nearestNanos_units`: so do the seconds of every duration.
* `seconds_round_trip`: durations below 2^23 seconds, and seconds without limit.
-/
import Reconnect.Proofs.Duration.Closest

namespace Reconnect

namespace Duration

open Binary64

/-! ## The closest duration and its parts -/

/-- Below 2^64 seconds the closest duration is half a nanosecond off at most. -/
theorem nearestNanos_error {units : ℕ} (hunits : Representable units)
    (h : units < 2 ^ 64 * scale) :
    2 * ((nearestNanos units).nanos * scale) ≤ 2 * (units * 1_000_000_000) + scale ∧
      2 * (units * 1_000_000_000) ≤ 2 * ((nearestNanos units).nanos * scale) + scale := by
  rw [nanos_nearestNanos hunits h]
  exact ⟨two_mul_roundDiv_le _ _, two_mul_le_roundDiv scale_pos _⟩

/-- Whole seconds have no nanoseconds beyond. -/
theorem nanos_nearestNanos_of_whole {s : ℕ} (hs : Representable (s * scale)) (h : s < 2 ^ 64) :
    (nearestNanos (s * scale)).nanos = s * 1_000_000_000 := by
  rw [nanos_nearestNanos hs (Nat.mul_lt_mul_of_pos_right h scale_pos), Nat.mul_right_comm,
    roundDiv_mul scale_pos]

theorem secs_nearestNanos_of_whole {s : ℕ} (hs : Representable (s * scale)) (h : s < 2 ^ 64) :
    (nearestNanos (s * scale)).secs = s := by
  rw [secs, nanos_nearestNanos_of_whole hs h]
  omega

theorem secs_nearestNanos_two_pow {k : ℕ} (hk : k < 64) :
    (nearestNanos (2 ^ k * scale)).secs = 2 ^ k :=
  secs_nearestNanos_of_whole (representable_two_pow_mul_scale k)
    (Nat.pow_lt_pow_right (by decide) hk)

/-! ## Grid points -/

/-- Whole seconds on the grid come back, however many. -/
theorem units_nearestNanos_of_whole {s : ℕ} (hs : Representable (s * scale)) (h : s < 2 ^ 64) :
    (nearestNanos (s * scale)).units = s * scale := by
  have hsub : (nearestNanos (s * scale)).subsecNanos = 0 := by
    rw [subsecNanos, nanos_nearestNanos_of_whole hs h]
    omega
  have hround := roundUnits_of_representable Nat.one_pos hs
  rw [Nat.mul_one] at hround
  rw [units, wholeUnits, fractionUnits, secs_nearestNanos_of_whole hs h, hsub, Nat.zero_mul,
    roundUnits_zero, Nat.add_zero, hround, hround]

/-- From 2^23 seconds on half a gap is more than what the closest duration and the rounding of
its fraction are off, on either side of the seconds. -/
theorem units_nearestNanos_of_lt {units : ℕ} (hunits : Representable units)
    (hlow : 2 ^ 23 * scale ≤ units) (hhigh : units < 2 ^ 53 * scale) :
    (nearestNanos units).units = units := by
  obtain ⟨g, hg⟩ := exists_gap
  have hpos := scale_pos
  obtain ⟨nanosHigh, nanosLow⟩ := nearestNanos_error hunits (by omega)
  have atLeast := secs_mono (nearestNanos_mono hlow)
  have atMost := secs_mono (nearestNanos_mono hhigh.le)
  rw [secs_nearestNanos_two_pow (by decide)] at atLeast atMost
  obtain ⟨partsHigh, partsLow⟩ := parts_error hg atMost
  have far : 2 ^ 23 * scale ≤
      (nearestNanos units).wholeUnits + (nearestNanos units).fractionUnits := by
    have whole := Nat.mul_le_mul_right scale atLeast
    rw [← wholeUnits_of_le atMost] at whole
    omega
  have gapAbove := gaps_le_spacing hg hlow
  have gapBelow := gaps_le_spacing hg far
  exact roundUnits_of_near hunits (by omega) (by omega)

/-! ## All durations -/

/-- From 2^23 to 2^64 seconds every grid point comes back. -/
theorem units_nearestNanos {units : ℕ} (hunits : Representable units)
    (hlow : 2 ^ 23 * scale ≤ units) (hhigh : units < 2 ^ 64 * scale) :
    (nearestNanos units).units = units := by
  rcases Nat.lt_or_ge units (2 ^ 53 * scale) with small | large
  · exact units_nearestNanos_of_lt hunits hlow small
  · obtain ⟨s, rfl⟩ := scale_dvd hunits (by omega)
    rw [Nat.mul_comm scale] at hunits hhigh ⊢
    exact units_nearestNanos_of_whole hunits (Nat.lt_of_mul_lt_mul_right hhigh)

/-- No duration has more seconds than 2^64. -/
theorem units_le_two_pow_mul_scale (d : Duration) : d.units ≤ 2 ^ 64 * scale := by
  have hnanos : d.nanos ≤ 2 ^ 64 * 1_000_000_000 := d.nanos_lt.le
  apply units_le (representable_two_pow_mul_scale 64)
  rw [Nat.mul_right_comm]
  exact Nat.mul_le_mul_right scale hnanos

theorem le_units_of_le_secs {d : Duration} (h : 2 ^ 23 ≤ d.secs) : 2 ^ 23 * scale ≤ d.units := by
  have hwhole : 2 ^ 23 * scale ≤ d.wholeUnits := by
    apply le_roundUnits Nat.one_pos (representable_two_pow_mul_scale 23)
    rw [Nat.mul_one]
    exact Nat.mul_le_mul_right scale h
  exact le_roundUnits Nat.one_pos (representable_two_pow_mul_scale 23) (by omega)

/-- The closest duration to the seconds of a duration has the same seconds. -/
theorem units_nearestNanos_units (d : Duration) : (nearestNanos d.units).units = d.units := by
  rcases Nat.lt_or_ge d.secs (2 ^ 23) with small | large
  · rw [nearestNanos_units (nanos_lt_of_secs_lt small)]
  · rcases Nat.lt_or_ge d.units (2 ^ 64 * scale) with inside | outside
    · exact units_nearestNanos (representable_roundUnits _ _) (le_units_of_le_secs large) inside
    · -- the longest duration has no fewer seconds than this one, and none has more
      rw [nearestNanos_of_le outside]
      exact Nat.le_antisymm ((units_le_two_pow_mul_scale longest).trans outside)
        (units_mono d.le_longest)

/-- **There and back**: a duration below 2^23 seconds comes back from seconds as it was, and the
seconds of any duration, up to the longest, come back from a duration to the last bit. -/
theorem seconds_round_trip (d : Duration) :
    (d.secs < 2 ^ 23 → ofSeconds d.toSeconds = d) ∧
      (ofSeconds d.toSeconds).toSeconds = d.toSeconds := by
  constructor
  · intro h
    exact ofSeconds_toSeconds (nanos_lt_of_secs_lt h)
  · rw [ofSeconds_toSeconds_eq, toSeconds_eq, toSeconds_eq]
    congr 1
    exact Magnitude.ext (units_nearestNanos_units d)

/-- The last duration below 2^23 seconds comes back; one with a nanosecond more than these comes
back as two, and its seconds come back nevertheless. -/
theorem twoNanoseconds_round_trip :
    (saturating 8_388_607_999_999_999).secs < 2 ^ 23 ∧
      ofSeconds (saturating 8_388_607_999_999_999).toSeconds =
        saturating 8_388_607_999_999_999 ∧
      ofSeconds (saturating 8_388_608_000_000_001).toSeconds =
        saturating 8_388_608_000_000_002 ∧
      (ofSeconds (saturating 8_388_608_000_000_001).toSeconds).toSeconds =
        (saturating 8_388_608_000_000_001).toSeconds ∧
      (ofSeconds longest.toSeconds).toSeconds = longest.toSeconds := by
  have hsecs : (saturating 8_388_607_999_999_999).secs < 2 ^ 23 := by decide +kernel
  have hlonger : ofSeconds (saturating 8_388_608_000_000_001).toSeconds =
      saturating 8_388_608_000_000_002 := by decide +kernel
  exact ⟨hsecs, (seconds_round_trip _).1 hsecs, hlonger, (seconds_round_trip _).2,
    (seconds_round_trip _).2⟩

end Duration

end Reconnect
