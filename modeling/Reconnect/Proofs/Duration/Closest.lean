/-
Reconnect.Proofs.Duration.Closest — the way from seconds to a duration is the nearest one.

Between zero and 2^64 seconds nothing is cut off: the numbers on the grid just below 2^64 are
whole, so that even the last of them is a second short of it. There the way back is one
rounding to a whole number of nanoseconds, half of one off at most, and a whole number that
is no farther away can only be the other end of a tie.

* `Closest`: the duration closest to a number of seconds, ties to even.
* `nanos_nearestNanos`: below 2^64 seconds the way back is rounding alone.
* `closest_nearestNanos`: it gives the closest duration.
* `ofSeconds_closest`: all numbers of seconds, and their order.
-/
import Reconnect.Proofs.Duration.Seconds

namespace Reconnect

namespace Duration

open Binary64

/-- No whole number of nanoseconds is closer to so many seconds than the duration, and only an
even duration has another one as close. -/
structure Closest (d : Duration) (seconds : ℚ) : Prop where
  nearest : ∀ k : ℤ, |(d.nanos : ℚ) - seconds * 1_000_000_000| ≤ |k - seconds * 1_000_000_000|
  even : ∀ k : ℤ, k ≠ d.nanos →
    |(k : ℚ) - seconds * 1_000_000_000| = |(d.nanos : ℚ) - seconds * 1_000_000_000| →
    d.nanos % 2 = 0

/-! ## Below 2^64 seconds -/

theorem le_of_lt_two_pow {units : ℕ} (hunits : Representable units) (h : units < 2 ^ 64 * scale) :
    units ≤ (2 ^ 64 - 1) * scale := by
  rcases Nat.lt_or_ge units (2 ^ 52 * scale) with small | large
  · omega
  · -- a whole number of seconds, so one less than 2^64 at most
    obtain ⟨s, rfl⟩ := scale_dvd hunits large
    rw [Nat.mul_comm scale] at h ⊢
    exact Nat.mul_le_mul_right scale (Nat.le_pred_of_lt (Nat.lt_of_mul_lt_mul_right h))

/-- Nothing is cut off below 2^64 seconds. -/
theorem nanos_nearestNanos {units : ℕ} (hunits : Representable units)
    (h : units < 2 ^ 64 * scale) :
    (nearestNanos units).nanos = roundDiv (units * 1_000_000_000) scale := by
  have hle := le_of_lt_two_pow hunits h
  have hround := roundDiv_le_roundDiv
    (show units * 1_000_000_000 ≤ (2 ^ 64 - 1) * 1_000_000_000 * scale by omega) scale
  rw [roundDiv_mul scale_pos] at hround
  rw [nearestNanos, nanos_saturating]
  apply Nat.min_eq_left
  simp only [longest]
  omega

/-- Below 2^64 seconds the way back gives the closest duration. -/
theorem closest_nearestNanos {units : ℕ} (hunits : Representable units)
    (h : units < 2 ^ 64 * scale) : Closest (nearestNanos units) (units / scale) := by
  have hexact : (units : ℚ) / scale * 1_000_000_000 = inNanos units := div_mul_eq_mul_div _ _ _
  have hnanos := nanos_nearestNanos hunits h
  have herror := abs_roundDiv_sub_inNanos_le units
  rw [← hnanos] at herror
  constructor
  · intro k
    rw [hexact]
    by_cases hk : k = (nearestNanos units).nanos
    · rw [hk, Int.cast_natCast]
    · -- any other whole number is at least half away
      have := one_le_abs_sub_add_abs_sub hk (inNanos units)
      linarith
  · intro k hk htie
    rw [hexact] at htie
    have := one_le_abs_sub_add_abs_sub hk (inNanos units)
    have hhalf : |((nearestNanos units).nanos : ℚ) - inNanos units| = 1 / 2 := by linarith
    rw [hnanos] at hhalf ⊢
    apply roundDiv_mod_two_of_half scale_pos
    rwa [Nat.cast_mul]

/-! ## All numbers of seconds -/

/-- From 2^64 seconds on the way back gives the longest duration. -/
theorem ofSeconds_of_two_pow_le {x : Binary64} (h : nearest (2 ^ 64) 1 ≤ x) :
    ofSeconds x = longest := by
  obtain ⟨a, b, ha, hb, hab⟩ := le_iff.mp h
  rw [position?_nearest_two_pow (by decide), Option.some.injEq] at ha
  rw [ofSeconds_of_position hb]
  exact nearestNanos_of_le (by omega)

theorem ofSeconds_of_le_zero {x : Binary64} (h : x ≤ Binary64.zero) : ofSeconds x = zero :=
  ofSeconds_of_not_zero_lt (Binary64.not_lt_of_le h)

/-- **The closest duration**: not-a-number and what is not above zero give no time, 2^64 seconds
and more give the longest duration, and all between a duration that no whole number of
nanoseconds is closer than to the exact value, an even one where there are two. A greater number
of seconds never gives a shorter duration. -/
theorem ofSeconds_closest (x : Binary64) :
    (x = nan ∨ x ≤ Binary64.zero → ofSeconds x = zero) ∧
      (nearest (2 ^ 64) 1 ≤ x → ofSeconds x = longest) ∧
      (Binary64.zero < x → x < nearest (2 ^ 64) 1 →
        ∃ seconds : ℚ, x.value? = some seconds ∧ 0 < seconds ∧ seconds < 2 ^ 64 ∧
          (ofSeconds x).secs < 2 ^ 64 ∧ (ofSeconds x).subsecNanos < 1_000_000_000 ∧
          Closest (ofSeconds x) seconds) ∧
      ∀ y : Binary64, x ≤ y → ofSeconds x ≤ ofSeconds y := by
  refine ⟨?_, ofSeconds_of_two_pow_le, ?_, ?_⟩
  · rintro (rfl | hle)
    · rfl
    · exact ofSeconds_of_le_zero hle
  · intro hpos hlt
    have hscale := scale_pos_rat
    obtain ⟨m, rfl, hm, hbelow⟩ := exists_magnitude (by decide) hpos hlt
    have hunits : (m.units : ℚ) < 2 ^ 64 * scale := by exact_mod_cast hbelow
    refine ⟨m.units / scale, rfl, by positivity, (div_lt_iff₀ hscale).mpr hunits,
      secs_lt _, subsecNanos_lt _, closest_nearestNanos m.representable hbelow⟩
  · intro y h
    exact ofSeconds_le_ofSeconds h

/-- The 1024th part of a second and three of them lie half-way between two nanoseconds; one is
rounded down and the other up. -/
theorem halfway_closest :
    ofSeconds .nan = zero ∧ ofSeconds (.infinite true) = zero ∧
      ofSeconds (.infinite false) = longest ∧
      (∃ seconds : ℚ, (nearest 1 1024).value? = some seconds ∧
        Closest (ofSeconds (nearest 1 1024)) seconds) ∧
      (ofSeconds (nearest 1 1024)).nanos = 976_562 ∧
      (ofSeconds (nearest 3 1024)).nanos = 2_929_688 ∧
      ofSeconds (nearest 1 1024) ≤ ofSeconds (nearest 3 1024) := by
  have hnone : .infinite true ≤ Binary64.zero := by decide +kernel
  have hlong : nearest (2 ^ 64) 1 ≤ .infinite false :=
    le_infinite (Binary64.le_trans (Binary64.le_of_lt Binary64.zero_lt_one)
      (nearest_mono Nat.one_pos (by decide)))
  have hpos : Binary64.zero < nearest 1 1024 := by decide +kernel
  have hlt : nearest 1 1024 < nearest (2 ^ 64) 1 := by decide +kernel
  obtain ⟨-, -, hbetween, hmono⟩ := ofSeconds_closest (nearest 1 1024)
  obtain ⟨seconds, hvalue, -, -, -, -, hclosest⟩ := hbetween hpos hlt
  have hdown : (ofSeconds (nearest 1 1024)).nanos = 976_562 := by decide +kernel
  have hup : (ofSeconds (nearest 3 1024)).nanos = 2_929_688 := by decide +kernel
  exact ⟨(ofSeconds_closest .nan).1 (.inl rfl), (ofSeconds_closest _).1 (.inr hnone),
    (ofSeconds_closest _).2.1 hlong, ⟨seconds, hvalue, hclosest⟩, hdown, hup,
    hmono _ (nearest_mono (by decide) (by decide))⟩

end Duration

end Reconnect
