/-
Reconnect.Proofs.Policy.Accuracy — how far a growing delay is from the exact one.

The raw seconds of attempt `n` are off by `n + 2` roundings: two of the base, `n - 1` of the
power and one of their product. The cap's seconds are off by two. So where the cap test goes
the wrong way, the exact delay and the cap are no more than these roundings apart, and
either may stand for the other: two roundings down are made good by four up, and the bound
has `n + 6`. The way back to a duration adds half a nanosecond.

A power past the finite range is at its end, and so is the product; the exact product need not
be as far, for a base of less than a second. It is past every cap, though.

* `Accurate`: half a nanosecond and so many roundings from an exact number.
* `accurate_clip`: cutting at the cap keeps what the raw seconds are worth.
* `cappedDelay_accurate`: the delays of a base above zero and a multiplier of at least one.
-/
import Mathlib.Algebra.Order.Ring.Pow
import Reconnect.Proofs.Binary64.PowerError
import Reconnect.Proofs.Policy.Growth

namespace Reconnect

namespace Policy

open Binary64 Duration

/-! ## Roundings up and down -/

/-- Four roundings up make good two roundings down. -/
theorem one_le_two_down_four_up : 1 ≤ (1 - roundoff) ^ 2 * (1 + roundoff) ^ 4 := by
  norm_num [roundoff]

/-- Roundings down take no more away than as many roundings up add. -/
theorem two_le_down_add_up (k : ℕ) : 2 ≤ (1 - roundoff) ^ k + (1 + roundoff) ^ k := by
  have up := one_add_mul_le_pow (a := roundoff) (by linarith [roundoff_pos]) k
  have down := one_add_mul_le_pow (a := -roundoff) (by linarith [roundoff_lt_one]) k
  rw [← sub_eq_add_neg] at down
  linarith

/-! ## Cutting at the cap -/

/-- So many nanoseconds are half a nanosecond and `k` roundings from an exact number. -/
def Accurate (k nanos : ℕ) (exact : ℚ) : Prop :=
  |(nanos : ℚ) - exact| ≤ 1 / 2 + exact * ((1 + roundoff) ^ k - 1)

variable {cap : Duration} {k r : ℕ} {exact : ℚ}

/-- The cap stands for an exact delay that reaches it but for roundings. -/
theorem accurate_cap (h : cap.nanos ≤ exact * (1 + roundoff) ^ k) :
    Accurate k cap.nanos (min exact cap.nanos) := by
  unfold Accurate
  rcases le_total exact cap.nanos with below | above
  · rw [min_eq_left below, abs_of_nonneg (by linarith)]
    linarith
  · have hcap : (0 : ℚ) ≤ cap.nanos * ((1 + roundoff) ^ k - 1) :=
      mul_nonneg (Nat.cast_nonneg _) (by linarith [one_le_up k])
    rw [min_eq_right above, sub_self, abs_zero]
    linarith

/-- What is not above the cap's seconds comes back within half a nanosecond. -/
theorem accurate_nearestNanos (hk : 2 ≤ k) (hexact : 0 ≤ exact)
    (h : Within k (inNanos r) exact) (hr : r ≤ cap.units) :
    Accurate k (nearestNanos r).nanos (min exact cap.nanos) := by
  have hcap : (0 : ℚ) ≤ cap.nanos := Nat.cast_nonneg _
  have hlongest : (cap.nanos : ℚ) ≤ longest.nanos := by exact_mod_cast cap.le_longest
  have htarget : 0 ≤ min exact cap.nanos := le_min hexact hcap
  have high : inNanos r ≤ min exact cap.nanos * (1 + roundoff) ^ k := by
    rw [min_mul_of_nonneg _ _ (up_nonneg k), le_min_iff]
    refine ⟨h.high, (inNanos_mono hr).trans (cap.within_nanos.high.trans ?_)⟩
    exact mul_le_mul_of_nonneg_left (up_mono hk) hcap
  have low : min exact cap.nanos * (1 - roundoff) ^ k ≤ inNanos r :=
    (mul_le_mul_of_nonneg_right (min_le_left _ _) (down_nonneg k)).trans h.low
  have reach : min exact cap.nanos * (1 - roundoff) ^ k ≤ longest.nanos :=
    (mul_le_of_le_one_right htarget (down_le_one k)).trans ((min_le_right _ _).trans hlongest)
  have above := nearestNanos_le_inNanos r
  have below := le_nearestNanos low reach
  have balance := mul_le_mul_of_nonneg_left (two_le_down_add_up k) htarget
  unfold Accurate
  rw [abs_le]
  constructor
  · linarith
  · linarith

theorem Accurate.mono {j nanos : ℕ} (h : Accurate j nanos exact) (hjk : j ≤ k)
    (hexact : 0 ≤ exact) : Accurate k nanos exact := by
  have := mul_le_mul_of_nonneg_left (up_mono hjk) hexact
  unfold Accurate at *
  linarith

/-- Seconds above the cap's stand for an exact number that reaches the cap but for roundings. -/
theorem le_of_units_lt (h : Within k (inNanos r) exact) (hr : cap.units < r) :
    cap.nanos ≤ exact * (1 + roundoff) ^ (k + 4) := by
  have hcap : (cap.nanos : ℚ) * (1 - roundoff) ^ 2 ≤ exact * (1 + roundoff) ^ k :=
    cap.within_nanos.low.trans ((inNanos_mono hr.le).trans h.high)
  calc (cap.nanos : ℚ) ≤ cap.nanos * ((1 - roundoff) ^ 2 * (1 + roundoff) ^ 4) :=
        le_mul_of_one_le_right (Nat.cast_nonneg _) one_le_two_down_four_up
    _ = cap.nanos * (1 - roundoff) ^ 2 * (1 + roundoff) ^ 4 := by ring
    _ ≤ exact * (1 + roundoff) ^ k * (1 + roundoff) ^ 4 :=
        mul_le_mul_of_nonneg_right hcap (up_nonneg 4)
    _ = exact * (1 + roundoff) ^ (k + 4) := by ring

/-- Cut at the cap, seconds are worth what they were worth before, but for the cap's own
roundings. -/
theorem accurate_clip {x : Binary64} (hx : x.position? = some ((min r limit : ℕ) : ℤ))
    (hk : 2 ≤ k) (hexact : 0 ≤ exact) (h : Within k (inNanos r) exact) :
    Accurate (k + 4) (clip cap x).nanos (min exact cap.nanos) := by
  have hlimit := cap.units_lt_limit
  rw [clip_of_position? hx]
  by_cases hr : cap.units < r
  · rw [if_pos (by omega)]
    exact accurate_cap (le_of_units_lt h hr)
  · rw [if_neg (by omega), Nat.min_eq_left (by omega)]
    have nearest := accurate_nearestNanos hk hexact h (Nat.not_lt.mp hr)
    exact nearest.mono (by omega) (le_min hexact (Nat.cast_nonneg _))

/-! ## The product of base and power -/

/-- One product with the seconds of a duration: their two roundings and its own. -/
theorem within_roundUnits_units (d : Duration) {b : ℕ} {v : ℚ} (hv : 0 ≤ v) (hb : scale ≤ b)
    (h : Within k b (v * scale)) :
    Within (2 + k + 1) (inNanos (roundUnits (d.units * b) scale)) (d.nanos * v) := by
  have hscale := scale_pos_rat
  have normal : d.units * b = 0 ∨ 2 ^ 52 * scale ≤ d.units * b := by
    rcases d.units_normal with hzero | hlarge
    · exact .inl (by rw [hzero, Nat.zero_mul])
    · exact .inr (Nat.mul_le_mul hlarge hb)
  have product := within_roundUnits_mul d.within_units h (exactUnits_nonneg _)
    (by positivity) normal
  have nanos := product.mul_right (c := 1_000_000_000 / scale) (by positivity)
  have exact : exactUnits d.nanos * (v * scale) / scale * (1_000_000_000 / scale) =
      d.nanos * v := by
    unfold exactUnits
    field_simp
  rw [exact, ← mul_div_assoc] at nanos
  exact nanos

/-- No cap is as far as the end of the finite range. -/
theorem le_of_reaches_limit {d : Duration} (hd : d ≠ .zero) {v : ℚ}
    (h : Reaches k limit (v * scale)) : cap.nanos ≤ d.nanos * v * (1 + roundoff) ^ k := by
  have hscale := scale_pos_rat
  have hnanos : (1 : ℚ) ≤ d.nanos := by exact_mod_cast nanos_pos hd
  have hcap : cap.nanos * scale ≤ limit := by
    have hpast := two_pow_mul_scale_lt_limit (show 94 < 1024 by norm_num)
    have hlt : cap.nanos ≤ 2 ^ 94 := by
      have := cap.nanos_lt
      omega
    exact (Nat.mul_le_mul_right scale hlt).trans hpast.le
  have hcap' : (cap.nanos : ℚ) * scale ≤ limit := by exact_mod_cast hcap
  have hpower : (cap.nanos : ℚ) ≤ v * (1 + roundoff) ^ k := by
    have := hcap'.trans h.high
    rw [mul_right_comm] at this
    exact le_of_mul_le_mul_right this hscale
  calc (cap.nanos : ℚ) ≤ v * (1 + roundoff) ^ k := hpower
    _ ≤ d.nanos * (v * (1 + roundoff) ^ k) :=
        le_mul_of_one_le_left ((Nat.cast_nonneg _).trans hpower) hnanos
    _ = d.nanos * v * (1 + roundoff) ^ k := by ring

/-! ## The delays -/

/-- The exact delay of an attempt in nanoseconds, for a multiplier that is exactly `M`. -/
def exactDelay (p : Policy) (M : ℚ) (n : ℕ) : ℚ :=
  min (p.baseDelay.nanos * M ^ n) p.maxDelay.nanos

section

variable {p : Policy} (hbase : p.baseDelay ≠ .zero) {M : ℚ}
  (hmultiplier : p.multiplier.value? = some M) (hM : 1 ≤ M)

theorem accurate_cappedDelay_zero : Accurate 6 (p.cappedDelay 0).nanos (p.exactDelay M 0) := by
  have hplace : (p.rawSeconds 0).position? = some ((min p.baseDelay.units limit : ℕ) : ℤ) := by
    rw [rawSeconds_zero, Nat.min_eq_left p.baseDelay.units_lt_limit.le]
    exact p.baseDelay.position?_toSeconds
  rw [cappedDelay_eq_clip, exactDelay, pow_zero, mul_one]
  exact accurate_clip hplace le_rfl (Nat.cast_nonneg _) p.baseDelay.within_nanos

include hbase hmultiplier hM

theorem accurate_cappedDelay_succ {n : ℕ} (hn : n + 1 ≤ maxExponent) :
    Accurate (n + 1 + 6) (p.cappedDelay (n + 1)).nanos (p.exactDelay M (n + 1)) := by
  have hscale := scale_pos
  have hexponent : exponent (n + 1) = n + 1 := Nat.min_eq_left hn
  have hpow : 0 ≤ M ^ (n + 1) := pow_nonneg (by linarith) _
  have hexact : 0 ≤ p.baseDelay.nanos * M ^ (n + 1) := mul_nonneg (Nat.cast_nonneg _) hpow
  obtain ⟨hone, b, hpower, hreaches⟩ := rounded_power hmultiplier hM n
  have hb := scale_le_of_one_le hone hpower
  have hraw : (p.rawSeconds (n + 1)).position? =
      some (productUnits p.baseDelay.units b : ℤ) := by
    rw [rawSeconds, hexponent]
    exact position?_mul p.baseDelay.position?_toSeconds hpower
      (units_pos (nanos_pos hbase)) (by omega)
  rw [cappedDelay_eq_clip, exactDelay]
  rcases Nat.lt_or_eq_of_le (position?_le_limit hpower) with hlt | rfl
  · have hproduct : productUnits p.baseDelay.units b =
        min (roundUnits (p.baseDelay.units * b) scale) limit := by
      have hunits := p.baseDelay.units_lt_limit
      exact if_neg (by omega)
    rw [hproduct] at hraw
    have hwithin := within_roundUnits_units p.baseDelay hpow hb (hreaches.within hlt)
    refine (accurate_clip hraw (by omega) hexact hwithin).mono (by omega) ?_
    exact le_min hexact (Nat.cast_nonneg _)
  · have hproduct : productUnits p.baseDelay.units limit = limit := if_pos (.inr rfl)
    rw [hproduct] at hraw
    rw [clip_of_position? hraw, if_pos p.maxDelay.units_lt_limit]
    refine accurate_cap ((le_of_reaches_limit hbase hreaches).trans ?_)
    exact mul_le_mul_of_nonneg_left (up_mono (by omega)) hexact

/-- **Accuracy**: with a base above zero and a finite multiplier of at least one, whatever
the cap is, a delay is the exact one but for half a nanosecond and six roundings more than
the attempt's number. -/
theorem cappedDelay_accurate {n : ℕ} (hn : n ≤ maxExponent) :
    |((p.cappedDelay n).nanos : ℚ) - p.exactDelay M n| ≤
      1 / 2 + p.exactDelay M n * ((1 + 1 / 2 ^ 53) ^ (n + 6) - 1) := by
  cases n with
  | zero => exact accurate_cappedDelay_zero
  | succ n => exact accurate_cappedDelay_succ hbase hmultiplier hM hn

end

theorem slowestRamp_accurate :
    slowestRamp.baseDelay ≠ .zero ∧ slowestRamp.multiplier.value? = some (1 + 1 / 2 ^ 52) ∧
      (1 : ℚ) ≤ 1 + 1 / 2 ^ 52 ∧ 1000 ≤ maxExponent ∧
      |((slowestRamp.cappedDelay 1000).nanos : ℚ) -
          slowestRamp.exactDelay (1 + 1 / 2 ^ 52) 1000| ≤
        1 / 2 + slowestRamp.exactDelay (1 + 1 / 2 ^ 52) 1000 *
          ((1 + 1 / 2 ^ 53) ^ (1000 + 6) - 1) := by
  have hbase : slowestRamp.baseDelay ≠ .zero := by decide
  have hmultiplier : slowestRamp.multiplier.value? = some (1 + 1 / 2 ^ 52) := by decide +kernel
  have hM : (1 : ℚ) ≤ 1 + 1 / 2 ^ 52 := by norm_num
  have hn : 1000 ≤ maxExponent := by decide
  exact ⟨hbase, hmultiplier, hM, hn, cappedDelay_accurate hbase hmultiplier hM hn⟩

end Policy

end Reconnect
