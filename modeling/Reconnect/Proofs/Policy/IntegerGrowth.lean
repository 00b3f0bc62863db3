/-
Reconnect.Proofs.Policy.IntegerGrowth — with a whole multiplier no nanosecond is
lost.

Up to a cap of 2^20 seconds the seconds of an attempt are off by at most three
roundings: two of the base and one of the product, for the power of a whole
number is exact as long as it has 53 bits, and has passed every such cap when it
has more. Three roundings are less than half a nanosecond there, so the cap test
and the way back decide as they would on the exact numbers.

* `lt_of_within`, `lt_add_of_within`: three roundings are less than half a nanosecond.
* `nanos_clip_of_within`: seconds cut at the cap are the exact minimum.
* `nanos_cappedDelay`: the exact ramp.
-/
import Reconnect.Proofs.Policy.Growth

namespace Reconnect

namespace Policy

open Binary64

/-! ## Half a nanosecond -/

/-- Up to 2^20 seconds four roundings are less than half a nanosecond. -/
theorem mul_roundoff_lt {N : ℕ} (hN : N ≤ 2 ^ 20 * 1_000_000_000) : N * (8 * roundoff) < 1 := by
  have hN' : (N : ℚ) ≤ 2 ^ 20 * 1_000_000_000 := by exact_mod_cast hN
  norm_num [roundoff]
  linarith

section

variable {k N a : ℕ} (hk : k ≤ 3) (h : Within k a (Duration.exactUnits N))

include hk h

theorem lt_of_within (hN : N ≤ 2 ^ 20 * 1_000_000_000) :
    2 * (a * 1_000_000_000) < 2 * (N * scale) + scale := by
  have hscale := scale_pos_rat
  have half := mul_roundoff_lt hN
  have high := h.le_of_le_three hk (Duration.exactUnits_nonneg N)
  rw [Duration.exactUnits] at high
  have : 2 * ((a : ℚ) * 1_000_000_000) < 2 * (N * scale) + scale := by
    nlinarith
  exact_mod_cast this

theorem lt_add_of_within {K : ℕ} (hK : K ≤ 2 ^ 20 * 1_000_000_000) (hKN : K ≤ N) :
    2 * (K * scale) < 2 * (a * 1_000_000_000) + scale := by
  have hscale := scale_pos_rat
  have half := mul_roundoff_lt hK
  have low := h.ge_of_le_three hk (Duration.exactUnits_nonneg N)
  have positive : 0 ≤ 1 - 4 * roundoff := by norm_num [roundoff]
  have smaller : Duration.exactUnits K * (1 - 4 * roundoff) ≤ a :=
    (mul_le_mul_of_nonneg_right (Duration.exactUnits_mono hKN) positive).trans low
  rw [Duration.exactUnits] at smaller
  have : 2 * ((K : ℚ) * scale) < 2 * (a * 1_000_000_000) + scale := by
    nlinarith
  exact_mod_cast this

/-- Three roundings are less than half a nanosecond. -/
theorem nanos_nearestNanos_of_within {cap : Duration} (hcap : cap.secs < 2 ^ 20)
    (hN : N ≤ cap.nanos) : (Duration.nearestNanos a).nanos = N := by
  have hcap' := Duration.nanos_lt_of_secs_lt hcap
  have hlongest := cap.le_longest
  have nearest : roundDiv (a * 1_000_000_000) scale = N :=
    roundDiv_eq (lt_add_of_within hk h (by omega) le_rfl) (lt_of_within hk h (by omega))
  rw [Duration.nearestNanos, nearest, Duration.nanos_saturating]
  exact Nat.min_eq_left (hN.trans hlongest)

end

/-- Numbers of nanoseconds that differ stay apart in three roundings. -/
theorem lt_of_within_of_within {j k M N a b : ℕ} (hj : j ≤ 3) (hk : k ≤ 3)
    (ha : Within j a (Duration.exactUnits M)) (hb : Within k b (Duration.exactUnits N))
    (hMN : M < N) (hM : M < 2 ^ 20 * 1_000_000_000) : a < b := by
  have below := lt_of_within hj ha hM.le
  have above := lt_add_of_within hk hb hM hMN
  rw [Nat.succ_eq_add_one, Nat.add_mul, Nat.one_mul] at above
  omega

/-- Seconds that are exact up to three roundings are cut as the exact ones. -/
theorem nanos_clip_of_within {cap : Duration} (hcap : cap.secs < 2 ^ 20) {k N a : ℕ} (hk : k ≤ 3)
    {x : Binary64} (hx : x.position? = some (a : ℤ)) (h : Within k a (Duration.exactUnits N)) :
    (clip cap x).nanos = min N cap.nanos := by
  have hcap' := Duration.nanos_lt_of_secs_lt hcap
  have hunits := cap.within_units
  rw [clip_of_position? hx]
  rcases Nat.lt_trichotomy cap.nanos N with above | rfl | below
  · have := lt_of_within_of_within (by norm_num) hk hunits h above hcap'
    rw [if_pos this, Nat.min_eq_right above.le]
  · rw [Nat.min_self]
    split
    · rfl
    · exact nanos_nearestNanos_of_within hk h hcap le_rfl
  · have := lt_of_within_of_within hk (by norm_num) h hunits below (below.trans hcap')
    rw [if_neg (by omega), Nat.min_eq_left below.le]
    exact nanos_nearestNanos_of_within hk h hcap below.le

/-! ## The exact ramp -/

/-- One product of a duration's seconds with a number of 53 bits is the third rounding. -/
theorem within_productUnits (d : Duration) {n : ℕ} (hn : n ≤ 2 ^ 53) :
    Within 3 (productUnits d.units (n * scale)) (Duration.exactUnits (d.nanos * n)) := by
  have normal : d.units * n = 0 ∨ 2 ^ 52 * 1 ≤ d.units * n := by
    rcases Nat.eq_zero_or_pos n with rfl | hpos
    · exact .inl (Nat.mul_zero _)
    · rcases d.units_normal with hzero | hlarge
      · exact .inl (by rw [hzero, Nat.zero_mul])
      · exact .inr (Nat.mul_le_mul hlarge hpos)
  have product := within_roundUnits Nat.one_pos normal
  have units := d.within_units.mul_right (c := n) (by positivity)
  rw [Nat.cast_one, div_one, Nat.cast_mul] at product
  have exact : Duration.exactUnits (d.nanos * n) = Duration.exactUnits d.nanos * n := by
    unfold Duration.exactUnits
    push_cast
    ring
  rw [productUnits_eq d.units_le_two_pow hn, exact]
  exact product.trans units

section

variable {p : Policy} (hbase : p.baseDelay ≠ .zero) (hcap : p.maxDelay.secs < 2 ^ 20)

include hbase hcap

/-- A power that stands for a whole number gives the exact minimum. -/
theorem nanos_cappedDelay_of_tracks {n attempt : ℕ}
    (h : Tracks n (p.multiplier.power (exponent attempt))) :
    (p.cappedDelay attempt).nanos = min (p.baseDelay.nanos * n) p.maxDelay.nanos := by
  obtain ⟨hn, a, hpower, hplace⟩ := h
  have hscale := scale_pos
  have hcap' := Duration.nanos_lt_of_secs_lt hcap
  have hnanos := Duration.nanos_pos hbase
  have ha : 0 < a := by
    rcases hplace with ⟨rfl, -⟩ | ⟨hlarge, -⟩
    · exact Nat.mul_pos hn hscale
    · omega
  have hraw : (p.rawSeconds attempt).position? = some (productUnits p.baseDelay.units a : ℤ) :=
    position?_mul p.baseDelay.position?_toSeconds hpower (Duration.units_pos hnanos) ha
  rw [cappedDelay_eq_clip]
  rcases hplace with ⟨rfl, hsmall⟩ | ⟨hlarge, hn53⟩
  · exact nanos_clip_of_within hcap le_rfl hraw (within_productUnits _ hsmall)
  · -- the power of 2^53 is past the cap already, and this one is no less
    have hsmall : p.maxDelay.nanos < 2 ^ 53 := hcap'.trans (by norm_num)
    have past : 2 ^ 53 ≤ p.baseDelay.nanos * 2 ^ 53 := Nat.le_mul_of_pos_left _ hnanos
    have hcapped := lt_of_within_of_within (by norm_num) le_rfl p.maxDelay.within_units
      (within_productUnits p.baseDelay le_rfl) (hsmall.trans_le past) hcap'
    have hmono := productUnits_mono (Nat.le_refl p.baseDelay.units) hlarge
      p.baseDelay.units_lt_limit.le (position?_le_limit hpower)
    have hexact : 2 ^ 53 ≤ p.baseDelay.nanos * n := hn53.trans (Nat.le_mul_of_pos_left _ hnanos)
    rw [clip_of_position? hraw, if_pos (hcapped.trans_le hmono),
      Nat.min_eq_right (hsmall.le.trans hexact)]

end

/-- Counts that stop at 50 or later are as good as counts that go on: a ramp that
grows is at the cap by then. -/
theorem min_mul_pow_min {stop : ℕ} (hstop : 50 ≤ stop) {base cap : ℕ} (hbase : 0 < base)
    (hcap : cap < 2 ^ 50) (M n : ℕ) :
    min (base * M ^ min n stop) cap = min (base * M ^ n) cap := by
  rcases Nat.le_total n stop with hle | hle
  · rw [Nat.min_eq_left hle]
  · rw [Nat.min_eq_right hle]
    obtain rfl | rfl | hM : M = 0 ∨ M = 1 ∨ 2 ≤ M := by omega
    · rw [Nat.zero_pow (by omega), Nat.zero_pow (by omega)]
    · rw [Nat.one_pow, Nat.one_pow]
    · have past {e : ℕ} (he : 50 ≤ e) : cap ≤ base * M ^ e := by
        have hpow : 2 ^ 50 ≤ M ^ e :=
          (Nat.pow_le_pow_right (by norm_num) he).trans (Nat.pow_le_pow_left hM e)
        exact hcap.le.trans (hpow.trans (Nat.le_mul_of_pos_left _ hbase))
      rw [Nat.min_eq_right (past hstop), Nat.min_eq_right (past (hstop.trans hle))]

/-- With a whole multiplier above zero and a cap below 2^20 seconds every delay is
the exact minimum of the ramp and the cap. -/
theorem nanos_cappedDelay {p : Policy} (hbase : p.baseDelay ≠ .zero) {M : ℕ} (hM : 0 < M)
    (hmultiplier : p.multiplier.value? = some (M : ℚ)) (hcap : p.maxDelay.secs < 2 ^ 20)
    (n : ℕ) : (p.cappedDelay n).nanos = min (p.baseDelay.nanos * M ^ n) p.maxDelay.nanos := by
  have hcap' := Duration.nanos_lt_of_secs_lt hcap
  have whole := tracks_of_position? hM (position?_of_value?_natCast hmultiplier)
  rw [nanos_cappedDelay_of_tracks hbase hcap (whole.power (exponent n))]
  exact min_mul_pow_min (by decide) (Duration.nanos_pos hbase) (by omega) M n

end Policy

end Reconnect
