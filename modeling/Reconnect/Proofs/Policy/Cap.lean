/-
Reconnect.Proofs.Policy.Cap — when the cap of a policy is one.

The cap test compares seconds, and a delay that passes it goes back from seconds
to a duration. Below 2^23 seconds that way back undoes the way there, so no delay
is above the cap. Beyond, the seconds of the cap may stand for more than the cap,
and an attempt with just these seconds passes the test and comes back longer:
`cappedDelay_le_maxDelay_iff` says that nothing else goes past the cap.

* `clip`: seconds cut at a cap, as a duration; every capped delay is one.
* `clip_le`, `clip_mono`, `clip_toSeconds`: cutting at a cap below 2^23 seconds.
* `cappedDelay_le_maxDelay_iff`: exactly when the cap holds, for any policy.
* `longCap`: a sound policy with a delay above its cap.
-/
import Reconnect.Policy
import Reconnect.Proofs.Duration.Seconds

namespace Reconnect

namespace Policy

open Binary64

/-! ## Cutting at a cap -/

/-- Seconds cut at a cap, as a duration. -/
def clip (cap : Duration) (seconds : Binary64) : Duration :=
  if !seconds.isFinite || cap.toSeconds < seconds then cap else .ofSeconds seconds

theorem cappedDelay_eq_clip (p : Policy) (attempt : Nat) :
    p.cappedDelay attempt = clip p.maxDelay (p.rawSeconds attempt) := rfl

theorem clip_of_le {cap : Duration} {x : Binary64} (hx : x.isFinite = true)
    (h : x ≤ cap.toSeconds) : clip cap x = .ofSeconds x := by
  have hlt : ¬ cap.toSeconds < x :=
    (Binary64.not_lt cap.toSeconds_ne_nan (ne_nan_of_isFinite hx)).mpr h
  simp [clip, hx, hlt]

theorem clip_of_lt {cap : Duration} {x : Binary64} (h : cap.toSeconds < x) :
    clip cap x = cap := by
  simp [clip, h]

theorem clip_of_not_finite (cap : Duration) {x : Binary64} (h : x.isFinite = false) :
    clip cap x = cap := by
  simp [clip, h]

/-- Either the cap, or the way back of finite seconds that are not above the cap's. -/
theorem clip_cases (cap : Duration) (x : Binary64) :
    clip cap x = cap ∨
      x.isFinite = true ∧ x ≤ cap.toSeconds ∧ clip cap x = .ofSeconds x := by
  cases hx : x.isFinite with
  | false => exact .inl (clip_of_not_finite cap hx)
  | true =>
    by_cases hlt : cap.toSeconds < x
    · exact .inl (clip_of_lt hlt)
    · have hle := (Binary64.not_lt cap.toSeconds_ne_nan (ne_nan_of_isFinite hx)).mp hlt
      exact .inr ⟨rfl, hle, clip_of_le hx hle⟩

/-- The cut by places: at or above zero only they matter. -/
theorem clip_of_position? {cap : Duration} {x : Binary64} {a : Nat}
    (hx : x.position? = some (a : Int)) :
    clip cap x = if cap.units < a then cap else .nearestNanos a := by
  have hlt : cap.toSeconds < x ↔ cap.units < a := by
    rw [lt_of_positions cap.position?_toSeconds hx, Int.ofNat_lt]
  by_cases h : cap.units < a
  · rw [if_pos h, clip_of_lt (hlt.mpr h)]
  · have hle : x ≤ cap.toSeconds := by
      rw [le_of_positions hx cap.position?_toSeconds]
      omega
    have hzero : zero ≤ x := by
      rw [le_of_positions position?_zero hx]
      omega
    have hfinite : x.isFinite = true := isFinite_of_le hzero hle cap.isFinite_toSeconds
    rw [if_neg h, clip_of_le hfinite hle, Duration.ofSeconds_of_position hx, Int.toNat_natCast]

/-! ## Seconds that go past the cap -/

/-- Only the seconds of the cap themselves can come back longer than the cap. -/
theorem eq_toSeconds_of_lt_clip {cap : Duration} {x : Binary64} (h : cap < clip cap x) :
    x = cap.toSeconds := by
  rcases clip_cases cap x with heq | ⟨hx, hle, heq⟩
  · rw [heq] at h
    exact absurd h (Nat.lt_irrefl _)
  rw [heq] at h
  obtain ⟨a, u, ha, hu, hau⟩ := le_iff.mp hle
  rw [Duration.ofSeconds_of_position ha] at h
  rw [cap.position?_toSeconds, Option.some.injEq] at hu
  obtain ⟨n, rfl⟩ | hneg : (∃ n : Nat, a = n) ∨ a < 0 :=
    if h0 : a < 0 then .inr h0 else .inl ⟨a.toNat, by omega⟩
  · have hn : 0 < n := by
      by_contra hzero
      obtain rfl : n = 0 := by omega
      exact absurd h (by simp [Duration.nearestNanos_zero, Duration.lt_def, Duration.zero])
    rcases cases_of_position? ha hn with ⟨rfl, -⟩ | ⟨m, rfl, rfl⟩
    · cases hx
    · rcases Nat.lt_or_ge m.units cap.units with hlt | hge
      · have := Duration.nearestNanos_le_of_lt m.representable hlt
        exact absurd (Nat.lt_of_lt_of_le h this) (Nat.lt_irrefl _)
      · obtain heq : m.units = cap.units := by omega
        exact eq_of_position? ha (heq ▸ cap.position?_toSeconds) hn
  · have : a.toNat = 0 := by omega
    rw [this, Duration.nearestNanos_zero] at h
    exact absurd h (Nat.not_lt_zero _)

theorem lt_clip_iff {cap : Duration} {x : Binary64} :
    cap < clip cap x ↔ x = cap.toSeconds ∧ cap < .ofSeconds cap.toSeconds := by
  have back : clip cap cap.toSeconds = .ofSeconds cap.toSeconds :=
    clip_of_le cap.isFinite_toSeconds (Binary64.le_refl cap.toSeconds_ne_nan)
  constructor
  · intro h
    obtain rfl := eq_toSeconds_of_lt_clip h
    exact ⟨rfl, back ▸ h⟩
  · rintro ⟨rfl, h⟩
    rwa [back]

/-- **The cap**: an attempt goes past it exactly when its raw seconds are those
of the cap and these come back longer than the cap. -/
theorem cappedDelay_le_maxDelay_iff (p : Policy) (attempt : Nat) :
    p.cappedDelay attempt ≤ p.maxDelay ↔
      p.rawSeconds attempt ≠ p.maxDelay.toSeconds ∨
        Duration.ofSeconds p.maxDelay.toSeconds ≤ p.maxDelay := by
  rw [cappedDelay_eq_clip, ← Duration.not_lt, lt_clip_iff, ← Duration.not_lt]
  tauto

/-- Delay and cap of 97 days and a bit more than two hours, and a nanosecond. -/
def longCap : Policy where
  baseDelay := .saturating 8_388_608_000_000_001
  maxDelay := .saturating 8_388_608_000_000_001
  multiplier := .nearest 2 1
  jitterFactor := .zero
  maxRetries := none

/-- A sound policy with a delay above its cap: a nanosecond more than 2^23 seconds
comes back as two. -/
theorem longCap_exceeded :
    longCap.check = .ok () ∧ longCap.cappedDelay 0 = .saturating 8_388_608_000_000_002 ∧
      longCap.maxDelay < longCap.cappedDelay 0 := by
  decide +kernel

/-! ## Caps below 2^23 seconds -/

section

variable {cap : Duration} (hcap : cap.secs < 2 ^ 23)

include hcap

theorem clip_le (x : Binary64) : clip cap x ≤ cap := by
  rw [← Duration.not_lt, lt_clip_iff,
    Duration.ofSeconds_toSeconds (Duration.nanos_lt_of_secs_lt hcap)]
  exact fun h => Nat.lt_irrefl _ h.2

theorem clip_mono {x y : Binary64} (hx : zero ≤ x) (h : x ≤ y) : clip cap x ≤ clip cap y := by
  rcases clip_cases cap y with hy | ⟨hyf, hyle, hy⟩
  · rw [hy]
    exact clip_le hcap x
  · rw [hy, clip_of_le (isFinite_of_le hx h hyf) (Binary64.le_trans h hyle)]
    exact Duration.ofSeconds_le_ofSeconds h

/-- Cut at the cap, the seconds of a duration are those of the shorter of the two. -/
theorem clip_toSeconds (d : Duration) : clip cap d.toSeconds = min d cap := by
  have hcap' := Duration.nanos_lt_of_secs_lt hcap
  have below {d : Duration} (h : d ≤ cap) : clip cap d.toSeconds = d := by
    rw [clip_of_le d.isFinite_toSeconds (Duration.toSeconds_mono h)]
    exact Duration.ofSeconds_toSeconds (Nat.lt_of_le_of_lt h hcap')
  rcases Nat.le_total d.nanos cap.nanos with hle | hle
  · rw [below hle, Duration.min_eq_left hle]
  · have hgrow := clip_mono hcap cap.zero_le_toSeconds (Duration.toSeconds_mono hle)
    rw [below (Nat.le_refl _)] at hgrow
    have heq : clip cap d.toSeconds = cap := Duration.ext (Nat.le_antisymm (clip_le hcap _) hgrow)
    rw [heq, Duration.min_eq_right hle]

end

end Policy

end Reconnect
