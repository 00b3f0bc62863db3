/-
Reconnect.Proofs.Policy.Equality — equal policies give equal delays.

Policies are compared numerically, so equal ones may still differ in the sign of a zero.
All that is computed of a policy's numbers goes by their places, in which that sign does
not show; only the bound on a draw may carry it further.

* `position?_rawSeconds_congr`, `cappedDelay_congr`: the delays before jitter.
* `position?_jitterRange_congr`, `maxJitteredDelay_congr`: the jitter on them.
* `eqVerdict`, `eqVerdict_check`: equal policies pass the check, or have equal faults.
-/
import Reconnect.Policy
import Reconnect.Proofs.Binary64.Place
import Reconnect.Proofs.Policy.Cap

namespace Reconnect

open Binary64

/-- The way back from seconds goes by places; not-a-number has none and gives no time. -/
theorem Duration.ofSeconds_congr {x y : Binary64} (h : x.position? = y.position?) :
    ofSeconds x = ofSeconds y := by
  rcases eq_or_zero_of_position?_eq h with rfl | ⟨hx, hy⟩
  · rfl
  · rw [ofSeconds_of_position hx, ofSeconds_of_position hy]

/-- Equality of what a check says, numbers being compared numerically. -/
def Fault.eqVerdict : Except Fault Unit → Except Fault Unit → Bool
  | .ok _, .ok _ => true
  | .error fault, .error fault' => fault.eq fault'
  | _, _ => false

namespace Policy

theorem clip_congr (cap : Duration) {x y : Binary64} (h : x.position? = y.position?) :
    clip cap x = clip cap y := by
  have hlt : cap.toSeconds < x ↔ cap.toSeconds < y := lt_congr rfl h
  simp only [clip, isFinite_congr h, hlt, Duration.ofSeconds_congr h]

variable {p q : Policy} (h : p.eq q = true)

include h

theorem position?_rawSeconds_congr (n : Nat) :
    (p.rawSeconds n).position? = (q.rawSeconds n).position? := by
  obtain ⟨hbase, -, hmultiplier, -, -⟩ := eq_iff.mp h
  have hpower := position?_power_congr (position?_eq_of_eq hmultiplier) (exponent n)
  rw [rawSeconds, rawSeconds, hbase]
  exact position?_mul_congr_right _ hpower

theorem cappedDelay_congr (n : Nat) : p.cappedDelay n = q.cappedDelay n := by
  obtain ⟨-, hmax, -, -, -⟩ := eq_iff.mp h
  rw [cappedDelay_eq_clip, cappedDelay_eq_clip, hmax]
  exact clip_congr _ (position?_rawSeconds_congr h n)

/-- The bounds on a draw are at one place, though one may be the other zero. -/
theorem position?_jitterRange_congr (capped : Duration) :
    (p.jitterRange capped).position? = (q.jitterRange capped).position? := by
  obtain ⟨-, -, -, hfactor, -⟩ := eq_iff.mp h
  exact position?_mul_congr_right _ (position?_eq_of_eq hfactor)

theorem maxJitteredDelay_congr : p.maxJitteredDelay = q.maxJitteredDelay := by
  obtain ⟨-, hmax, -, -, -⟩ := eq_iff.mp h
  rw [maxJitteredDelay, maxJitteredDelay, hmax]
  rw [Duration.ofSeconds_congr (position?_jitterRange_congr h q.maxDelay)]

/-- Equal policies are sound both, or have equal faults. -/
theorem eqVerdict_check : Fault.eqVerdict p.check q.check = true := by
  obtain ⟨hbase, hmax, hmultiplier, hfactor, -⟩ := eq_iff.mp h
  have hgrowth : p.multiplier < .one ↔ q.multiplier < .one :=
    lt_congr (position?_eq_of_eq hmultiplier) rfl
  have hshare : p.jitterFactor < .zero ↔ q.jitterFactor < .zero :=
    lt_congr (position?_eq_of_eq hfactor) rfl
  -- the two checks ask the same questions, so they stop at the same one
  simp only [check, hbase, hmax, isFinite_congr (position?_eq_of_eq hmultiplier), hgrowth,
    isFinite_congr (position?_eq_of_eq hfactor), hshare]
  split
  · rfl
  · split
    · simp [Fault.eqVerdict, Fault.eq]
    · split
      · exact hmultiplier
      · split
        · exact hfactor
        · rfl

end Policy

end Reconnect
