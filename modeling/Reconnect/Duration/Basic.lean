/-
Reconnect.Duration.Basic — lengths of time.

A duration is a whole number of nanoseconds whose whole seconds fit in 64 bits.

* `Duration`: the type; `secs` and `subsecNanos` are its two parts.
* `ofParts`: a duration from its two parts.
* `saturating`: the longest duration not above a count of nanoseconds.
* `saturatingAdd`: the sum, cut at the longest duration; `saturating_add`.
* `toSeconds`: the seconds as a number, `as_secs_f64`; whole seconds and fraction are
  rounded each, and so is their sum.
* `ofSeconds`: the nearest duration to a number of seconds, `secs_to_duration`: ties go
  to even, nothing lies below zero, and from 2^64 seconds on it is the longest duration.
-/
import Reconnect.Binary64.Basic

namespace Reconnect

/-- A length of time in whole nanoseconds, below 2^64 seconds. -/
structure Duration where
  nanos : Nat
  nanos_lt : nanos < (1 <<< 64) * 1_000_000_000
  deriving DecidableEq

namespace Duration

theorem ext {a b : Duration} (h : a.nanos = b.nanos) : a = b := by
  cases a; cases b; simp_all

/-! ## Order -/

instance : LT Duration := ⟨fun a b => a.nanos < b.nanos⟩
instance : LE Duration := ⟨fun a b => a.nanos ≤ b.nanos⟩
instance (a b : Duration) : Decidable (a < b) := inferInstanceAs (Decidable (a.nanos < b.nanos))
instance (a b : Duration) : Decidable (a ≤ b) := inferInstanceAs (Decidable (a.nanos ≤ b.nanos))
instance : Min Duration := minOfLe
instance : Max Duration := maxOfLe

theorem lt_def {a b : Duration} : a < b ↔ a.nanos < b.nanos := Iff.rfl
theorem le_def {a b : Duration} : a ≤ b ↔ a.nanos ≤ b.nanos := Iff.rfl
theorem not_lt {a b : Duration} : ¬ a < b ↔ b ≤ a := Nat.not_lt

protected theorem min_eq_left {a b : Duration} (h : a ≤ b) : min a b = a := if_pos h

protected theorem min_eq_right {a b : Duration} (h : b ≤ a) : min a b = b := by
  by_cases hab : a ≤ b
  · exact (Duration.min_eq_left hab).trans (ext (Nat.le_antisymm hab h))
  · exact if_neg hab

/-! ## Parts -/

/-- The whole seconds (`as_secs`). -/
def secs (d : Duration) : Nat := d.nanos / 1_000_000_000

/-- The nanoseconds beyond the whole seconds (`subsec_nanos`). -/
def subsecNanos (d : Duration) : Nat := d.nanos % 1_000_000_000

/-- The duration of so many seconds and nanoseconds. -/
def ofParts (secs : Fin (1 <<< 64)) (subsecNanos : Fin 1_000_000_000) : Duration where
  nanos := secs * 1_000_000_000 + subsecNanos
  nanos_lt := by omega

theorem secs_lt (d : Duration) : d.secs < 1 <<< 64 := by
  have := d.nanos_lt
  unfold secs
  omega

theorem subsecNanos_lt (d : Duration) : d.subsecNanos < 1_000_000_000 :=
  Nat.mod_lt _ (by decide)

@[simp] theorem secs_ofParts (s : Fin (1 <<< 64)) (n : Fin 1_000_000_000) :
    (ofParts s n).secs = s := by
  simp only [secs, ofParts]
  omega

@[simp] theorem subsecNanos_ofParts (s : Fin (1 <<< 64)) (n : Fin 1_000_000_000) :
    (ofParts s n).subsecNanos = n := by
  simp only [subsecNanos, ofParts]
  omega

theorem ofParts_secs_subsecNanos (d : Duration) :
    ofParts ⟨d.secs, d.secs_lt⟩ ⟨d.subsecNanos, d.subsecNanos_lt⟩ = d := by
  apply ext
  simp only [ofParts, secs, subsecNanos]
  omega

/-! ## Particular durations and saturation -/

/-- No time at all. -/
def zero : Duration := ⟨0, by decide⟩

/-- The longest duration, `MAX`: one nanosecond short of 2^64 seconds. -/
def longest : Duration := ⟨(1 <<< 64) * 1_000_000_000 - 1, by decide⟩

/-- A whole number of seconds (`from_secs`). -/
def seconds (s : UInt64) : Duration := ofParts s.toFin 0

/-- So many nanoseconds, or the longest duration where they are too many. -/
def saturating (nanos : Nat) : Duration where
  nanos := min nanos longest.nanos
  nanos_lt := Nat.lt_of_le_of_lt (Nat.min_le_right _ _) longest.nanos_lt

/-- The sum, or the longest duration where the sum is too long (`saturating_add`). -/
def saturatingAdd (a b : Duration) : Duration := saturating (a.nanos + b.nanos)

theorem nanos_saturating (n : Nat) : (saturating n).nanos = min n longest.nanos := rfl

theorem le_longest (d : Duration) : d ≤ longest := by
  have := d.nanos_lt
  simp only [le_def, longest]
  omega

theorem saturating_nanos (d : Duration) : saturating d.nanos = d :=
  ext (Nat.min_eq_left d.le_longest)

theorem le_saturatingAdd (a b : Duration) : a ≤ a.saturatingAdd b :=
  Nat.le_min.mpr ⟨Nat.le_add_right _ _, a.le_longest⟩

@[simp] theorem saturatingAdd_zero (d : Duration) : d.saturatingAdd zero = d :=
  saturating_nanos d

/-! ## Seconds as numbers -/

/-- The duration in seconds (`as_secs_f64`): whole seconds plus billionths, with three
roundings. -/
def toSeconds (d : Duration) : Binary64 :=
  .nearest d.secs 1 + .nearest d.subsecNanos 1_000_000_000

/-- The duration closest to `x` seconds (`secs_to_duration`). Not-a-number and what is
not above zero give no time at all; from 2^64 seconds on the result is the longest one. -/
def ofSeconds : Binary64 → Duration
  | .nan => zero
  | .infinite negative => if negative then zero else longest
  | .finite negative m =>
    if negative then zero else saturating (roundDiv (m.units * 1_000_000_000) Binary64.scale)

end Duration

end Reconnect
