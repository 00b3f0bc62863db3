/-
Reconnect.Policy — what shapes the delays between two attempts.

The delay of attempt `n` grows as `baseDelay * multiplier ^ n`, computed in
binary64 seconds, up to the cap. It depends on `n` alone, so jitter added to
one delay never reaches another.

* `Policy`: `BackoffPolicy`, that is the delay of the first attempt, the cap, the
  growth per attempt, the share of the delay that jitter may add, and the retry budget.
* `standard`, `persistentBroker`, `boundedCollector`: the ready-made policies,
  `default`, `persistent_broker` and `bounded_collector`.
* `Adjustment`, `adjust`: one setting replaced, by any of the `with_` functions.
* `eq`: equality that compares the numbers numerically.
* `cappedDelay`: the delay of an attempt before jitter, `capped_delay`.
* `jitterRange`: the most seconds that jitter may add to a delay, `jitter_range`.
* `maxJitteredDelay`: the cap with the most jitter on it, `max_jittered_delay`.
* `check`: the first fault of a policy, `validate`, in the order base delay, cap,
  multiplier, jitter factor; `Sound`: the policies without one.
-/
import Reconnect.Duration.Basic
import Reconnect.Fault

namespace Reconnect

/-- The tuning of a reconnect loop (`BackoffPolicy`). Nothing is required of the values;
see `Policy.check` for the sound ones. -/
structure Policy where
  /-- The delay of the first attempt, before jitter. -/
  baseDelay : Duration
  /-- The cap on the delay, before jitter. -/
  maxDelay : Duration
  /-- The growth from one attempt to the next. -/
  multiplier : Binary64
  /-- The share of the capped delay that jitter may add. -/
  jitterFactor : Binary64
  /-- The number of attempts allowed after a success; unbounded where there is none. -/
  maxRetries : Option UInt32
  deriving DecidableEq

namespace Policy

/-! ## Ready-made policies -/

/-- From two seconds doubling to a minute, a quarter of jitter, no end of retries
(`default`). -/
def standard : Policy where
  baseDelay := .seconds 2
  maxDelay := .seconds 60
  multiplier := .nearest 2 1
  jitterFactor := .nearest 1 4
  maxRetries := none

/-- For a connection that is expected to come back: up to two minutes, for ever
(`persistent_broker`). -/
def persistentBroker : Policy where
  baseDelay := .seconds 2
  maxDelay := .seconds 120
  multiplier := .nearest 2 1
  jitterFactor := .nearest 1 4
  maxRetries := none

/-- For a short fetch with something to fall back on: three retries
(`bounded_collector`). -/
def boundedCollector : Policy where
  baseDelay := .seconds 1
  maxDelay := .seconds 10
  multiplier := .nearest 2 1
  jitterFactor := .nearest 15 100
  maxRetries := some 3

/-! ## Adjustments -/

/-- One setting to replace. -/
inductive Adjustment where
  | baseDelay (delay : Duration)
  | maxDelay (delay : Duration)
  | multiplier (factor : Binary64)
  | jitterFactor (factor : Binary64)
  | maxRetries (retries : UInt32)
  | unlimitedRetries

/-- The policy with one setting replaced: `with_base_delay`, `with_max_delay`,
`with_multiplier`, `with_jitter_factor`, `with_max_retries` and `with_unlimited_retries`. -/
def adjust (p : Policy) : Adjustment → Policy
  | .baseDelay delay => { p with baseDelay := delay }
  | .maxDelay delay => { p with maxDelay := delay }
  | .multiplier factor => { p with multiplier := factor }
  | .jitterFactor factor => { p with jitterFactor := factor }
  | .maxRetries retries => { p with maxRetries := some retries }
  | .unlimitedRetries => { p with maxRetries := none }

/-- The policy with settings replaced from first to last. -/
def adjustAll (p : Policy) (adjustments : List Adjustment) : Policy := adjustments.foldl adjust p

/-! ## Equality -/

/-- Equality of settings, numbers being compared numerically: a policy with a
setting that is not-a-number equals none. -/
def eq (p q : Policy) : Bool :=
  decide (p.baseDelay = q.baseDelay) && decide (p.maxDelay = q.maxDelay) &&
    p.multiplier.eq q.multiplier && p.jitterFactor.eq q.jitterFactor &&
    decide (p.maxRetries = q.maxRetries)

theorem eq_iff {p q : Policy} :
    p.eq q = true ↔
      p.baseDelay = q.baseDelay ∧ p.maxDelay = q.maxDelay ∧ p.multiplier.eq q.multiplier ∧
        p.jitterFactor.eq q.jitterFactor ∧ p.maxRetries = q.maxRetries := by
  simp [eq, and_assoc]

/-! ## The ramp -/

/-- The greatest exponent that the multiplier is raised to: that of `powi`. -/
def maxExponent : Nat := (1 <<< 31) - 1

/-- The exponent of an attempt. -/
def exponent (attempt : Nat) : Nat := min attempt maxExponent

/-- The delay of an attempt in seconds, before the cap. -/
def rawSeconds (p : Policy) (attempt : Nat) : Binary64 :=
  p.baseDelay.toSeconds * p.multiplier.power (exponent attempt)

/-- The delay of an attempt, before jitter (`capped_delay`): the cap where the seconds
are not finite or above it, else the nearest duration. -/
def cappedDelay (p : Policy) (attempt : Nat) : Duration :=
  let seconds := p.rawSeconds attempt
  if !seconds.isFinite || p.maxDelay.toSeconds < seconds then p.maxDelay
  else .ofSeconds seconds

/-- The most seconds that jitter may add to a capped delay (`jitter_range`). -/
def jitterRange (p : Policy) (capped : Duration) : Binary64 := capped.toSeconds * p.jitterFactor

/-- The cap with the most jitter that the policy allows on it (`max_jittered_delay`). -/
def maxJitteredDelay (p : Policy) : Duration :=
  p.maxDelay.saturatingAdd (.ofSeconds (p.jitterRange p.maxDelay))

/-! ## Sound policies -/

/-- The first fault of a policy (`validate`). -/
def check (p : Policy) : Except Fault Unit :=
  if p.baseDelay = .zero then .error .zeroBaseDelay
  else if p.maxDelay < p.baseDelay then .error (.maxBelowBase p.baseDelay p.maxDelay)
  else if !p.multiplier.isFinite || p.multiplier < .one then
    .error (.invalidMultiplier p.multiplier)
  else if !p.jitterFactor.isFinite || p.jitterFactor < .zero then
    .error (.invalidJitterFactor p.jitterFactor)
  else .ok ()

/-- A policy without a fault: some first delay, a cap not below it, a finite
multiplier of at least one and a finite jitter factor of at least zero. -/
structure Sound (p : Policy) : Prop where
  baseDelay_ne : p.baseDelay ≠ .zero
  baseDelay_le : p.baseDelay ≤ p.maxDelay
  multiplier_finite : p.multiplier.isFinite = true
  multiplier_ge : ¬ p.multiplier < .one
  jitterFactor_finite : p.jitterFactor.isFinite = true
  jitterFactor_ge : ¬ p.jitterFactor < .zero

/-- The check passes exactly the sound policies. -/
theorem check_eq_ok_iff {p : Policy} : p.check = .ok () ↔ p.Sound := by
  unfold check
  constructor
  · intro h
    split at h <;> try cases h
    split at h <;> try cases h
    split at h <;> try cases h
    split at h <;> try cases h
    rename_i base max multiplier jitter
    simp only [Bool.or_eq_true, Bool.not_eq_true', decide_eq_true_eq, not_or,
      Bool.not_eq_false] at multiplier jitter
    exact ⟨base, Duration.not_lt.mp max, multiplier.1, multiplier.2, jitter.1, jitter.2⟩
  · rintro ⟨base, max, multiplier, growth, jitter, factor⟩
    rw [if_neg base, if_neg (Duration.not_lt.mpr max)]
    simp [multiplier, growth, jitter, factor]

end Policy

end Reconnect
