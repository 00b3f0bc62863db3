/-
Reconnect.Pacer.Basic — the state of one reconnect loop.

A pacer holds a policy and a jitter source and counts the delays that it
computed, since the last success and since it was made. Every delay is the
capped delay of the attempt plus jitter; the retry budget is advice, and
computing goes on past it.

* `Pause`: one computed delay with all that went into it.
* `Pacer`: `Backoff`, the state; `Pacer.new` is a fresh one, `with_jitter`.
* `next`: the next delay, `next_delay`; the delay that it answers is `Pause.delay`.
* `iterate`: the next delay within the budget, which is `next` of the iterator.
* `shouldRetry`, `remaining`: the budget, `should_retry` and `remaining_retries`.
* `reset`: a success, `reset`.
* `drain`, `repeatNext`: delay after delay, within the budget or whatever it is.
-/
import Reconnect.Jitter
import Reconnect.Policy

namespace Reconnect

/-- A reading of the clock; it is kept and compared, never computed with. -/
structure Instant where
  reading : Int
  deriving DecidableEq

/-- One computed delay. -/
structure Pause where
  /-- The attempts counted before it. -/
  attempt : Nat
  /-- The delays computed by the pacer, this one included. -/
  total : Nat
  /-- The delay before jitter. -/
  capped : Duration
  /-- The bound that the source was asked under. -/
  upper : Binary64
  /-- The seconds that the source answered (`sample_jitter`). -/
  draw : Binary64

namespace Pause

/-- The jitter as a duration; answers that are not above zero give none. -/
def jitter (pause : Pause) : Duration := .ofSeconds pause.draw

/-- The whole delay, which `next_delay` answers. -/
def delay (pause : Pause) : Duration := pause.capped.saturatingAdd pause.jitter

/-- The longest delay that jitter within the bound can give. -/
def longest (pause : Pause) : Duration := pause.capped.saturatingAdd (.ofSeconds pause.upper)

/-- Whether the delay lies between the capped delay and the longest one. -/
def inRange (pause : Pause) : Bool := pause.capped ≤ pause.delay && pause.delay ≤ pause.longest

end Pause

/-- The state of one reconnect loop (`Backoff`). -/
structure Pacer (σ : Type) where
  policy : Policy
  source : σ
  /-- The delays computed since the last reset. -/
  attempt : Nat
  /-- The delays computed since the pacer was made (`total_attempts`). -/
  total : Nat
  /-- When the last delay was computed (`last_attempt_at`). -/
  lastAttempt : Option Instant

namespace Pacer

variable {σ : Type}

/-- The greatest count of attempts. -/
def attemptLimit : Nat := (1 <<< 32) - 1

/-- The greatest count of delays. -/
def totalLimit : Nat := (1 <<< 64) - 1

/-- A fresh pacer (`with_jitter`). -/
def new (policy : Policy) (source : σ) : Pacer σ where
  policy := policy
  source := source
  attempt := 0
  total := 0
  lastAttempt := none

/-- A success (`reset`): attempts are counted from zero again; all else stays. -/
def reset (p : Pacer σ) : Pacer σ := { p with attempt := 0 }

/-- Whether the retry budget allows another attempt (`should_retry`). -/
def shouldRetry (p : Pacer σ) : Bool :=
  match p.policy.maxRetries with
  | none => true
  | some retries => p.attempt < retries.toNat

/-- The attempts left in the retry budget, where there is one (`remaining_retries`). -/
def remaining (p : Pacer σ) : Option Nat :=
  p.policy.maxRetries.map (·.toNat - p.attempt)

/-- Whether a delay was ever computed. -/
def isStamped (p : Pacer σ) : Bool := p.lastAttempt.isSome

@[simp] theorem reset_attempt (p : Pacer σ) : p.reset.attempt = 0 := rfl
@[simp] theorem reset_total (p : Pacer σ) : p.reset.total = p.total := rfl
@[simp] theorem reset_policy (p : Pacer σ) : p.reset.policy = p.policy := rfl
@[simp] theorem reset_source (p : Pacer σ) : p.reset.source = p.source := rfl
@[simp] theorem reset_lastAttempt (p : Pacer σ) : p.reset.lastAttempt = p.lastAttempt := rfl

/-! ## Computing delays -/

variable [Jitter σ]

/-- The next delay, and the pacer that has counted it (`next_delay`). -/
def next (now : Instant) (p : Pacer σ) : Pause × Pacer σ :=
  let capped := p.policy.cappedDelay p.attempt
  let upper := p.policy.jitterRange capped
  let (draw, source) := Jitter.draw p.source upper
  let total := min (p.total + 1) totalLimit
  ({ attempt := p.attempt, total, capped, upper, draw },
    { p with
      source
      attempt := min (p.attempt + 1) attemptLimit
      total
      lastAttempt := some now })

@[simp] theorem next_policy (now : Instant) (p : Pacer σ) :
    (p.next now).2.policy = p.policy := rfl
@[simp] theorem next_attempt (now : Instant) (p : Pacer σ) :
    (p.next now).2.attempt = min (p.attempt + 1) attemptLimit := rfl
@[simp] theorem next_total (now : Instant) (p : Pacer σ) :
    (p.next now).2.total = min (p.total + 1) totalLimit := rfl
@[simp] theorem next_lastAttempt (now : Instant) (p : Pacer σ) :
    (p.next now).2.lastAttempt = some now := rfl
@[simp] theorem next_pause_attempt (now : Instant) (p : Pacer σ) :
    (p.next now).1.attempt = p.attempt := rfl
@[simp] theorem next_capped (now : Instant) (p : Pacer σ) :
    (p.next now).1.capped = p.policy.cappedDelay p.attempt := rfl
@[simp] theorem next_upper (now : Instant) (p : Pacer σ) :
    (p.next now).1.upper = p.policy.jitterRange (p.policy.cappedDelay p.attempt) := rfl
theorem next_draw (now : Instant) (p : Pacer σ) :
    (p.next now).1.draw = (Jitter.draw p.source (p.next now).1.upper).1 := rfl
theorem next_source (now : Instant) (p : Pacer σ) :
    (p.next now).2.source = (Jitter.draw p.source (p.next now).1.upper).2 := rfl

/-- The next delay where the budget allows one; else nothing happens (`next` of the
iterator). -/
def iterate (now : Instant) (p : Pacer σ) : Option Pause × Pacer σ :=
  if p.shouldRetry then
    let (pause, p) := p.next now
    (some pause, p)
  else (none, p)

/-- The delays that the budget allows, at most `limit` of them. -/
def drain (now : Instant) : (limit : Nat) → Pacer σ → List Pause × Pacer σ
  | 0, p => ([], p)
  | limit + 1, p =>
    match p.iterate now with
    | (none, p) => ([], p)
    | (some pause, p) =>
      let (pauses, p) := p.drain now limit
      (pause :: pauses, p)

/-- The next delays on top of earlier ones, the last one first. -/
def repeatOnto (now : Instant) (earlier : List Pause) : (count : Nat) → Pacer σ →
    List Pause × Pacer σ
  | 0, p => (earlier, p)
  | count + 1, p =>
    let (pause, p) := p.next now
    p.repeatOnto now (pause :: earlier) count

/-- The next `count` delays, whatever the budget. -/
def repeatNext (now : Instant) (count : Nat) (p : Pacer σ) : List Pause × Pacer σ :=
  let (pauses, p) := p.repeatOnto now [] count
  (pauses.reverse, p)

end Pacer

end Reconnect
