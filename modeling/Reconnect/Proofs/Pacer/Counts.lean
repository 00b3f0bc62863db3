/-
Reconnect.Proofs.Pacer.Counts — what the counts of a pacer count.

Delays are computed by three operations and by the iterator while the budget
lasts; a wait that loses its race has computed one, and a wait that is never
started has not. Which entries of a trace computed a delay can be told from the
operation and its answer alone (`isSome_pause`), and the two counts are the numbers
of these entries, since the last reset and in all.

* `Operation.computes`: whether an operation with such an answer computed a delay.
* `computed`: the delays that a trace shows.
* `Counted`: the counts, the stamp and the policy after a trace.
* `Counted.step`: one operation keeps it; `counted_final`: every run reaches it.
* `counts`: what every step of every run does to the counts.
-/
import Reconnect.Proofs.Pacer.Run

namespace Reconnect

/-- Whether an operation with such an answer has computed a delay. A started wait
has, whether it was lost or not. -/
def Operation.computes : Operation → Answer → Bool
  | .next, _ => true
  | .wait, _ => true
  | .race _, _ => true
  | .iterate, answer => answer.delay?.isSome
  | _, _ => false

namespace Pacer

variable {σ : Type}

/-! ## The counts after a trace -/

/-- The delays that a trace shows. -/
def computed (entries : List (Operation × Step σ)) : Nat :=
  entries.countP (·.2.pause.isSome)

/-- A pacer made with a policy, after the entries of a trace: its counts are the
delays since the last reset and all delays, as far as counts go, and it is stamped
once there is a delay. -/
structure Counted (policy : Policy) (entries : List (Operation × Step σ)) (p : Pacer σ) :
    Prop where
  policy : p.policy = policy
  attempt : p.attempt = min (sinceReset entries) attemptLimit
  total : p.total = min (computed entries) totalLimit
  stamped : p.isStamped = true ↔ 0 < p.total
  attempt_le_total : p.attempt ≤ p.total

theorem counted_new (policy : Policy) (source : σ) : Counted policy [] (new policy source) where
  policy := rfl
  attempt := rfl
  total := rfl
  stamped := by simp [isStamped, new]
  attempt_le_total := Nat.le_refl 0

theorem Counted.attempt_le {policy : Policy} {entries : List (Operation × Step σ)} {p : Pacer σ}
    (h : Counted policy entries p) : p.attempt ≤ attemptLimit := by
  rw [h.attempt]
  exact Nat.min_le_right _ _

theorem Counted.total_le {policy : Policy} {entries : List (Operation × Step σ)} {p : Pacer σ}
    (h : Counted policy entries p) : p.total ≤ totalLimit := by
  rw [h.total]
  exact Nat.min_le_right _ _

theorem sinceReset_concat (entries : List (Operation × Step σ)) (entry : Operation × Step σ) :
    sinceReset (entries ++ [entry]) = tally (sinceReset entries) entry := by
  simp [sinceReset]

theorem computed_concat (entries : List (Operation × Step σ)) (entry : Operation × Step σ) :
    computed (entries ++ [entry]) =
      computed entries + if entry.2.pause.isSome then 1 else 0 := by
  simp [computed, List.countP_singleton]

theorem attemptLimit_le_totalLimit : attemptLimit ≤ totalLimit := by decide

theorem totalLimit_pos : 0 < totalLimit := by decide

/-! ## One step and a run -/

variable [Jitter σ]

theorem isSome_pause (now : Instant) (p : Pacer σ) (operation : Operation) :
    (p.step now operation).pause.isSome = operation.computes (p.step now operation).answer := by
  cases operation with
  | iterate =>
    by_cases allowed : p.shouldRetry = true
    · simp [step, iterate, allowed, Operation.computes, Answer.delay?]
    · simp [step, iterate, allowed, Operation.computes, Answer.delay?]
  | next => rfl
  | wait => rfl
  | race wins => rfl
  | waitUnstarted => rfl
  | reset => rfl
  | shouldRetry => rfl
  | remaining => rfl
  | policy => rfl
  | state => rfl

@[simp] theorem step_policy (now : Instant) (p : Pacer σ) (operation : Operation) :
    (p.step now operation).after.policy = p.policy := by
  obtain ⟨-, -, hafter⟩ | ⟨-, -, hafter⟩ | ⟨-, -, hafter⟩ := step_cases now p operation
  · rw [hafter, next_policy]
  · rw [hafter, reset_policy]
  · rw [hafter]

theorem step_total {p : Pacer σ} {count : Nat} (h : p.total = min count totalLimit)
    (now : Instant) (operation : Operation) :
    (p.step now operation).after.total =
      min (count + if (p.step now operation).pause.isSome then 1 else 0) totalLimit := by
  obtain ⟨-, hpause, hafter⟩ | ⟨-, hpause, hafter⟩ | ⟨-, hpause, hafter⟩ :=
    step_cases now p operation
  · rw [hafter, hpause, next_total, h]
    simp only [Option.isSome_some, if_true]
    omega
  · rw [hafter, hpause, reset_total, h]
    rfl
  · rw [hafter, hpause, h]
    rfl

theorem step_isStamped {p : Pacer σ} (h : p.isStamped = true ↔ 0 < p.total) (now : Instant)
    (operation : Operation) :
    (p.step now operation).after.isStamped = true ↔
      0 < (p.step now operation).after.total := by
  obtain ⟨-, -, hafter⟩ | ⟨-, -, hafter⟩ | ⟨-, -, hafter⟩ := step_cases now p operation
  · rw [hafter, isStamped, next_lastAttempt, next_total]
    simp only [Option.isSome_some, true_iff]
    exact Nat.lt_min.mpr ⟨Nat.succ_pos _, totalLimit_pos⟩
  · rw [hafter, reset_total]
    exact h
  · rwa [hafter]

theorem step_attempt_le_total {p : Pacer σ} (h : p.attempt ≤ p.total) (now : Instant)
    (operation : Operation) :
    (p.step now operation).after.attempt ≤ (p.step now operation).after.total := by
  obtain ⟨-, -, hafter⟩ | ⟨-, -, hafter⟩ | ⟨-, -, hafter⟩ := step_cases now p operation
  · rw [hafter, next_attempt, next_total]
    exact min_le_min (Nat.succ_le_succ h) attemptLimit_le_totalLimit
  · rw [hafter, reset_attempt]
    exact Nat.zero_le _
  · rwa [hafter]

theorem Counted.step {policy : Policy} {entries : List (Operation × Step σ)} {p : Pacer σ}
    (h : Counted policy entries p) (now : Instant) (operation : Operation) :
    Counted policy (entries ++ [(operation, p.step now operation)])
      (p.step now operation).after where
  policy := by rw [step_policy, h.policy]
  attempt := by rw [step_attempt h.attempt, sinceReset_concat]
  total := by rw [step_total h.total, computed_concat]
  stamped := step_isStamped h.stamped now operation
  attempt_le_total := step_attempt_le_total h.attempt_le_total now operation

theorem Counted.final {policy : Policy} {entries : List (Operation × Step σ)} {p : Pacer σ}
    (h : Counted policy entries p) (plan : List (Instant × Operation)) :
    Counted policy (entries ++ p.trace plan) (p.final plan) := by
  induction plan generalizing entries p with
  | nil =>
    rw [trace_nil, List.append_nil]
    exact h
  | cons entry plan ih =>
    obtain ⟨now, operation⟩ := entry
    have := ih (h.step now operation)
    rwa [List.append_assoc, List.singleton_append, ← trace_cons, ← final_cons] at this

theorem counted_final (policy : Policy) (source : σ) (plan : List (Instant × Operation)) :
    Counted policy ((new policy source).trace plan) ((new policy source).final plan) :=
  (counted_new policy source).final plan

/-- The counts after the first entries of a run. -/
theorem counted_take (policy : Policy) (source : σ) (plan : List (Instant × Operation)) (i : Nat) :
    Counted policy (((new policy source).trace plan).take i)
      ((new policy source).final (plan.take i)) := by
  rw [take_trace]
  exact counted_final policy source (plan.take i)

theorem total_le_step {p : Pacer σ} (h : p.total ≤ totalLimit) (now : Instant)
    (operation : Operation) : p.total ≤ (p.step now operation).after.total := by
  obtain ⟨-, -, hafter⟩ | ⟨-, -, hafter⟩ | ⟨-, -, hafter⟩ := step_cases now p operation
  · rw [hafter, next_total]
    exact Nat.le_min.mpr ⟨Nat.le_succ _, h⟩
  · rw [hafter, reset_total]
  · rw [hafter]

/-- Only a reset takes anything off the attempts. -/
theorem attempt_le_step {p : Pacer σ} (h : p.attempt ≤ attemptLimit) (now : Instant)
    {operation : Operation} (hop : operation ≠ .reset) :
    p.attempt ≤ (p.step now operation).after.attempt := by
  obtain ⟨-, -, hafter⟩ | ⟨hreset, -, -⟩ | ⟨-, -, hafter⟩ := step_cases now p operation
  · rw [hafter, next_attempt]
    exact Nat.le_min.mpr ⟨Nat.le_succ _, h⟩
  · exact absurd hreset hop
  · rw [hafter]

/-- **The counts**: after every step of every run the attempts are the delays since
the last reset and the total is all delays; the total never falls and the attempts
fall in a reset only; and every delay that a step computes or gives away is the
capped one of the attempts before the step, with jitter on it. -/
theorem counts (policy : Policy) (source : σ) (plan : List (Instant × Operation)) {i : Nat}
    {entry : Operation × Step σ} (hentry : ((new policy source).trace plan)[i]? = some entry) :
    Counted policy (((new policy source).trace plan).take (i + 1)) entry.2.after ∧
      entry.2.pause.isSome = entry.1.computes entry.2.answer ∧
      ((new policy source).final (plan.take i)).total ≤ entry.2.after.total ∧
      (entry.2.after.attempt < ((new policy source).final (plan.take i)).attempt →
        entry.1 = .reset) ∧
      (∀ pause, entry.2.pause = some pause →
        pause.delay = (policy.cappedDelay (min (sinceReset
          (((new policy source).trace plan).take i)) attemptLimit)).saturatingAdd pause.jitter) ∧
      ∀ delay, entry.2.answer.delay? = some delay →
        ∃ pause, entry.2.pause = some pause ∧ pause.delay = delay := by
  have before := counted_take policy source plan i
  have after := counted_take policy source plan (i + 1)
  rw [← after_of_trace hentry] at after
  obtain ⟨now, operation, rfl⟩ := exists_step_of_trace hentry
  refine ⟨after, isSome_pause now _ operation, total_le_step before.total_le now operation,
    ?_, ?_, fun delay => pause_of_delay?⟩
  · intro hlt
    by_contra hop
    exact absurd (attempt_le_step before.attempt_le now hop) (Nat.not_le.mpr hlt)
  · intro pause hpause
    obtain rfl := eq_next_of_pause hpause
    rw [Pause.delay, next_capped, before.policy, before.attempt]

/-- Past a budget of three: three delays, one of them lost to its timer, a refusal and
a delay all the same; then a success and one delay more. One wait is never started. -/
def pastBudget : List (Instant × Operation) :=
  [(⟨0⟩, .next), (⟨1⟩, .waitUnstarted), (⟨2⟩, .race fun _ => false), (⟨3⟩, .iterate),
    (⟨4⟩, .iterate), (⟨5⟩, .wait), (⟨6⟩, .reset), (⟨7⟩, .state), (⟨8⟩, .iterate)]

theorem pastBudget_counts :
    (∃ entry pause, ((new .boundedCollector FixedShare.none).trace pastBudget)[5]? = some entry ∧
      entry.2.pause = some pause ∧ entry.2.after.attempt = 4 ∧ entry.2.after.total = 4 ∧
      pause.delay = (Policy.boundedCollector.cappedDelay 3).saturatingAdd pause.jitter) ∧
    ∃ entry, ((new .boundedCollector FixedShare.none).trace pastBudget)[8]? = some entry ∧
      entry.2.after.attempt = 1 ∧ entry.2.after.total = 5 ∧ entry.2.after.isStamped = true := by
  constructor
  · obtain ⟨counted, -, -, -, delays, -⟩ :=
      counts .boundedCollector FixedShare.none pastBudget (i := 5) rfl
    exact ⟨_, _, rfl, rfl, counted.attempt, counted.total, delays _ rfl⟩
  · obtain ⟨counted, -⟩ := counts .boundedCollector FixedShare.none pastBudget (i := 8) rfl
    have htotal := counted.total
    exact ⟨_, rfl, counted.attempt, htotal, counted.stamped.mpr (htotal ▸ by decide)⟩

end Pacer

end Reconnect
