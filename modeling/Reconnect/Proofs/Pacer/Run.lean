/-
Reconnect.Proofs.Pacer.Run — what every run of a pacer does.

An operation does one of three things to a pacer, whatever it answers: it
computes one delay, it counts attempts from zero again, or it does nothing
(`step_cases`). So what computing and resetting keep, every run keeps
(`final_induction`), and the count of attempts can be read off what a run shows.

* `step_events`: what an operation reports follows from the delay that it computed.
* `trace`: a run as it is seen from outside, operation by operation.
* `getElem?_trace`: an entry is a step of the pacer that the entries before leave.
* `sinceReset`: the delays that a trace shows after its last reset.
* `final_attempt`: the pacer's count of attempts is that number; `attempt_of_trace`.
-/
import Reconnect.Pacer.Run
import Reconnect.Proofs.Duration.Seconds

namespace Reconnect

/-- The delay that an answer gives away. -/
def Answer.delay? : Answer → Option Duration
  | .delay d => some d
  | .item d => d
  | _ => none

/-- Whether an operation is a success. -/
def Operation.isReset : Operation → Bool
  | .reset => true
  | _ => false

theorem Operation.isReset_iff {operation : Operation} :
    operation.isReset = true ↔ operation = .reset := by
  cases operation <;> simp [isReset]

instance (operation : Operation) : Decidable (operation = .reset) :=
  decidable_of_iff _ Operation.isReset_iff

/-- Whether an operation is a wait that is started. -/
def Operation.isWait : Operation → Bool
  | .wait => true
  | .race _ => true
  | _ => false

/-- What an operation reports: its computed delay, followed by the wait if it is one, or
the reset. -/
def Operation.reports {σ : Type} (operation : Operation) (before after : Pacer σ) :
    Option Pause → List Event
  | some pause =>
    pause.event :: if operation.isWait then [.waiting after.attempt pause.delay] else []
  | none => if operation = .reset then [.reset before.attempt before.total] else []

/-- A draw that is not above zero adds nothing. -/
theorem Pause.delay_of_not_zero_lt {pause : Pause} (h : ¬ Binary64.zero < pause.draw) :
    pause.delay = pause.capped := by
  rw [delay, jitter, Duration.ofSeconds_of_not_zero_lt h, Duration.saturatingAdd_zero]

namespace Pacer

variable {σ : Type} [Jitter σ]

/-! ## One step -/

theorem step_cases (now : Instant) (p : Pacer σ) (operation : Operation) :
    (operation ≠ .reset ∧ (p.step now operation).pause = some (p.next now).1 ∧
        (p.step now operation).after = (p.next now).2) ∨
      (operation = .reset ∧ (p.step now operation).pause = none ∧
        (p.step now operation).after = p.reset) ∨
      (operation ≠ .reset ∧ (p.step now operation).pause = none ∧
        (p.step now operation).after = p) := by
  cases operation with
  | next => exact .inl ⟨nofun, rfl, rfl⟩
  | iterate =>
    by_cases allowed : p.shouldRetry = true
    · refine .inl ⟨nofun, ?_, ?_⟩ <;> simp [step, iterate, allowed]
    · refine .inr (.inr ⟨nofun, ?_, ?_⟩) <;> simp [step, iterate, allowed]
  | wait => exact .inl ⟨nofun, rfl, rfl⟩
  | race wins => exact .inl ⟨nofun, rfl, rfl⟩
  | waitUnstarted => exact .inr (.inr ⟨nofun, rfl, rfl⟩)
  | reset => exact .inr (.inl ⟨rfl, rfl, rfl⟩)
  | shouldRetry => exact .inr (.inr ⟨nofun, rfl, rfl⟩)
  | remaining => exact .inr (.inr ⟨nofun, rfl, rfl⟩)
  | policy => exact .inr (.inr ⟨nofun, rfl, rfl⟩)
  | state => exact .inr (.inr ⟨nofun, rfl, rfl⟩)

/-- Whatever computes a delay computes the next one, and leaves what that leaves. -/
theorem next_of_pause {now : Instant} {p : Pacer σ} {operation : Operation} {pause : Pause}
    (h : (p.step now operation).pause = some pause) :
    p.next now = (pause, (p.step now operation).after) := by
  obtain ⟨-, hpause, hafter⟩ | ⟨-, hpause, -⟩ | ⟨-, hpause, -⟩ := step_cases now p operation
  · rw [hpause, Option.some.injEq] at h
    rw [hafter, ← h]
  · rw [hpause] at h
    cases h
  · rw [hpause] at h
    cases h

theorem eq_next_of_pause {now : Instant} {p : Pacer σ} {operation : Operation} {pause : Pause}
    (h : (p.step now operation).pause = some pause) : pause = (p.next now).1 := by
  rw [next_of_pause h]

theorem after_of_pause {now : Instant} {p : Pacer σ} {operation : Operation} {pause : Pause}
    (h : (p.step now operation).pause = some pause) :
    (p.step now operation).after = (p.next now).2 := by
  rw [next_of_pause h]

/-- What computes no delay does not reach the source. -/
theorem source_of_pause_eq_none {now : Instant} {p : Pacer σ} {operation : Operation}
    (h : (p.step now operation).pause = none) :
    (p.step now operation).after.source = p.source := by
  obtain ⟨-, hpause, -⟩ | ⟨-, -, hafter⟩ | ⟨-, -, hafter⟩ := step_cases now p operation
  · rw [hpause] at h
    cases h
  · rw [hafter, reset_source]
  · rw [hafter]

/-- A wait that is slept through gives its delay away. -/
theorem delay?_wait (now : Instant) (p : Pacer σ) :
    (p.step now .wait).answer.delay? = some (p.next now).1.delay := rfl

/-- An operation gives away no delay but the one that it computes. -/
theorem pause_of_delay? {now : Instant} {p : Pacer σ} {operation : Operation}
    {delay : Duration} (h : (p.step now operation).answer.delay? = some delay) :
    ∃ pause, (p.step now operation).pause = some pause ∧ pause.delay = delay := by
  cases operation with
  | next => exact ⟨_, rfl, Option.some.inj h⟩
  | iterate =>
    by_cases allowed : p.shouldRetry = true
    · refine ⟨(p.next now).1, ?_, ?_⟩
      · simp [step, iterate, allowed]
      · simpa [step, iterate, allowed, Answer.delay?] using h
    · simp [step, iterate, allowed, Answer.delay?] at h
  | wait => exact ⟨_, rfl, Option.some.inj h⟩
  | race wins =>
    refine ⟨(p.next now).1, rfl, ?_⟩
    simp only [step, waitStep] at h
    split at h
    · exact Option.some.inj h
    · cases h
  | waitUnstarted => cases h
  | reset => cases h
  | shouldRetry => cases h
  | remaining => cases h
  | policy => cases h
  | state => cases h

theorem step_events (now : Instant) (p : Pacer σ) (operation : Operation) :
    (p.step now operation).events =
      operation.reports p (p.step now operation).after (p.step now operation).pause := by
  cases operation with
  | iterate =>
    by_cases allowed : p.shouldRetry = true
    · simp [step, iterate, allowed, Operation.reports, Operation.isWait]
    · simp [step, iterate, allowed, Operation.reports]
  | next => rfl
  | wait => rfl
  | race wins => rfl
  | waitUnstarted => rfl
  | reset => rfl
  | shouldRetry => rfl
  | remaining => rfl
  | policy => rfl
  | state => rfl

/-! ## Runs -/

theorem final_cons (p : Pacer σ) (now : Instant) (operation : Operation)
    (plan : List (Instant × Operation)) :
    p.final ((now, operation) :: plan) = (p.step now operation).after.final plan := rfl

theorem final_append (p : Pacer σ) (plan later : List (Instant × Operation)) :
    p.final (plan ++ later) = (p.final plan).final later := List.foldl_append

/-- What computing a delay and resetting keep, every run keeps. -/
theorem final_induction {P : Pacer σ → Prop} (next : ∀ now p, P p → P (p.next now).2)
    (reset : ∀ p, P p → P p.reset) {p : Pacer σ} (hp : P p) (plan : List (Instant × Operation)) :
    P (p.final plan) := by
  induction plan generalizing p with
  | nil => exact hp
  | cons entry plan ih =>
    obtain ⟨now, operation⟩ := entry
    rw [final_cons]
    apply ih
    obtain ⟨-, -, hafter⟩ | ⟨-, -, hafter⟩ | ⟨-, -, hafter⟩ := step_cases now p operation
    · rw [hafter]
      exact next now p hp
    · rw [hafter]
      exact reset p hp
    · rwa [hafter]

@[simp] theorem final_policy (p : Pacer σ) (plan : List (Instant × Operation)) :
    (p.final plan).policy = p.policy :=
  final_induction (P := fun q => q.policy = p.policy) (fun _ _ h => h) (fun _ h => h) rfl plan

/-- A run as it is seen from outside: every operation with its step. -/
def trace (p : Pacer σ) (plan : List (Instant × Operation)) : List (Operation × Step σ) :=
  (plan.map (·.2)).zip (p.run plan)

@[simp] theorem trace_nil (p : Pacer σ) : p.trace [] = [] := rfl

@[simp] theorem trace_cons (p : Pacer σ) (now : Instant) (operation : Operation)
    (plan : List (Instant × Operation)) :
    p.trace ((now, operation) :: plan) =
      (operation, p.step now operation) :: (p.step now operation).after.trace plan := rfl

/-- An entry of a trace is a step of the pacer that the entries before it leave. -/
theorem getElem?_trace (p : Pacer σ) (plan : List (Instant × Operation)) (i : Nat) :
    (p.trace plan)[i]? =
      plan[i]?.map fun (now, operation) =>
        (operation, (p.final (plan.take i)).step now operation) := by
  induction plan generalizing p i with
  | nil => rfl
  | cons entry plan ih =>
    obtain ⟨now, operation⟩ := entry
    cases i with
    | zero => rfl
    | succ i =>
      rw [trace_cons, List.getElem?_cons_succ, List.getElem?_cons_succ, List.take_succ_cons,
        final_cons, ih]

theorem trace_of_plan (p : Pacer σ) (plan : List (Instant × Operation)) {i : Nat} {now : Instant}
    {operation : Operation} (h : plan[i]? = some (now, operation)) :
    (p.trace plan)[i]? = some (operation, (p.final (plan.take i)).step now operation) := by
  rw [getElem?_trace, h, Option.map_some]

theorem exists_step_of_trace {p : Pacer σ} {plan : List (Instant × Operation)} {i : Nat}
    {entry : Operation × Step σ} (hentry : (p.trace plan)[i]? = some entry) :
    ∃ now operation, entry = (operation, (p.final (plan.take i)).step now operation) := by
  rw [getElem?_trace, Option.map_eq_some_iff] at hentry
  obtain ⟨⟨now, operation⟩, -, rfl⟩ := hentry
  exact ⟨now, operation, rfl⟩

/-- The step of an entry leaves what the entries up to it leave. -/
theorem after_of_trace {p : Pacer σ} {plan : List (Instant × Operation)} {i : Nat}
    {entry : Operation × Step σ} (hentry : (p.trace plan)[i]? = some entry) :
    entry.2.after = p.final (plan.take (i + 1)) := by
  rw [getElem?_trace, Option.map_eq_some_iff] at hentry
  obtain ⟨⟨now, operation⟩, hplan, rfl⟩ := hentry
  rw [List.take_add_one, hplan, final_append]
  rfl

theorem take_trace (p : Pacer σ) (plan : List (Instant × Operation)) (i : Nat) :
    (p.trace plan).take i = p.trace (plan.take i) := by
  induction plan generalizing p i with
  | nil => simp
  | cons entry plan ih =>
    obtain ⟨now, operation⟩ := entry
    cases i with
    | zero => rfl
    | succ i => rw [trace_cons, List.take_succ_cons, List.take_succ_cons, trace_cons, ih]

/-- A computed delay of a trace is the next one of the pacer that the entries before leave. -/
theorem exists_next_of_trace {p : Pacer σ} {plan : List (Instant × Operation)} {i : Nat}
    {entry : Operation × Step σ} (hentry : (p.trace plan)[i]? = some entry) {pause : Pause}
    (hpause : entry.2.pause = some pause) :
    ∃ now, pause = ((p.final (plan.take i)).next now).1 := by
  obtain ⟨now, operation, rfl⟩ := exists_step_of_trace hentry
  exact ⟨now, eq_next_of_pause hpause⟩

/-- A delay that a trace gives away is one that it computes. -/
theorem pause_of_trace_delay? {p : Pacer σ} {plan : List (Instant × Operation)} {i : Nat}
    {entry : Operation × Step σ} (hentry : (p.trace plan)[i]? = some entry) {delay : Duration}
    (hdelay : entry.2.answer.delay? = some delay) :
    ∃ pause, entry.2.pause = some pause ∧ pause.delay = delay := by
  obtain ⟨now, operation, rfl⟩ := exists_step_of_trace hentry
  exact pause_of_delay? hdelay

/-! ## Counting attempts -/

/-- The delays since the last reset after one more entry. -/
def tally (count : Nat) (entry : Operation × Step σ) : Nat :=
  if entry.1 = .reset then 0 else if entry.2.pause.isSome then count + 1 else count

/-- The delays that a trace shows after its last reset. -/
def sinceReset (entries : List (Operation × Step σ)) : Nat := entries.foldl tally 0

theorem step_attempt {p : Pacer σ} {count : Nat} (h : p.attempt = min count attemptLimit)
    (now : Instant) (operation : Operation) :
    (p.step now operation).after.attempt =
      min (tally count (operation, p.step now operation)) attemptLimit := by
  obtain ⟨hop, hpause, hafter⟩ | ⟨hop, hpause, hafter⟩ | ⟨hop, hpause, hafter⟩ :=
    step_cases now p operation
  · rw [tally, if_neg hop, hpause, hafter, next_attempt, h]
    simp only [Option.isSome_some, if_true]
    omega
  · rw [tally, if_pos hop, hafter, reset_attempt, Nat.zero_min]
  · rw [tally, if_neg hop, hpause, hafter, h]
    rfl

theorem final_attempt_of {p : Pacer σ} {count : Nat} (h : p.attempt = min count attemptLimit)
    (plan : List (Instant × Operation)) :
    (p.final plan).attempt = min ((p.trace plan).foldl tally count) attemptLimit := by
  induction plan generalizing p count with
  | nil => exact h
  | cons entry plan ih =>
    obtain ⟨now, operation⟩ := entry
    rw [final_cons, trace_cons, List.foldl_cons]
    exact ih (step_attempt h now operation)

/-- The count of attempts is the number of delays since the last reset, as far as
counts go. -/
theorem final_attempt (policy : Policy) (source : σ) (plan : List (Instant × Operation)) :
    ((new policy source).final plan).attempt =
      min (sinceReset ((new policy source).trace plan)) attemptLimit :=
  final_attempt_of (Nat.zero_min _).symm plan

/-- The attempt of a computed delay is the number of delays since the last reset. -/
theorem attempt_of_trace {policy : Policy} {source : σ} {plan : List (Instant × Operation)}
    {i : Nat} {entry : Operation × Step σ}
    (hentry : ((new policy source).trace plan)[i]? = some entry) {pause : Pause}
    (hpause : entry.2.pause = some pause) :
    pause.attempt =
      min (sinceReset (((new policy source).trace plan).take i)) attemptLimit := by
  obtain ⟨now, rfl⟩ := exists_next_of_trace hentry hpause
  rw [next_pause_attempt, take_trace, final_attempt]

end Pacer

end Reconnect
