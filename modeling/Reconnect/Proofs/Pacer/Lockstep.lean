/-
Reconnect.Proofs.Pacer.Lockstep — two pacers under the same operations.

What two pacers have in common after every operation is a relation between them
that computing a delay and resetting keep, and under which the budget allows both
or neither (`Simulation`). The sources may be of different types, and the clocks
may differ: nothing is compared but what the relation compares.

* `Answer.present`, `Answer.undated`: an answer without the past of the pacer, and without
  its clock.
* `answer_eq`: equal attempts and equal delays make equal answers.
* `Simulation`: such a relation, and what it makes of two delays.
* `Simulation.step`: one operation; `Simulation.run`: one after another.
* `Alike`: two pacers that differ in the source and the clock; `alike_simulation`.
* `Simulation.agrees`: pacers that compute the same delays show the same.
-/
import Mathlib.Data.List.Forall2
import Reconnect.Proofs.Pacer.Run

namespace Reconnect

variable {σ τ : Type}

/-- What an answer says of the time since the last reset; the count of all delays and
the stamp reach farther back. -/
def Answer.present : Answer → Answer
  | .state attempt _ _ => .state attempt 0 none
  | answer => answer

/-- An answer without the reading of the clock. -/
def Answer.undated : Answer → Answer
  | .state attempt total lastAttempt =>
    .state attempt total (if lastAttempt.isSome then some ⟨0⟩ else none)
  | answer => answer

/-- Pauses that are related by a part of them show this part alike. -/
theorem Pause.map_eq_of_rel {α : Type} {part : Pause → α} {pause pause' : Option Pause}
    (h : Option.Rel (fun a b => part a = part b) pause pause') :
    pause.map part = pause'.map part := by
  cases h with
  | some heq => exact congrArg some heq
  | none => rfl

namespace Pacer

/-! ## Equal counts -/

theorem shouldRetry_of_maxRetries_eq {p : Pacer σ} {q : Pacer τ}
    (hretries : p.policy.maxRetries = q.policy.maxRetries) (hattempt : p.attempt = q.attempt) :
    p.shouldRetry = q.shouldRetry := by
  rw [shouldRetry, shouldRetry, hretries, hattempt]

theorem remaining_of_maxRetries_eq {p : Pacer σ} {q : Pacer τ}
    (hretries : p.policy.maxRetries = q.policy.maxRetries) (hattempt : p.attempt = q.attempt) :
    p.remaining = q.remaining := by
  rw [remaining, remaining, hretries, hattempt]

theorem shouldRetry_congr {p : Pacer σ} {q : Pacer τ} (hpolicy : p.policy = q.policy)
    (hattempt : p.attempt = q.attempt) : p.shouldRetry = q.shouldRetry :=
  shouldRetry_of_maxRetries_eq (congrArg Policy.maxRetries hpolicy) hattempt

theorem remaining_congr {p : Pacer σ} {q : Pacer τ} (hpolicy : p.policy = q.policy)
    (hattempt : p.attempt = q.attempt) : p.remaining = q.remaining :=
  remaining_of_maxRetries_eq (congrArg Policy.maxRetries hpolicy) hattempt

variable [Jitter σ] [Jitter τ]

/-- All answers but those about the state and the policy are known from the retry budget,
the attempts and the delay. -/
theorem answer_eq_of_maxRetries_eq {p : Pacer σ} {q : Pacer τ}
    (hretries : p.policy.maxRetries = q.policy.maxRetries) (hattempt : p.attempt = q.attempt)
    {now now' : Instant} {operation : Operation} (hstate : operation ≠ .state)
    (hpolicy : operation ≠ .policy)
    (hdelay : (p.step now operation).pause.map (·.delay) =
      (q.step now' operation).pause.map (·.delay)) :
    (p.step now operation).answer = (q.step now' operation).answer := by
  cases operation with
  | next => exact congrArg Answer.delay (Option.some.inj hdelay)
  | iterate => exact congrArg Answer.item hdelay
  | wait => exact congrArg Answer.delay (Option.some.inj hdelay)
  | race wins =>
    -- which of the two ends first is known from the delay
    have heq : (p.next now).1.delay = (q.next now').1.delay := Option.some.inj hdelay
    simp only [step, waitStep, heq]
  | waitUnstarted => rfl
  | reset => rfl
  | shouldRetry =>
    exact congrArg Answer.allowed (shouldRetry_of_maxRetries_eq hretries hattempt)
  | remaining =>
    exact congrArg Answer.remaining (remaining_of_maxRetries_eq hretries hattempt)
  | policy => exact absurd rfl hpolicy
  | state => exact absurd rfl hstate

/-- All answers but the one about the state are known from the policy, the attempts and
the delay. -/
theorem answer_eq {p : Pacer σ} {q : Pacer τ} (hpolicy : p.policy = q.policy)
    (hattempt : p.attempt = q.attempt) {now now' : Instant} {operation : Operation}
    (hop : operation ≠ .state)
    (hdelay : (p.step now operation).pause.map (·.delay) =
      (q.step now' operation).pause.map (·.delay)) :
    (p.step now operation).answer = (q.step now' operation).answer := by
  by_cases hasked : operation = .policy
  · subst hasked
    exact congrArg Answer.policy hpolicy
  · have hretries := congrArg Policy.maxRetries hpolicy
    exact answer_eq_of_maxRetries_eq hretries hattempt hop hasked hdelay

/-- An answer of the present is known from the policy, the attempts and the delay. -/
theorem present_answer_eq {p : Pacer σ} {q : Pacer τ} (hpolicy : p.policy = q.policy)
    (hattempt : p.attempt = q.attempt) {now now' : Instant} {operation : Operation}
    (hdelay : (p.step now operation).pause.map (·.delay) =
      (q.step now' operation).pause.map (·.delay)) :
    (p.step now operation).answer.present = (q.step now' operation).answer.present := by
  by_cases hop : operation = .state
  · subst hop
    exact congrArg (Answer.state · 0 none) hattempt
  · rw [answer_eq hpolicy hattempt hop hdelay]

/-! ## Simulations -/

/-- A relation between pacers that the same operations keep, under which delays are
related by `pauses`. -/
structure Simulation (pacers : Pacer σ → Pacer τ → Prop) (pauses : Pause → Pause → Prop) :
    Prop where
  next {p : Pacer σ} {q : Pacer τ} (now now' : Instant) : pacers p q →
    pauses (p.next now).1 (q.next now').1 ∧ pacers (p.next now).2 (q.next now').2
  reset {p : Pacer σ} {q : Pacer τ} : pacers p q → pacers p.reset q.reset
  shouldRetry {p : Pacer σ} {q : Pacer τ} : pacers p q → p.shouldRetry = q.shouldRetry

namespace Simulation

variable {pacers : Pacer σ → Pacer τ → Prop} {pauses : Pause → Pause → Prop}

theorem step (h : Simulation pacers pauses) {p : Pacer σ} {q : Pacer τ} (hpq : pacers p q)
    (now now' : Instant) (operation : Operation) :
    Option.Rel pauses (p.step now operation).pause (q.step now' operation).pause ∧
      pacers (p.step now operation).after (q.step now' operation).after := by
  obtain ⟨hpause, hafter⟩ := h.next now now' hpq
  cases operation with
  | next => exact ⟨.some hpause, hafter⟩
  | iterate =>
    -- the budget allows both delays or neither
    have hretry := h.shouldRetry hpq
    by_cases allowed : q.shouldRetry = true
    · rw [allowed] at hretry
      simp only [Pacer.step, iterate, allowed, hretry, if_true]
      exact ⟨.some hpause, hafter⟩
    · rw [← hretry] at allowed
      simp only [Pacer.step, iterate, ← hretry, allowed]
      exact ⟨.none, hpq⟩
  | wait => exact ⟨.some hpause, hafter⟩
  | race wins => exact ⟨.some hpause, hafter⟩
  | waitUnstarted => exact ⟨.none, hpq⟩
  | reset => exact ⟨.none, h.reset hpq⟩
  | shouldRetry => exact ⟨.none, hpq⟩
  | remaining => exact ⟨.none, hpq⟩
  | policy => exact ⟨.none, hpq⟩
  | state => exact ⟨.none, hpq⟩

/-- What the relation gives for one operation it gives for each of a run. -/
theorem run (h : Simulation pacers pauses) {steps : Step σ → Step τ → Prop}
    (hsteps : ∀ {p q} (now now' : Instant) (operation : Operation), pacers p q →
      steps (p.step now operation) (q.step now' operation))
    {p : Pacer σ} {q : Pacer τ} (hpq : pacers p q) {plan plan' : List (Instant × Operation)}
    (hplans : plan.map (·.2) = plan'.map (·.2)) :
    List.Forall₂ steps (p.run plan) (q.run plan') := by
  induction plan generalizing p q plan' with
  | nil =>
    obtain rfl := List.map_eq_nil_iff.mp hplans.symm
    exact .nil
  | cons entry plan ih =>
    obtain ⟨now, operation⟩ := entry
    obtain ⟨⟨now', operation'⟩, rest, rfl, heq, hrest⟩ := List.map_eq_cons_iff.mp hplans.symm
    obtain rfl : operation' = operation := heq
    exact .cons (hsteps now now' operation' hpq) (ih (h.step hpq now now' operation').2 hrest.symm)

end Simulation

/-! ## The same delays from different sources -/

/-- Two pacers that differ in the source and in the readings of the clock. -/
structure Alike (p : Pacer σ) (q : Pacer τ) : Prop where
  policy : p.policy = q.policy
  attempt : p.attempt = q.attempt
  total : p.total = q.total
  stamped : p.isStamped = q.isStamped

omit [Jitter σ] [Jitter τ] in
theorem alike_new (policy : Policy) (source : σ) (source' : τ) :
    (new policy source).Alike (new policy source') := ⟨rfl, rfl, rfl, rfl⟩

theorem alike_simulation :
    Simulation (Alike (σ := σ) (τ := τ)) (fun pause pause' => pause.upper = pause'.upper) where
  next now now' h := by
    refine ⟨?_, h.policy, ?_, ?_, rfl⟩
    · rw [next_upper, next_upper, h.policy, h.attempt]
    · rw [next_attempt, next_attempt, h.attempt]
    · rw [next_total, next_total, h.total]
  reset h := ⟨h.policy, rfl, h.total, h.stamped⟩
  shouldRetry h := shouldRetry_congr h.policy h.attempt

/-- Pacers that are alike compute the same delay, in all its parts, once the draws agree. -/
theorem Alike.next_eq {p : Pacer σ} {q : Pacer τ} (h : p.Alike q) {now now' : Instant}
    (hdraw : (p.next now).1.draw = (q.next now').1.draw) :
    (p.next now).1 = (q.next now').1 := by
  obtain ⟨policy, source, attempt, total, lastAttempt⟩ := p
  obtain ⟨rfl, rfl, rfl, -⟩ := h
  exact congrArg (Pause.mk _ _ _ _) hdraw

theorem Alike.undated_answer_eq {p : Pacer σ} {q : Pacer τ} (h : p.Alike q)
    {now now' : Instant} {operation : Operation}
    (hpause : (p.step now operation).pause = (q.step now' operation).pause) :
    (p.step now operation).answer.undated = (q.step now' operation).answer.undated := by
  by_cases hop : operation = .state
  · subst hop
    have hstamped : p.lastAttempt.isSome = q.lastAttempt.isSome := h.stamped
    simp only [step, look, Answer.undated, h.attempt, h.total, hstamped]
  · rw [answer_eq h.policy h.attempt hop (by rw [hpause])]

omit [Jitter σ] [Jitter τ] in
theorem Alike.reports_eq {p p' : Pacer σ} {q q' : Pacer τ} (before : p.Alike q)
    (after : p'.Alike q') (operation : Operation) (pause : Option Pause) :
    operation.reports p p' pause = operation.reports q q' pause := by
  cases pause with
  | none => simp only [Operation.reports, before.attempt, before.total]
  | some pause => simp only [Operation.reports, after.attempt]

end Pacer

/-- Two steps show the same in all but the readings of the clock: the answer, the delay with
all its parts, the reports and the pacer that is left, apart from its source. -/
structure Step.Agrees (step : Step σ) (step' : Step τ) : Prop where
  answer : step.answer.undated = step'.answer.undated
  pause : step.pause = step'.pause
  events : step.events = step'.events
  after : step.after.Alike step'.after

namespace Pacer

variable [Jitter σ] [Jitter τ]

/-- Pacers that are alike and compute the same delays show the same. -/
theorem Simulation.agrees {pacers : Pacer σ → Pacer τ → Prop} (h : Simulation pacers Eq)
    (halike : ∀ {p q}, pacers p q → p.Alike q) {p : Pacer σ} {q : Pacer τ} (hpq : pacers p q)
    (now now' : Instant) (operation : Operation) :
    (p.step now operation).Agrees (q.step now' operation) := by
  obtain ⟨hrel, hafter⟩ := h.step hpq now now' operation
  have hpause : (p.step now operation).pause = (q.step now' operation).pause := by
    simpa using @Pause.map_eq_of_rel Pause id _ _ hrel
  exact {
    answer := (halike hpq).undated_answer_eq hpause
    pause := hpause
    events := by
      rw [step_events, step_events, hpause]
      exact (halike hpq).reports_eq (halike hafter) operation _
    after := halike hafter }

end Pacer

end Reconnect
