/-
Reconnect.Proofs.Pacer.Waits — waiting adds nothing to the next delay.

A wait computes its delay when it is started and touches the pacer no more, so a run
with waits can be held against the run that computes the same delays without waiting.
Waits that were never started have no counterpart there, so the two runs do not go step
for step; the operations that are left do, and they keep the two pacers twins.

* `Operation.withoutWait`: what is left of an operation without its wait.
* `Twins`: pacers that differ in the readings of the clock only; `twins_simulation`.
* `Mirrors`: an entry of a run with waits against its counterpart.
* `mirrors_step`: one operation; `forall₂_mirrors`: one after another.
* `waits_add_nothing`: every run against the one without waits.
-/
import Reconnect.Proofs.Pacer.Lockstep

namespace Reconnect

variable {σ : Type}

/-- What is left of an operation without its wait: of a started wait the next delay, whether
it was lost or not, and of one that was never started nothing. -/
def Operation.withoutWait : Operation → Option Operation
  | .wait => some .next
  | .race _ => some .next
  | .waitUnstarted => none
  | operation => some operation

theorem Operation.isWait_iff {operation : Operation} :
    operation.isWait = true ↔ operation = .wait ∨ ∃ wins, operation = .race wins := by
  cases operation <;> simp [isWait]

/-- What is no wait is left as it is. -/
theorem Operation.eq_of_withoutWait {operation plain : Operation}
    (h : operation.withoutWait = some plain) (hwait : operation.isWait = false) :
    plain = operation := by
  cases operation <;> simp_all [withoutWait, isWait]

namespace Pacer

/-- Two pacers that differ in the readings of the clock only. -/
structure Twins (p q : Pacer σ) : Prop extends Alike p q where
  source : p.source = q.source

namespace Twins

protected theorem refl (p : Pacer σ) : p.Twins p := ⟨⟨rfl, rfl, rfl, rfl⟩, rfl⟩

protected theorem trans {p q r : Pacer σ} (hpq : p.Twins q) (hqr : q.Twins r) : p.Twins r where
  policy := hpq.policy.trans hqr.policy
  attempt := hpq.attempt.trans hqr.attempt
  total := hpq.total.trans hqr.total
  stamped := hpq.stamped.trans hqr.stamped
  source := hpq.source.trans hqr.source

end Twins

/-- An entry of a run with waits and its counterpart in the run without. Both compute the
same delay, or none, and leave twins. A completed wait answers as the next delay does, and
one whose delay does not win its race says only that it was lost. All that a wait reports on
top is that it waits. -/
structure Mirrors (entry plain : Operation × Step σ) : Prop where
  operation : entry.1.withoutWait = some plain.1
  pause : entry.2.pause = plain.2.pause
  after : entry.2.after.Twins plain.2.after
  answer : (∃ wins, entry.1 = .race wins ∧ entry.2.answer = .lost ∧
      ∀ pause, entry.2.pause = some pause → wins pause.delay = false) ∨
    entry.2.answer.undated = plain.2.answer.undated
  events : entry.1.isWait = false → entry.2.events = plain.2.events
  waiting : entry.1.isWait = true → ∃ pause, entry.2.pause = some pause ∧
    entry.2.events = plain.2.events ++ [.waiting entry.2.after.attempt pause.delay]

variable [Jitter σ]

/-! ## One operation -/

theorem twins_simulation : Simulation (Twins (σ := σ)) Eq where
  next {p q} now now' h := by
    obtain ⟨policy, source, attempt, total, lastAttempt⟩ := p
    obtain ⟨⟨rfl, rfl, rfl, -⟩, rfl⟩ := h
    exact ⟨rfl, ⟨rfl, rfl, rfl, rfl⟩, rfl⟩
  reset h := ⟨⟨h.policy, rfl, h.total, h.stamped⟩, h.source⟩
  shouldRetry h := shouldRetry_congr h.policy h.attempt

/-- At one time and on one pacer, an operation against what is left of it. -/
theorem mirrors_withoutWait {operation plain : Operation}
    (h : operation.withoutWait = some plain) (now : Instant) (p : Pacer σ) :
    Mirrors (operation, p.step now operation) (plain, p.step now plain) := by
  by_cases hwait : operation.isWait = true
  · obtain rfl | ⟨wins, rfl⟩ := Operation.isWait_iff.mp hwait
    · obtain rfl := Option.some.inj h
      exact ⟨rfl, rfl, .refl _, .inr rfl, nofun, fun _ => ⟨_, rfl, rfl⟩⟩
    · obtain rfl := Option.some.inj h
      refine ⟨rfl, rfl, .refl _, ?_, nofun, fun _ => ⟨_, rfl, rfl⟩⟩
      by_cases first : wins (p.next now).1.delay = true
      · right
        simp [step, waitStep, first]
      · left
        refine ⟨wins, rfl, ?_, ?_⟩
        · simp [step, waitStep, first]
        · intro pause hpause
          rw [← Option.some.inj hpause]
          exact Bool.eq_false_iff.mpr first
  · obtain rfl := Operation.eq_of_withoutWait h (Bool.eq_false_iff.mpr hwait)
    exact ⟨h, rfl, .refl _, .inr rfl, fun _ => rfl, fun his => absurd his hwait⟩

/-- On twins, and at any two times. -/
theorem mirrors_step {p q : Pacer σ} (hpq : p.Twins q) {operation plain : Operation}
    (h : operation.withoutWait = some plain) (now now' : Instant) :
    Mirrors (operation, p.step now operation) (plain, q.step now' plain) := by
  have hself := mirrors_withoutWait h now p
  have hafter := (twins_simulation.step hpq now now' plain).2
  have hagrees := twins_simulation.agrees Twins.toAlike hpq now now' plain
  exact {
    operation := h
    pause := hself.pause.trans hagrees.pause
    after := hself.after.trans hafter
    answer := hself.answer.imp_right fun heq => heq.trans hagrees.answer
    events := fun hwait => (hself.events hwait).trans hagrees.events
    waiting := fun hwait => by
      rw [← hagrees.events]
      exact hself.waiting hwait }

/-- A wait that is never started does nothing. -/
theorem step_of_withoutWait_eq_none {operation : Operation} (h : operation.withoutWait = none)
    (now : Instant) (p : Pacer σ) : p.step now operation = p.look .done := by
  cases operation <;> cases h
  rfl

/-! ## Runs -/

theorem forall₂_mirrors {p q : Pacer σ} (hpq : p.Twins q) {plan plan' : List (Instant × Operation)}
    (hplans : plan'.map (·.2) = (plan.map (·.2)).filterMap Operation.withoutWait) :
    List.Forall₂ Mirrors ((p.trace plan).filter (·.1.withoutWait.isSome)) (q.trace plan') := by
  induction plan generalizing p q plan' with
  | nil =>
    obtain rfl := List.map_eq_nil_iff.mp hplans
    exact .nil
  | cons entry plan ih =>
    obtain ⟨now, operation⟩ := entry
    rw [trace_cons]
    cases hop : operation.withoutWait with
    | none =>
      -- the other run goes no step
      rw [List.map_cons, List.filterMap_cons_none hop] at hplans
      rw [List.filter_cons_of_neg (by simp [hop]), step_of_withoutWait_eq_none hop]
      exact ih hpq hplans
    | some plain =>
      rw [List.map_cons, List.filterMap_cons_some hop] at hplans
      obtain ⟨⟨now', operation'⟩, rest, rfl, heq, hrest⟩ := List.map_eq_cons_iff.mp hplans
      obtain rfl : operation' = plain := heq
      have hstep := mirrors_step hpq hop now now'
      rw [List.filter_cons_of_pos (by simp [hop]), trace_cons]
      exact .cons hstep (ih hstep.after hrest)

/-- **Waits add nothing**: take the waits out of the operations, so that a started one is the
next delay and one that was never started is nothing. At every operation that is left the
two runs compute the same delay, leave the pacer the same and differ in their reports by the
wait alone; and a wait that was never started leaves the pacer as it was. -/
theorem waits_add_nothing (p : Pacer σ) {plan plan' : List (Instant × Operation)}
    (hplans : plan'.map (·.2) = (plan.map (·.2)).filterMap Operation.withoutWait) :
    List.Forall₂ Mirrors ((p.trace plan).filter (·.1.withoutWait.isSome)) (p.trace plan') ∧
      ∀ (i : Nat) (entry : Operation × Step σ), (p.trace plan)[i]? = some entry →
        entry.1.withoutWait = none → entry.2 = (p.final (plan.take i)).look .done := by
  refine ⟨forall₂_mirrors (.refl p) hplans, ?_⟩
  intro i entry hentry hnone
  obtain ⟨now, operation, rfl⟩ := exists_step_of_trace hentry
  exact step_of_withoutWait_eq_none hnone now _

/-- A source of a quarter of a second and half a second in turn. -/
def uneven : Script := .cycle #[.nearest 1 4, .nearest 1 2]

/-- A wait that is lost at once, one that is never started and one that is slept through;
then a refused iterator, a success and a question. -/
def restless : List (Instant × Operation) :=
  [(⟨0⟩, .race fun _ => false), (⟨1⟩, .waitUnstarted), (⟨2⟩, .wait), (⟨3⟩, .next), (⟨4⟩, .iterate),
    (⟨5⟩, .reset), (⟨6⟩, .state)]

/-- The same without waits, and all at one time. -/
def prompt : List (Instant × Operation) :=
  [(⟨9⟩, .next), (⟨9⟩, .next), (⟨9⟩, .next), (⟨9⟩, .iterate), (⟨9⟩, .reset), (⟨9⟩, .state)]

theorem restless_waits_add_nothing :
    prompt.map (·.2) = (restless.map (·.2)).filterMap Operation.withoutWait ∧
      List.Forall₂ Mirrors
        (((new .boundedCollector uneven).trace restless).filter (·.1.withoutWait.isSome))
        ((new .boundedCollector uneven).trace prompt) ∧
      ∃ entry, ((new .boundedCollector uneven).trace restless)[1]? = some entry ∧
        entry.1.withoutWait = none ∧
        entry.2 = ((new .boundedCollector uneven).final (restless.take 1)).look .done ∧
        entry.2.after.attempt = 1 ∧ entry.2.after.source.position = 1 := by
  have hplans : prompt.map (·.2) = (restless.map (·.2)).filterMap Operation.withoutWait := rfl
  obtain ⟨hmirrors, hunstarted⟩ := waits_add_nothing (new .boundedCollector uneven) hplans
  refine ⟨hplans, hmirrors, _, rfl, rfl, ?_, rfl, rfl⟩
  exact hunstarted 1 _ rfl rfl

end Pacer

end Reconnect
