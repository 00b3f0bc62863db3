/-
Reconnect.Proofs.Pacer.FreshStart — a reset is a fresh start.

A pacer that was reset and a new one with its policy and its source, as it stands at
the reset, differ in the total and the stamp alone. Neither reaches a delay, an
answer about the budget or the source, so every operation keeps it that way, a
further reset included.

* `Repeats`: a pacer is a fresh one, but for what came before.
* `repeats_simulation`: every operation keeps it and computes the same delay.
* `fresh_start`: what is seen after a reset is what a new pacer shows.
-/
import Reconnect.Proofs.Pacer.Counts
import Reconnect.Proofs.Pacer.Lockstep

namespace Reconnect

variable {σ : Type}

/-- A pacer is a fresh one but for the delays before, as far as counts go, and the
stamp of the last of them. -/
structure Pacer.Repeats (before : Nat) (p fresh : Pacer σ) : Prop where
  policy : p.policy = fresh.policy
  source : p.source = fresh.source
  attempt : p.attempt = fresh.attempt
  total : p.total = min (fresh.total + before) totalLimit

/-- A step shows what the step of a fresh pacer shows. -/
structure Step.Repeats (before : Nat) (step fresh : Step σ) : Prop where
  answer : step.answer.present = fresh.answer.present
  delay : step.pause.map (·.delay) = fresh.pause.map (·.delay)
  shouldRetry : step.after.shouldRetry = fresh.after.shouldRetry
  remaining : step.after.remaining = fresh.after.remaining
  after : step.after.Repeats before fresh.after

namespace Pacer

theorem repeats_reset {p : Pacer σ} (h : p.total ≤ totalLimit) :
    p.reset.Repeats p.total (new p.policy p.source) where
  policy := rfl
  source := rfl
  attempt := rfl
  total := by
    rw [reset_total, new, Nat.zero_add, Nat.min_eq_left h]

variable [Jitter σ]

theorem Repeats.next {before : Nat} {p fresh : Pacer σ} (h : p.Repeats before fresh)
    (now now' : Instant) :
    (p.next now).1.delay = (fresh.next now').1.delay ∧
      (p.next now).2.Repeats before (fresh.next now').2 := by
  obtain ⟨policy, source, attempt, total, lastAttempt⟩ := p
  obtain ⟨rfl, rfl, rfl, htotal⟩ := h
  refine ⟨rfl, rfl, rfl, rfl, ?_⟩
  rw [next_total, next_total, htotal]
  omega

theorem repeats_simulation (before : Nat) :
    Simulation (Repeats (σ := σ) before) (fun pause fresh => pause.delay = fresh.delay) where
  next now now' h := h.next now now'
  reset h := ⟨h.policy, h.source, rfl, h.total⟩
  shouldRetry h := shouldRetry_congr h.policy h.attempt

theorem Repeats.step {before : Nat} {p fresh : Pacer σ} (h : p.Repeats before fresh)
    (now now' : Instant) (operation : Operation) :
    (p.step now operation).Repeats before (fresh.step now' operation) := by
  obtain ⟨hpause, hafter⟩ := (repeats_simulation before).step h now now' operation
  have hdelay := Pause.map_eq_of_rel hpause
  exact {
    answer := present_answer_eq h.policy h.attempt hdelay
    delay := hdelay
    shouldRetry := shouldRetry_congr hafter.policy hafter.attempt
    remaining := remaining_congr hafter.policy hafter.attempt
    after := hafter }

/-- **A fresh start**: a reset of a pacer, whatever was done with it, leaves all but the
attempts as they were, and from there on every operation shows what it shows of a new
pacer with the same policy and the source as it stands; the total is above the new
one's by the total at the reset. -/
theorem fresh_start {policy : Policy} {source : σ} {earlier : List (Instant × Operation)}
    {p q : Pacer σ} (hp : (new policy source).final earlier = p) {now : Instant}
    (hq : (p.step now .reset).after = q) {later later' : List (Instant × Operation)}
    (hplans : later.map (·.2) = later'.map (·.2)) :
    q.source = p.source ∧ q.policy = p.policy ∧ q.total = p.total ∧
      q.lastAttempt = p.lastAttempt ∧
      List.Forall₂ (Step.Repeats p.total) (q.run later) ((new policy p.source).run later') := by
  have counted := counted_final policy source earlier
  rw [hp] at counted
  obtain rfl : p.reset = q := hq
  refine ⟨rfl, rfl, rfl, rfl, ?_⟩
  have start := repeats_reset counted.total_le
  rw [counted.policy] at start
  exact (repeats_simulation p.total).run (fun now now' operation h => h.step now now' operation)
    start hplans

/-- A source of a quarter of a second, no number and half a second, over and over. -/
def unsteady : Script := .cycle #[.nearest 1 4, .nan, .nearest 1 2]

/-- Past a budget of three: a fourth delay has used the first answer again. -/
def history : List (Instant × Operation) :=
  [(⟨0⟩, .iterate), (⟨1⟩, .race fun _ => false), (⟨2⟩, .next), (⟨3⟩, .wait)]

theorem unsteady_fresh_start :
    ∃ p q : Pacer Script, (new .boundedCollector unsteady).final history = p ∧
      p.attempt = 4 ∧ p.source.position = 4 ∧ (p.step ⟨4⟩ .reset).after = q ∧
      q.source = p.source ∧ q.total = 4 ∧
      List.Forall₂ (Step.Repeats 4)
        (q.run [(⟨5⟩, .next), (⟨6⟩, .reset), (⟨7⟩, .iterate), (⟨8⟩, .state)])
        ((new .boundedCollector p.source).run
          [(⟨0⟩, .next), (⟨1⟩, .reset), (⟨2⟩, .iterate), (⟨3⟩, .state)]) := by
  have h := @fresh_start _ _ .boundedCollector unsteady history _ _ rfl ⟨4⟩ rfl
    [(⟨5⟩, .next), (⟨6⟩, .reset), (⟨7⟩, .iterate), (⟨8⟩, .state)]
    [(⟨0⟩, .next), (⟨1⟩, .reset), (⟨2⟩, .iterate), (⟨3⟩, .state)] rfl
  exact ⟨_, _, rfl, rfl, rfl, rfl, h.1, h.2.2.1, h.2.2.2.2⟩

end Pacer

end Reconnect
