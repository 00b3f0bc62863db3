/-
Reconnect.Proofs.Pacer.Equality — runs of pacers with equal policies.

Equal policies give the same delays before jitter, and bounds on the draws that may differ
in the sign of a zero. Such bounds leave no room, so the sources of this library answer
alike under both, and a source that does not look at its bound does so anyway. Then the
pacers go the same way for good: the same draws, counts and events, step for step.

* `ByPlace`: sources that answer alike under bounds at one place.
* `Pause.Equal`, `Pacer.Equal`, `Step.Equal`: equality up to signs of zeros and clocks.
* `equal_simulation`: equal pacers stay equal.
* `equal_policies`: all that is computed of equal policies, and all runs with them.
-/
import Reconnect.Proofs.Jitter.Draws
import Reconnect.Proofs.Pacer.Lockstep
import Reconnect.Proofs.Policy.Equality

namespace Reconnect

open Binary64

variable {σ : Type}

/-! ## Sources -/

namespace Jitter

/-- Sources of a type answer alike under bounds at one place. -/
def ByPlace (σ : Type) [Jitter σ] : Prop :=
  ∀ (source : σ) {upper upper' : Binary64}, upper.position? = upper'.position? →
    draw source upper = draw source upper'

theorem hasRoom_congr {upper upper' : Binary64} (h : upper.position? = upper'.position?) :
    hasRoom upper = hasRoom upper' := by
  have hlt : zero < upper ↔ zero < upper' := lt_congr rfl h
  simp only [hasRoom, isFinite_congr h, hlt]

theorem hasRoom_zero : hasRoom .zero = false := rfl

/-- It is enough that a source answers alike under all bounds without room: those with room
have a place of their own. -/
theorem byPlace_of_no_room [Jitter σ] (h : ∀ (source : σ) {upper : Binary64},
    hasRoom upper = false → draw source upper = draw source .zero) : ByPlace σ := by
  intro source upper upper' hplace
  cases hupper : hasRoom upper with
  | true => rw [eq_of_zero_lt (hasRoom_eq_true_iff.mp hupper).2 hplace]
  | false =>
    have hupper' : hasRoom upper' = false := by rw [← hasRoom_congr hplace, hupper]
    rw [h source hupper, h source hupper']

theorem byPlace_fixedShare : ByPlace FixedShare := by
  apply byPlace_of_no_room
  intro source upper hroom
  show (source.share upper, source) = (source.share .zero, source)
  simp [FixedShare.share, hroom, hasRoom_zero]

theorem byPlace_generator : ByPlace Generator := by
  apply byPlace_of_no_room
  intro source upper hroom
  show source.next upper = source.next .zero
  simp [Generator.next, hroom, hasRoom_zero]

end Jitter

/-! ## Equality up to signs of zeros and clocks -/

/-- Two computed delays are the same, except that their bounds may be different zeros. -/
structure Pause.Equal (pause pause' : Pause) : Prop where
  attempt : pause.attempt = pause'.attempt
  total : pause.total = pause'.total
  capped : pause.capped = pause'.capped
  upper : pause.upper.position? = pause'.upper.position?
  draw : pause.draw = pause'.draw

theorem Pause.Equal.delay {pause pause' : Pause} (h : pause.Equal pause') :
    pause.delay = pause'.delay := by
  rw [Pause.delay, Pause.delay, jitter, jitter, h.capped, h.draw]

theorem Pause.Equal.event {pause pause' : Pause} (h : pause.Equal pause') :
    pause.event = pause'.event := by
  rw [Pause.event, Pause.event, jitter, jitter, h.attempt, h.total, h.capped, h.draw, h.delay]

/-- Two answers are the same up to the reading of the clock, or are equal policies. -/
def Answer.Equal (answer answer' : Answer) : Prop :=
  answer.undated = answer'.undated ∨
    ∃ p q : Policy, answer = .policy p ∧ answer' = .policy q ∧ p.eq q = true

/-- Two pacers have equal policies, the same source in the same place and the same counts. -/
structure Pacer.Equal (p q : Pacer σ) : Prop where
  policy : p.policy.eq q.policy = true
  source : p.source = q.source
  attempt : p.attempt = q.attempt
  total : p.total = q.total
  stamped : p.isStamped = q.isStamped

/-- Two steps show the same: the answer, the delay with all its parts, the reports and the
pacer that is left, down to its source. -/
structure Step.Equal (step step' : Step σ) : Prop where
  answer : step.answer.Equal step'.answer
  pause : Option.Rel Pause.Equal step.pause step'.pause
  events : step.events = step'.events
  after : step.after.Equal step'.after

namespace Pacer

/-! ## Equal pacers -/

theorem Equal.maxRetries {p q : Pacer σ} (h : p.Equal q) :
    p.policy.maxRetries = q.policy.maxRetries := (Policy.eq_iff.mp h.policy).2.2.2.2

theorem equal_new {p q : Policy} (h : p.eq q = true) (source : σ) :
    (new p source).Equal (new q source) := ⟨h, rfl, rfl, rfl, rfl⟩

theorem Equal.reports_eq {p p' q q' : Pacer σ} (before : p.Equal q) (after : p'.Equal q')
    (operation : Operation) {pause pause' : Option Pause}
    (h : Option.Rel Pause.Equal pause pause') :
    operation.reports p p' pause = operation.reports q q' pause' := by
  cases h with
  | some h => simp only [Operation.reports, h.event, h.delay, after.attempt]
  | none => simp only [Operation.reports, before.attempt, before.total]

variable [Jitter σ]

section

variable (hσ : Jitter.ByPlace σ)

include hσ

/-- The bounds of equal pacers are at one place, so the source makes one draw of both. -/
theorem Equal.draw {p q : Pacer σ} (h : p.Equal q) (now now' : Instant) :
    (p.next now).1.upper.position? = (q.next now').1.upper.position? ∧
      Jitter.draw p.source (p.next now).1.upper = Jitter.draw q.source (q.next now').1.upper := by
  have hupper : (p.next now).1.upper.position? = (q.next now').1.upper.position? := by
    rw [next_upper, next_upper, h.attempt, Policy.cappedDelay_congr h.policy]
    exact Policy.position?_jitterRange_congr h.policy _
  refine ⟨hupper, ?_⟩
  rw [h.source]
  exact hσ q.source hupper

theorem equal_simulation : Simulation (Equal (σ := σ)) Pause.Equal where
  next {p q} now now' h := by
    obtain ⟨hupper, hdraw⟩ := h.draw hσ now now'
    constructor
    · exact {
        attempt := h.attempt
        total := congrArg (fun total => min (total + 1) totalLimit) h.total
        capped := by rw [next_capped, next_capped, h.attempt, Policy.cappedDelay_congr h.policy]
        upper := hupper
        draw := congrArg Prod.fst hdraw }
    · exact {
        policy := h.policy
        source := congrArg Prod.snd hdraw
        attempt := by rw [next_attempt, next_attempt, h.attempt]
        total := by rw [next_total, next_total, h.total]
        stamped := rfl }
  reset h := ⟨h.policy, h.source, rfl, h.total, h.stamped⟩
  shouldRetry h := shouldRetry_of_maxRetries_eq h.maxRetries h.attempt

theorem Equal.answer_equal {p q : Pacer σ} (h : p.Equal q) (now now' : Instant)
    (operation : Operation) :
    (p.step now operation).answer.Equal (q.step now' operation).answer := by
  obtain ⟨hpause, -⟩ := (equal_simulation hσ).step h now now' operation
  by_cases hpolicy : operation = .policy
  · subst hpolicy
    exact .inr ⟨p.policy, q.policy, rfl, rfl, h.policy⟩
  · left
    by_cases hstate : operation = .state
    · subst hstate
      have hstamped : p.lastAttempt.isSome = q.lastAttempt.isSome := h.stamped
      simp only [step, look, Answer.undated, h.attempt, h.total, hstamped]
    · have hdelay : (p.step now operation).pause.map (·.delay) =
          (q.step now' operation).pause.map (·.delay) := by
        generalize (p.step now operation).pause = pause at hpause
        generalize (q.step now' operation).pause = pause' at hpause
        cases hpause with
        | some hequal => exact congrArg some hequal.delay
        | none => rfl
      rw [answer_eq_of_maxRetries_eq h.maxRetries h.attempt hstate hpolicy hdelay]

theorem Equal.step {p q : Pacer σ} (h : p.Equal q) (now now' : Instant)
    (operation : Operation) : (p.step now operation).Equal (q.step now' operation) := by
  obtain ⟨hpause, hafter⟩ := (equal_simulation hσ).step h now now' operation
  exact {
    answer := h.answer_equal hσ now now' operation
    pause := hpause
    events := by
      rw [step_events, step_events]
      exact h.reports_eq hafter operation hpause
    after := hafter }

end

/-! ## Equal policies -/

/-- Over sources of a type two policies cannot be told apart: from the same source on, the
same operations show the same, whatever the clocks are. -/
def Interchangeable (σ : Type) [Jitter σ] (p q : Policy) : Prop :=
  ∀ (source : σ) {plan plan' : List (Instant × Operation)}, plan.map (·.2) = plan'.map (·.2) →
    List.Forall₂ Step.Equal ((new p source).run plan) ((new q source).run plan')

theorem interchangeable_of_eq (hσ : Jitter.ByPlace σ) {p q : Policy} (h : p.eq q = true) :
    Interchangeable σ p q := by
  intro source plan plan' hplans
  exact (equal_simulation hσ).run
    (fun now now' operation hpq => hpq.step hσ now now' operation) (equal_new h source) hplans

/-- **Equal policies behave equally**: policies that are numerically equal give the same
delays before jitter and the same longest delay, pass the check both or have equal faults,
and cannot be told apart over fixed shares, over generators, and over any sources that do
not look at the bound. -/
theorem equal_policies {p q : Policy} (h : p.eq q = true) :
    (∀ n, p.cappedDelay n = q.cappedDelay n) ∧ p.maxJitteredDelay = q.maxJitteredDelay ∧
      Fault.eqVerdict p.check q.check = true ∧ Interchangeable FixedShare p q ∧
      Interchangeable Generator p q ∧
      ∀ (τ : Type) [Jitter τ],
        (∀ (source : τ) (upper upper' : Binary64),
          Jitter.draw source upper = Jitter.draw source upper') → Interchangeable τ p q := by
  refine ⟨Policy.cappedDelay_congr h, Policy.maxJitteredDelay_congr h, Policy.eqVerdict_check h,
    interchangeable_of_eq Jitter.byPlace_fixedShare h,
    interchangeable_of_eq Jitter.byPlace_generator h, ?_⟩
  intro τ _ hblind
  exact interchangeable_of_eq (fun source upper upper' _ => hblind source upper upper') h

/-- A policy that stops after its first attempt, and adds no jitter. -/
def vanishing : Policy :=
  { Policy.boundedCollector with multiplier := .zero, jitterFactor := .zero }

/-- The same policy with the other zeros. -/
def vanishingBelow : Policy :=
  { Policy.boundedCollector with multiplier := -.zero, jitterFactor := -.zero }

theorem vanishing_equal_policies :
    vanishing.eq vanishingBelow = true ∧ vanishing ≠ vanishingBelow ∧
      vanishing.cappedDelay 3 = vanishingBelow.cappedDelay 3 ∧
      Fault.eqVerdict vanishing.check vanishingBelow.check = true ∧
      List.Forall₂ Step.Equal
        ((new vanishing (Generator.cycle #[7])).run [(⟨0⟩, .next), (⟨1⟩, .policy), (⟨2⟩, .wait)])
        ((new vanishingBelow (Generator.cycle #[7])).run
          [(⟨5⟩, .next), (⟨5⟩, .policy), (⟨5⟩, .wait)]) := by
  have heq : vanishing.eq vanishingBelow = true := by decide
  have hne : vanishing ≠ vanishingBelow := by decide
  obtain ⟨hcapped, -, hverdict, -, hgenerator, -⟩ := equal_policies heq
  exact ⟨heq, hne, hcapped 3, hverdict, hgenerator (.cycle #[7]) rfl⟩

end Pacer

end Reconnect
