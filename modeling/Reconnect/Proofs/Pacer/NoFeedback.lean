/-
Reconnect.Proofs.Pacer.NoFeedback — jitter reaches nothing but its own delay.

Two pacers with one policy and sources of any kind, lawful or not, are alike in all
but the source, the stamp's reading and the length of their delays. What is alike
decides the attempts, the budget and the bound that the next draw is made under, so
no answer of a source has an influence on any of them. A draw enters one sum, and
that sum is cut at the longest duration.

* `Outline`: what a step shows apart from the length of a delay.
* `Alike.step`: two pacers that differ in the source have one outline.
* `OnTop`: a delay is its capped delay with the draw on top.
* `no_feedback`: two runs over two sources have one outline, and every delay is `OnTop`.
-/
import Reconnect.Proofs.Pacer.Lockstep

namespace Reconnect

variable {σ τ : Type}

/-- Whether the iterator gave a delay, where it was asked for one. -/
def Answer.item? : Answer → Option Bool
  | .item d => some d.isSome
  | _ => none

/-- What a step shows, apart from the length of a delay: the counts and the budget
after it, whether the iterator gave a delay, and the bound that the source was asked
under. -/
structure Outline where
  attempt : Nat
  total : Nat
  stamped : Bool
  shouldRetry : Bool
  remaining : Option Nat
  item : Option Bool
  upper : Option Binary64
  deriving DecidableEq

/-- The outline of a step. -/
def Step.outline (step : Step σ) : Outline where
  attempt := step.after.attempt
  total := step.after.total
  stamped := step.after.isStamped
  shouldRetry := step.after.shouldRetry
  remaining := step.after.remaining
  item := step.answer.item?
  upper := step.pause.map (·.upper)

/-- A delay of a policy is the capped delay of its attempt with the draw on top: the
sum of the two in nanoseconds, up to the longest duration. -/
structure OnTop (policy : Policy) (pause : Pause) : Prop where
  nanos : pause.delay.nanos =
    min ((policy.cappedDelay pause.attempt).nanos + (Duration.ofSeconds pause.draw).nanos)
      Duration.longest.nanos
  capped_le : policy.cappedDelay pause.attempt ≤ pause.delay
  unchanged : pause.draw = .nan ∨ pause.draw ≤ .zero →
    pause.delay = policy.cappedDelay pause.attempt
  longest : pause.draw = .infinite false → pause.delay = .longest

/-- A step of a pacer asks its source once where it computes a delay, with the answer
on top of that delay, and else not at all; it gives no other delay away. -/
structure Step.DrawsOnce [Jitter σ] (policy : Policy) (before : Pacer σ) (step : Step σ) :
    Prop where
  quiet : step.pause = none → step.after.source = before.source
  draw (pause : Pause) : step.pause = some pause →
    pause.attempt = before.attempt ∧
      (pause.draw, step.after.source) = Jitter.draw before.source pause.upper ∧
      OnTop policy pause
  shown (delay : Duration) : step.answer.delay? = some delay →
    ∃ pause, step.pause = some pause ∧ pause.delay = delay

namespace Pacer

variable [Jitter σ] [Jitter τ]

/-! ## Two sources -/

omit [Jitter τ] in
theorem item?_step (now : Instant) (p : Pacer σ) (operation : Operation) :
    (p.step now operation).answer.item? =
      match operation with
      | .iterate => some p.shouldRetry
      | _ => none := by
  cases operation with
  | iterate =>
    by_cases allowed : p.shouldRetry = true
    · simp [step, iterate, allowed, Answer.item?]
    · simp [step, iterate, allowed, Answer.item?]
  | race wins =>
    simp only [step, waitStep]
    split <;> rfl
  | next => rfl
  | wait => rfl
  | waitUnstarted => rfl
  | reset => rfl
  | shouldRetry => rfl
  | remaining => rfl
  | policy => rfl
  | state => rfl

theorem Alike.step {p : Pacer σ} {q : Pacer τ} (h : p.Alike q) (now now' : Instant)
    (operation : Operation) :
    (p.step now operation).outline = (q.step now' operation).outline := by
  obtain ⟨hpause, hafter⟩ := alike_simulation.step h now now' operation
  rw [Step.outline, Step.outline, hafter.attempt, hafter.total, hafter.stamped,
    shouldRetry_congr hafter.policy hafter.attempt, remaining_congr hafter.policy hafter.attempt,
    item?_step, item?_step, shouldRetry_congr h.policy h.attempt, Pause.map_eq_of_rel hpause]

/-! ## One source -/

theorem onTop_of_capped {policy : Policy} {pause : Pause}
    (h : pause.capped = policy.cappedDelay pause.attempt) : OnTop policy pause where
  nanos := by
    rw [← h]
    rfl
  capped_le := by
    rw [← h]
    exact Duration.le_saturatingAdd _ _
  unchanged hdraw := by
    rw [← h]
    apply Pause.delay_of_not_zero_lt
    intro hlt
    rcases hdraw with hnan | hle
    · exact Binary64.ne_nan_of_lt hlt hnan
    · exact Binary64.not_lt_of_le hle hlt
  longest hdraw := by
    apply Duration.ext
    rw [Pause.delay, Pause.jitter, hdraw]
    exact Nat.min_eq_right (Nat.le_add_left _ _)

theorem drawsOnce_step (now : Instant) (p : Pacer σ) (operation : Operation) :
    (p.step now operation).DrawsOnce p.policy p where
  quiet hpause := source_of_pause_eq_none hpause
  draw pause hpause := by
    rw [after_of_pause hpause]
    obtain rfl := eq_next_of_pause hpause
    exact ⟨rfl, rfl, onTop_of_capped rfl⟩
  shown _ hdelay := pause_of_delay? hdelay

/-- **No feedback**: over any two sources, lawful or not, the same operations show the
same counts, the same budget, the same answers and refusals of the iterator and the same
bounds on the draws after every step; and every draw is answered once and goes on top of
one delay. -/
theorem no_feedback (policy : Policy) (source : σ) (source' : τ)
    {plan plan' : List (Instant × Operation)} (hplans : plan.map (·.2) = plan'.map (·.2)) :
    ((new policy source).run plan).map Step.outline =
        ((new policy source').run plan').map Step.outline ∧
      ∀ (i : Nat) (entry : Operation × Step σ), ((new policy source).trace plan)[i]? = some entry →
        entry.2.DrawsOnce policy ((new policy source).final (plan.take i)) := by
  constructor
  · have hsteps : List.Forall₂ (fun step step' => step.outline = step'.outline)
        ((new policy source).run plan) ((new policy source').run plan') :=
      alike_simulation.run (fun now now' operation h => h.step now now' operation)
        (alike_new policy source source') hplans
    rw [← List.forall₂_eq_eq_eq, List.forall₂_map_left_iff, List.forall₂_map_right_iff]
    exact hsteps
  · intro i entry hentry
    obtain ⟨now, operation, rfl⟩ := exists_step_of_trace hentry
    have hstep := drawsOnce_step now ((new policy source).final (plan.take i)) operation
    rwa [final_policy] at hstep

/-- Answers that no source should give: no number, less than nothing, and no end. -/
def hostile : Script := .cycle #[.nan, .infinite true, .infinite false]

/-- Five delays on a budget of three, with a refusal, and one more after a success. -/
def disturbed : List (Instant × Operation) :=
  [(⟨0⟩, .next), (⟨1⟩, .wait), (⟨2⟩, .iterate), (⟨3⟩, .race fun _ => false), (⟨4⟩, .iterate),
    (⟨5⟩, .next), (⟨6⟩, .reset), (⟨7⟩, .iterate)]

/-- The same operations, all at one time. -/
def atOnce : List (Instant × Operation) := disturbed.map fun entry => (⟨9⟩, entry.2)

theorem hostile_no_feedback :
    disturbed.map (·.2) = atOnce.map (·.2) ∧
      ((new .boundedCollector hostile).run disturbed).map Step.outline =
        ((new .boundedCollector (FixedShare.new .one)).run atOnce).map Step.outline ∧
      (∃ entry pause, ((new .boundedCollector hostile).trace disturbed)[0]? = some entry ∧
        entry.2.pause = some pause ∧ pause.draw = .nan ∧ pause.delay = .seconds 1) ∧
      ∃ entry pause, ((new .boundedCollector hostile).trace disturbed)[2]? = some entry ∧
        entry.2.pause = some pause ∧ pause.draw = .infinite false ∧ pause.delay = .longest := by
  have hplans : disturbed.map (·.2) = atOnce.map (·.2) := rfl
  obtain ⟨houtline, hdraws⟩ :=
    no_feedback .boundedCollector hostile (FixedShare.new .one) hplans
  refine ⟨hplans, houtline, ⟨_, _, rfl, rfl, rfl, ?_⟩, ⟨_, _, rfl, rfl, rfl, ?_⟩⟩
  · obtain ⟨hattempt, -, onTop⟩ := (hdraws 0 _ rfl).draw _ rfl
    rw [onTop.unchanged (.inl rfl)]
    decide +kernel
  · obtain ⟨-, -, onTop⟩ := (hdraws 2 _ rfl).draw _ rfl
    exact onTop.longest rfl

end Pacer

end Reconnect
