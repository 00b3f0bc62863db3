/-
Reconnect.Proofs.Pacer.Words — the random words that a run takes.

A generator moves on by a word where a draw has room and stays where it is otherwise, and
a pacer reaches its source only when it computes a delay. So the place of the generator
is the number of delays so far whose bound is finite and above zero, and each such delay
is drawn from the word at the place that the delays before it leave.

* `Pause.words`: the words that a delay takes; `words`: those of a trace.
* `final_source`: a run takes just these.
* `DrawnFrom`: a delay that is drawn from a generator as it stands.
* `sources_keep`: the sources keep to the rule, in every draw and in every run.
-/
import Reconnect.Binary64.Bits
import Reconnect.Proofs.Jitter.Draws
import Reconnect.Proofs.Pacer.Counts

namespace Reconnect

/-- How many words a delay takes: one if its bound is finite and above zero. -/
def Pause.words (pause : Pause) : Nat :=
  if pause.upper.isFinite = true ∧ .zero < pause.upper then 1 else 0

namespace Pacer

/-- How many words the delays of a trace take. -/
def words {σ : Type} (entries : List (Operation × Step σ)) : Nat :=
  (entries.map fun entry => entry.2.pause.elim 0 Pause.words).sum

/-! ## One step and a run -/

theorem next_source_eq (now : Instant) (p : Pacer Generator) :
    (p.next now).2.source = p.source.skip (p.next now).1.words := by
  rw [next_source, Generator.draw_eq, Pause.words]

theorem step_source (now : Instant) (p : Pacer Generator) (operation : Operation) :
    (p.step now operation).after.source =
      p.source.skip ((p.step now operation).pause.elim 0 Pause.words) := by
  cases hpause : (p.step now operation).pause with
  | none => rw [source_of_pause_eq_none hpause, Option.elim_none, Generator.skip_zero]
  | some pause =>
    rw [after_of_pause hpause, next_source_eq, ← eq_next_of_pause hpause, Option.elim_some]

/-- A run takes the words of its delays and no other. -/
theorem final_source (p : Pacer Generator) (plan : List (Instant × Operation)) :
    (p.final plan).source = p.source.skip (words (p.trace plan)) := by
  induction plan generalizing p with
  | nil => rfl
  | cons entry plan ih =>
    obtain ⟨now, operation⟩ := entry
    rw [final_cons, ih, step_source, Generator.skip_skip, trace_cons, words, words,
      List.map_cons, List.sum_cons]

/-! ## The rule -/

/-- A delay of a policy that is drawn from a generator: the word in its place stands for the
draw if the bound of the attempt's capped delay has room, and if it has none the draw is
zero. -/
structure DrawnFrom (policy : Policy) (source : Generator) (pause : Pause) : Prop where
  upper : pause.upper = policy.jitterRange (policy.cappedDelay pause.attempt)
  word : pause.upper.isFinite = true → .zero < pause.upper →
    pause.draw = Generator.uniform (source.word source.position) pause.upper
  zero : ¬ (pause.upper.isFinite = true ∧ .zero < pause.upper) → pause.draw = .zero

theorem drawnFrom_next (now : Instant) (p : Pacer Generator) :
    DrawnFrom p.policy p.source (p.next now).1 := by
  have hdraw := next_draw now p
  rw [Generator.draw_eq] at hdraw
  refine ⟨by rw [next_upper, next_pause_attempt], ?_, ?_⟩
  · intro hfinite hpos
    rw [hdraw, if_pos ⟨hfinite, hpos⟩]
  · intro hnone
    rw [hdraw, if_neg hnone]

/-- **The sources keep to the rule**: under every bound the draw of a share clamped from any
number, and that of a generator anywhere in its stream, is zero to the bound where the bound
is finite and above zero, and zero where it is not; the generator moves on by one word in the
first case and by none in the second. In every run on a generator the words taken are then
one for each computed delay with such a bound, in order, and none for any other operation. -/
theorem sources_keep :
    (∀ fraction upper : Binary64,
      Jitter.KeepsExactly upper (Jitter.draw (FixedShare.new fraction) upper).1) ∧
    (∀ (generator : Generator) (upper : Binary64),
      Jitter.KeepsExactly upper (Jitter.draw generator upper).1 ∧
      (Jitter.draw generator upper).2 =
        generator.skip (if upper.isFinite = true ∧ .zero < upper then 1 else 0)) ∧
    ∀ (policy : Policy) (generator : Generator) (plan : List (Instant × Operation)) (i : Nat)
      (entry : Operation × Step Generator),
      ((new policy generator).trace plan)[i]? = some entry →
      entry.2.after.source =
        generator.skip (words (((new policy generator).trace plan).take (i + 1))) ∧
      ∀ pause, entry.2.pause = some pause →
        pause.attempt = ((new policy generator).final (plan.take i)).attempt ∧
        DrawnFrom policy
          (generator.skip (words (((new policy generator).trace plan).take i))) pause := by
  refine ⟨FixedShare.keepsExactly_share, ?_, ?_⟩
  · intro generator upper
    exact ⟨generator.keepsExactly_draw upper, by rw [Generator.draw_eq]⟩
  · intro policy generator plan i entry hentry
    constructor
    · rw [after_of_trace hentry, final_source, take_trace]
      rfl
    · intro pause hpause
      obtain ⟨now, rfl⟩ := exists_next_of_trace hentry hpause
      have hsource := final_source (new policy generator) (plan.take i)
      have hdrawn := drawnFrom_next now ((new policy generator).final (plan.take i))
      rw [hsource, final_policy] at hdrawn
      rw [take_trace]
      exact ⟨next_pause_attempt now _, hdrawn⟩

/-- From a nanosecond on, about a trillion times longer at every attempt. The jitter factor is
so small that the range of the first delay is lost in rounding and that of later ones is not. -/
def faint : Policy where
  baseDelay := .saturating 1
  maxDelay := .saturating 3_600_000_000_000
  multiplier := .nearest (1 <<< 40) 1
  jitterFactor := .ofBits 16
  maxRetries := none

/-- A word near zero and a word in the middle, in turn. -/
def lowAndMiddle : Generator := .cycle #[5, 0x8000000000000000]

/-- Two delays, a success, and two delays again. -/
def restarted : List (Instant × Operation) :=
  [(⟨0⟩, .next), (⟨1⟩, .race fun _ => false), (⟨2⟩, .reset), (⟨3⟩, .iterate), (⟨4⟩, .wait)]

theorem faint_sources_keep :
    ∃ entry pause, ((new faint lowAndMiddle).trace restarted)[4]? = some entry ∧
      entry.2.pause = some pause ∧ pause.attempt = 1 ∧
      pause.upper.isFinite = true ∧ .zero < pause.upper ∧
      pause.draw = Generator.uniform 0x8000000000000000 pause.upper ∧
      entry.2.after.source.position = 2 := by
  have hentry := trace_of_plan (new faint lowAndMiddle) restarted (i := 4) rfl
  obtain ⟨pause, hpause⟩ := Option.isSome_iff_exists.mp
    (isSome_pause ⟨4⟩ ((new faint lowAndMiddle).final (restarted.take 4)) .wait)
  obtain ⟨hsource, hdrawn⟩ := sources_keep.2.2 faint lowAndMiddle restarted 4 _ hentry
  obtain ⟨hattempt, hdrawn⟩ := hdrawn pause hpause
  have hone : ((new faint lowAndMiddle).final (restarted.take 4)).attempt = 1 := by
    decide +kernel
  have hroom : (faint.jitterRange (faint.cappedDelay 1)).isFinite = true ∧
      .zero < faint.jitterRange (faint.cappedDelay 1) := by decide +kernel
  have htaken : words (((new faint lowAndMiddle).trace restarted).take 4) = 1 := by
    decide +kernel
  have hall : words (((new faint lowAndMiddle).trace restarted).take 5) = 2 := by
    decide +kernel
  have hupper := hdrawn.upper
  rw [hattempt, hone] at hupper
  rw [← hupper] at hroom
  refine ⟨_, pause, hentry, hpause, hattempt.trans hone, hroom.1, hroom.2, ?_, ?_⟩
  · rw [hdrawn.word hroom.1 hroom.2, htaken]
    rfl
  · rw [hsource, hall]
    rfl

end Pacer

end Reconnect
