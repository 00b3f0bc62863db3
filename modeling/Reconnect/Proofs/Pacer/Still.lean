/-
Reconnect.Proofs.Pacer.Still — runs without jitter.

Under a policy that is free of jitter no bound leaves room, and without room the sources
of this library answer zero and stay where they are. So a run never moves its source,
every delay is the capped one of its attempt, and the runs of two pacers that differ in
the source go the same way.

* `AtRest`: a pacer with a given policy and a given source; `final_still`: every run
  keeps it.
* `delay_of_still`: the delays are the capped ones of their attempts.
* `still_simulation`: two sources that stay still.
* `jitter_free`: the sources of this library under a policy that is free of jitter.
-/
import Reconnect.Proofs.Pacer.Lockstep
import Reconnect.Proofs.Policy.JitterRange

namespace Reconnect

namespace Pacer

variable {σ τ : Type} [Jitter σ] [Jitter τ] {policy : Policy} {source : σ} {source' : τ}

/-- A pacer that still has its policy and its source as they were. -/
structure AtRest (policy : Policy) (source : σ) (p : Pacer σ) : Prop where
  policy : p.policy = policy
  source : p.source = source

omit [Jitter σ] in
theorem AtRest.reset {p : Pacer σ} (h : AtRest policy source p) : AtRest policy source p.reset :=
  ⟨h.policy, h.source⟩

/-! ## One source -/

section

variable (still : ∀ capped, Jitter.draw source (policy.jitterRange capped) = (.zero, source))

include still

theorem draw_next_still {p : Pacer σ} (h : AtRest policy source p) (now : Instant) :
    (p.next now).1.draw = .zero := by
  rw [next_draw, next_upper, h.policy, h.source, still]

theorem AtRest.next {p : Pacer σ} (h : AtRest policy source p) (now : Instant) :
    AtRest policy source (p.next now).2 where
  policy := h.policy
  source := by rw [next_source, next_upper, h.policy, h.source, still]

theorem final_still (plan : List (Instant × Operation)) :
    AtRest policy source ((new policy source).final plan) :=
  final_induction (P := AtRest policy source) (fun now _ h => h.next still now)
    (fun _ h => h.reset) ⟨rfl, rfl⟩ plan

theorem delay_next_still {p : Pacer σ} (h : AtRest policy source p) (now : Instant) :
    (p.next now).1.delay = policy.cappedDelay p.attempt := by
  have hlt : ¬ Binary64.zero < (p.next now).1.draw := by
    rw [draw_next_still still h]
    decide
  rw [Pause.delay_of_not_zero_lt hlt, next_capped, h.policy]

theorem delay_of_still {plan : List (Instant × Operation)} {i : Nat}
    {entry : Operation × Step σ} (hentry : ((new policy source).trace plan)[i]? = some entry)
    {pause : Pause} (hpause : entry.2.pause = some pause) :
    pause.delay = policy.cappedDelay pause.attempt := by
  obtain ⟨now, rfl⟩ := exists_next_of_trace hentry hpause
  exact delay_next_still still (final_still still _) now

end

/-! ## Two sources -/

/-- Pacers at rest with one policy go the same way, whatever their sources are. -/
theorem still_simulation
    (still : ∀ capped, Jitter.draw source (policy.jitterRange capped) = (.zero, source))
    (still' : ∀ capped, Jitter.draw source' (policy.jitterRange capped) = (.zero, source')) :
    Simulation
      (fun p q => p.Alike q ∧ AtRest policy source p ∧ AtRest policy source' q) Eq where
  next now now' := by
    rintro ⟨halike, hp, hq⟩
    have hdraw := (draw_next_still still hp now).trans (draw_next_still still' hq now').symm
    exact ⟨halike.next_eq hdraw, (alike_simulation.next now now' halike).2, hp.next still now,
      hq.next still' now'⟩
  reset h := ⟨alike_simulation.reset h.1, h.2.1.reset, h.2.2.reset⟩
  shouldRetry h := alike_simulation.shouldRetry h.1

/-- **Jitter-free policies need no source**: where the jitter factor is not above zero,
infinite or not-a-number, any two sources of this library that are no scripts show the same
at every operation of two runs of the same operations. Every delay is the capped delay of
its attempt, counted from the last reset, and the source stays where it is. -/
theorem jitter_free {policy : Policy} (hfree : policy.JitterFree) {source source' : Source}
    (hsource : source.isScript = false) (hsource' : source'.isScript = false)
    {plan plan' : List (Instant × Operation)} (hplans : plan.map (·.2) = plan'.map (·.2)) :
    List.Forall₂ Step.Agrees ((new policy source).run plan) ((new policy source').run plan') ∧
      ∀ (i : Nat) (entry : Operation × Step Source),
        ((new policy source).trace plan)[i]? = some entry →
        entry.2.after.source = source ∧
        (∀ pause, entry.2.pause = some pause →
          pause.attempt =
            min (sinceReset (((new policy source).trace plan).take i)) attemptLimit ∧
          pause.delay = policy.cappedDelay pause.attempt) ∧
        ∀ delay, entry.2.answer.delay? = some delay →
          ∃ pause, entry.2.pause = some pause ∧ pause.delay = delay := by
  have still (capped : Duration) :
      Jitter.draw source (policy.jitterRange capped) = (.zero, source) :=
    Source.draw_of_hasRoom hsource (hfree.hasRoom_jitterRange capped)
  have still' (capped : Duration) :
      Jitter.draw source' (policy.jitterRange capped) = (.zero, source') :=
    Source.draw_of_hasRoom hsource' (hfree.hasRoom_jitterRange capped)
  constructor
  · have hsim := still_simulation still still'
    have hnew := alike_new policy source source'
    exact hsim.run (fun now now' operation h => hsim.agrees And.left h now now' operation)
      ⟨hnew, ⟨rfl, rfl⟩, ⟨rfl, rfl⟩⟩ hplans
  · intro i entry hentry
    refine ⟨?_, ?_, ?_⟩
    · rw [after_of_trace hentry]
      exact (final_still still _).source
    · intro pause hpause
      exact ⟨attempt_of_trace hentry hpause, delay_of_still still hentry hpause⟩
    · intro delay hdelay
      exact pause_of_trace_delay? hentry hdelay

/-- A policy with an infinite jitter factor. -/
def boundless : Policy := { Policy.boundedCollector with jitterFactor := .infinite false }

/-- The source that adds the whole range, where there is one. -/
def whole : Source := .fixed (.new .one)

/-- A stream of the same word. -/
def sevens : Source := .generator (.cycle #[7])

/-- A delay, a success and a wait, one after another. -/
def apart : List (Instant × Operation) := [(⟨0⟩, .next), (⟨1⟩, .reset), (⟨2⟩, .wait)]

/-- The same at one time. -/
def together : List (Instant × Operation) := [(⟨5⟩, .next), (⟨5⟩, .reset), (⟨5⟩, .wait)]

theorem boundless_jitter_free :
    boundless.JitterFree ∧ whole.isScript = false ∧ sevens.isScript = false ∧
      apart.map (·.2) = together.map (·.2) ∧
      List.Forall₂ Step.Agrees ((new boundless whole).run apart)
        ((new boundless sevens).run together) ∧
      ∃ entry pause, ((new boundless whole).trace apart)[2]? = some entry ∧
        entry.2.pause = some pause ∧ pause.attempt = 0 ∧
        pause.delay = boundless.cappedDelay 0 ∧ entry.2.answer.delay? = some pause.delay ∧
        entry.2.after.source = whole := by
  have hfree : boundless.JitterFree := .inr rfl
  obtain ⟨hagrees, hdelays⟩ := @jitter_free boundless hfree whole sevens rfl rfl apart together rfl
  obtain ⟨hsource, hcomputed, hgiven⟩ := hdelays 2 _ rfl
  obtain ⟨pause, hpause, hdelay⟩ := hgiven _ rfl
  obtain ⟨hattempt, hcapped⟩ := hcomputed pause hpause
  refine ⟨hfree, rfl, rfl, rfl, hagrees, _, pause, rfl, hpause, hattempt, ?_, ?_, hsource⟩
  · rw [hcapped, hattempt]
    rfl
  · rw [hdelay]
    rfl

end Pacer

end Reconnect
