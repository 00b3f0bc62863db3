/-
Reconnect.Proofs.Pacer.Envelope — the bounds on every delay of a run.

A lawful source stays lawful and the policy stays as it is, so every delay of a
run is the capped delay of its attempt plus one draw under the bound for it. The
way from seconds to a duration is monotone, so the bound on the draw is one on the
jitter, and below a cap of 2^23 seconds the longest delay of an attempt is not
above the longest delay at the cap.

* `final_lawful`: every run leaves a lawful source.
* `delay_le_longestDelay`: one delay of a lawful source.
* `envelope`: every delay of a run, and every delay that it gives away.
-/
import Reconnect.Proofs.Pacer.Run
import Reconnect.Proofs.Policy.JitterRange

namespace Reconnect

open Binary64

/-- A draw that keeps to the rule is no longer than the bound. -/
theorem Jitter.Keeps.ofSeconds_le {upper draw : Binary64} (h : Jitter.Keeps upper draw) :
    Duration.ofSeconds draw ≤ Duration.ofSeconds upper := by
  unfold Keeps at h
  split at h
  · exact Duration.ofSeconds_le_ofSeconds h.2
  · rw [Duration.ofSeconds_of_not_zero_lt (Binary64.not_lt_of_le (le_of_eq h))]
    exact Nat.zero_le _

namespace Pacer

variable {σ : Type} [Jitter σ]

theorem final_lawful {p : Pacer σ} (h : Jitter.Lawful p.source)
    (plan : List (Instant × Operation)) : Jitter.Lawful (p.final plan).source :=
  final_induction (P := fun q => Jitter.Lawful q.source) (fun _ _ hq => hq.draw _)
    (fun _ hq => hq) h plan

theorem cappedDelay_le_delay (now : Instant) (p : Pacer σ) :
    p.policy.cappedDelay p.attempt ≤ (p.next now).1.delay := Duration.le_saturatingAdd _ _

theorem delay_le_longestDelay {p : Pacer σ} (h : Jitter.Lawful p.source) (now : Instant) :
    (p.next now).1.delay ≤ p.policy.longestDelay p.attempt :=
  Duration.saturatingAdd_mono (Nat.le_refl _) (h.keeps _).ofSeconds_le

theorem pause_bounds {policy : Policy} (hcap : policy.maxDelay.secs < 2 ^ 23) {source : σ}
    (hsource : Jitter.Lawful source) {plan : List (Instant × Operation)} {i : Nat}
    {entry : Operation × Step σ} (hentry : ((new policy source).trace plan)[i]? = some entry)
    {pause : Pause} (hpause : entry.2.pause = some pause) :
    pause.attempt = ((new policy source).final (plan.take i)).attempt ∧
      policy.cappedDelay pause.attempt ≤ pause.delay ∧
      pause.delay ≤ policy.longestDelay pause.attempt ∧
      policy.longestDelay pause.attempt ≤ policy.maxJitteredDelay := by
  obtain ⟨now, rfl⟩ := exists_next_of_trace hentry hpause
  have hpolicy := final_policy (new policy source) (plan.take i)
  have hlawful := final_lawful (p := new policy source) hsource (plan.take i)
  have below := cappedDelay_le_delay now ((new policy source).final (plan.take i))
  have above := delay_le_longestDelay hlawful now
  rw [hpolicy] at below above
  exact ⟨rfl, below, above, Policy.longestDelay_le hcap _⟩

/-- **The envelope**: with a cap below 2^23 seconds and a lawful source, every delay
of a run lies between the capped delay of its attempt and that with all the jitter
it allows, and what the run gives away is one of these delays and not above the longest. -/
theorem envelope {policy : Policy} (hcap : policy.maxDelay.secs < 2 ^ 23) {source : σ}
    (hsource : Jitter.Lawful source) (plan : List (Instant × Operation)) {i : Nat}
    {entry : Operation × Step σ} (hentry : ((new policy source).trace plan)[i]? = some entry) :
    (∀ pause, entry.2.pause = some pause →
      pause.attempt = ((new policy source).final (plan.take i)).attempt ∧
        policy.cappedDelay pause.attempt ≤ pause.delay ∧
        pause.delay ≤ policy.longestDelay pause.attempt ∧
        policy.longestDelay pause.attempt ≤ policy.maxJitteredDelay) ∧
      ∀ delay, entry.2.answer.delay? = some delay →
        delay ≤ policy.maxJitteredDelay ∧
          ∃ pause, entry.2.pause = some pause ∧ pause.delay = delay := by
  constructor
  · intro pause hpause
    exact pause_bounds hcap hsource hentry hpause
  · intro delay hdelay
    obtain ⟨pause, hpause, rfl⟩ := pause_of_trace_delay? hentry hdelay
    obtain ⟨-, -, above, global⟩ := pause_bounds hcap hsource hentry hpause
    exact ⟨Nat.le_trans above global, pause, hpause, rfl⟩

/-- A base above the cap, and a multiplier that alternates between the infinities. -/
def inverted : Policy where
  baseDelay := .seconds 120
  maxDelay := .seconds 60
  multiplier := .infinite true
  jitterFactor := .nearest 1 4
  maxRetries := some 3

/-- A stream of the same word. -/
def sameWord : Generator := .cycle #[7]

/-- A delay and a wait. -/
def delayThenWait : List (Instant × Operation) := [(⟨0⟩, .next), (⟨1⟩, .wait)]

theorem inverted_envelope :
    inverted.maxDelay.secs < 2 ^ 23 ∧
      (Jitter.Lawful (FixedShare.new (.nearest 1 2)) ∧
        ∃ entry pause, ((new inverted (FixedShare.new (.nearest 1 2))).trace delayThenWait)[1]? =
            some entry ∧
          entry.2.pause = some pause ∧ inverted.cappedDelay 1 ≤ pause.delay ∧
          pause.delay ≤ inverted.longestDelay 1 ∧
          inverted.longestDelay 1 ≤ inverted.maxJitteredDelay) ∧
      Jitter.Lawful sameWord ∧
        ∃ entry delay, ((new inverted sameWord).trace delayThenWait)[1]? = some entry ∧
          entry.2.answer.delay? = some delay ∧ delay ≤ inverted.maxJitteredDelay := by
  have hcap : inverted.maxDelay.secs < 2 ^ 23 := by decide
  have hshare := FixedShare.lawful_new (.nearest 1 2)
  have hwords := Generator.lawful sameWord
  refine ⟨hcap, ⟨hshare, _, _, rfl, rfl, ?_⟩, hwords, ?_⟩
  · obtain ⟨bounds, -⟩ := envelope hcap hshare delayThenWait (i := 1) rfl
    obtain ⟨-, below, above, global⟩ := bounds _ rfl
    exact ⟨below, above, global⟩
  · have hentry := trace_of_plan (new inverted sameWord) delayThenWait (i := 1) rfl
    obtain ⟨-, given⟩ := envelope hcap hwords delayThenWait hentry
    have hgiven := delay?_wait ⟨1⟩ ((new inverted sameWord).final (delayThenWait.take 1))
    exact ⟨_, _, hentry, hgiven, (given _ hgiven).1⟩

end Pacer

end Reconnect
