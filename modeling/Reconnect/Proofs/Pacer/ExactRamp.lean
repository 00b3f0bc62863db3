/-
Reconnect.Proofs.Pacer.ExactRamp — runs without jitter are exact.

A jitter factor of zero leaves no room for jitter, so the source stays still. Every
delay of a run is then the capped delay of its attempt (`delay_of_still`), and the
attempts count the delays since the last reset.

* `nanos_cappedDelay_min`: past the greatest count the ramp is at its cap.
* `exact_ramp`: with a whole multiplier the delays are the exact ramp.
-/
import Reconnect.Proofs.Pacer.Still
import Reconnect.Proofs.Policy.IntegerGrowth

namespace Reconnect

namespace Pacer

/-- Past the greatest count every ramp that grows is at the cap, so counts go on. -/
theorem nanos_cappedDelay_min {policy : Policy} (hbase : policy.baseDelay ≠ .zero) {M : ℕ}
    (hM : 0 < M) (hmultiplier : policy.multiplier.value? = some (M : ℚ))
    (hcap : policy.maxDelay.secs < 2 ^ 20) (n : ℕ) :
    (policy.cappedDelay (min n attemptLimit)).nanos =
      min (policy.baseDelay.nanos * M ^ n) policy.maxDelay.nanos := by
  have hcap' := Duration.nanos_lt_of_secs_lt hcap
  rw [Policy.nanos_cappedDelay hbase hM hmultiplier hcap]
  exact Policy.min_mul_pow_min (by decide) (Duration.nanos_pos hbase)
    (by omega) M n

/-- **The exact ramp**: with a base above zero, a whole multiplier above zero and a
cap below 2^20 seconds every capped delay is the minimum of the ramp and the cap, in
whole nanoseconds. If the jitter factor is zero too, then so is every delay of every
run, counted from the last reset, and a run gives no other delay away. -/
theorem exact_ramp {policy : Policy} (hbase : policy.baseDelay ≠ .zero) {M : ℕ} (hM : 0 < M)
    (hmultiplier : policy.multiplier.value? = some (M : ℚ))
    (hcap : policy.maxDelay.secs < 2 ^ 20) :
    (∀ n, (policy.cappedDelay n).nanos =
        min (policy.baseDelay.nanos * M ^ n) policy.maxDelay.nanos) ∧
      (policy.jitterFactor.eq .zero = true →
        ∀ (source : Source) (plan : List (Instant × Operation)) (i : ℕ)
          (entry : Operation × Step Source),
          source.isScript = false → ((new policy source).trace plan)[i]? = some entry →
          (∀ pause, entry.2.pause = some pause →
            pause.delay.nanos =
              min (policy.baseDelay.nanos *
                M ^ sinceReset (((new policy source).trace plan).take i)) policy.maxDelay.nanos) ∧
          ∀ delay, entry.2.answer.delay? = some delay →
            ∃ pause, entry.2.pause = some pause ∧ pause.delay = delay) := by
  refine ⟨Policy.nanos_cappedDelay hbase hM hmultiplier hcap, ?_⟩
  intro hjitter source plan i entry hsource hentry
  have still (capped : Duration) :
      Jitter.draw source (policy.jitterRange capped) = (.zero, source) :=
    Source.draw_of_hasRoom hsource (Policy.hasRoom_jitterRange hjitter capped)
  constructor
  · intro pause hpause
    rw [delay_of_still still hentry hpause, attempt_of_trace hentry hpause]
    exact nanos_cappedDelay_min hbase hM hmultiplier hcap _
  · intro delay hdelay
    exact pause_of_trace_delay? hentry hdelay

/-- From a second and a nanosecond doubling up to a nanosecond less than 2^20 seconds. -/
def doubling : Policy where
  baseDelay := .saturating 1_000_000_001
  maxDelay := .saturating 1_048_575_999_999_999
  multiplier := .nearest 2 1
  jitterFactor := .zero
  maxRetries := none

/-- Two delays, a success, and two delays again. -/
def twice : List (Instant × Operation) :=
  [(⟨0⟩, .next), (⟨1⟩, .wait), (⟨2⟩, .reset), (⟨3⟩, .iterate), (⟨4⟩, .race fun _ => false)]

theorem doubling_exact :
    doubling.baseDelay ≠ .zero ∧ doubling.multiplier.value? = some ((2 : ℕ) : ℚ) ∧
      doubling.maxDelay.secs < 2 ^ 20 ∧ doubling.jitterFactor.eq .zero = true ∧
      (doubling.cappedDelay 19).nanos = 524288000524288 ∧
      (∃ entry pause, ((new doubling (Source.fixed .none)).trace twice)[4]? = some entry ∧
        entry.2.pause = some pause ∧ pause.delay.nanos = 2000000002) ∧
      ∃ entry delay, ((new doubling (Source.fixed .none)).trace twice)[3]? = some entry ∧
        entry.2.answer.delay? = some delay ∧ delay.nanos = 1000000001 := by
  have hbase : doubling.baseDelay ≠ .zero := by decide
  have hmultiplier : doubling.multiplier.value? = some ((2 : ℕ) : ℚ) :=
    Binary64.value?_nearest (by norm_num)
  have hcap : doubling.maxDelay.secs < 2 ^ 20 := by decide
  have hjitter : doubling.jitterFactor.eq .zero = true := by decide
  have hexact := exact_ramp hbase (by norm_num) hmultiplier hcap
  refine ⟨hbase, hmultiplier, hcap, hjitter, ?_, ?_, ?_⟩
  · rw [hexact.1]
    decide
  · refine ⟨_, _, rfl, rfl, ?_⟩
    rw [(hexact.2 hjitter (.fixed .none) twice 4 _ rfl rfl).1 _ rfl]
    rfl
  · obtain ⟨hcomputed, hgiven⟩ := hexact.2 hjitter (.fixed .none) twice 3 _ rfl rfl
    obtain ⟨pause, hpause, hdelay⟩ := hgiven _ rfl
    refine ⟨_, _, rfl, rfl, ?_⟩
    rw [← hdelay, hcomputed pause hpause]
    rfl

end Pacer

end Reconnect
