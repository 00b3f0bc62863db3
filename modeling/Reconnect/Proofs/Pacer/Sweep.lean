/-
Reconnect.Proofs.Pacer.Sweep — fixed shares of the jitter, from none to all of it.

A fixed share has no state, so in every run it is the share that it was, and a delay goes by
the attempt alone: `fixedDelay`. Under a sound policy whose range at the cap is finite all
that it is made of is monotone in the attempt or in the share: the ramp, the range of the
jitter, the share held between zero and one, their product, the way back to a duration and
the sum that stops at the longest. The ends are exact: a share of zero adds nothing, and a
share of one adds the whole range, to the last bit.

* `fixedDelay`: the delay of an attempt with a fixed share; `delay_of_fixedShare`.
* `fixedDelay_mono`: it grows with share and attempt.
* `share_sweep`: the order, both ends, and the longest delay, which is attained.
-/
import Reconnect.Proofs.Pacer.Still

namespace Reconnect

open Binary64

namespace Pacer

variable {policy : Policy}

/-- The delay that a pacer with a fixed share of the range computes at an attempt. -/
def fixedDelay (policy : Policy) (fraction : Binary64) (attempt : Nat) : Duration :=
  ({ new policy (FixedShare.new fraction) with attempt }.next ⟨0⟩).1.delay

theorem fixedDelay_eq (policy : Policy) (fraction : Binary64) (n : Nat) :
    fixedDelay policy fraction n = (policy.cappedDelay n).saturatingAdd
      (.ofSeconds ((FixedShare.new fraction).share
        (policy.jitterRange (policy.cappedDelay n)))) := rfl

/-! ## Runs -/

/-- Every run leaves the policy and the share as they were. -/
theorem final_fixedShare (policy : Policy) (share : FixedShare)
    (plan : List (Instant × Operation)) : AtRest policy share ((new policy share).final plan) :=
  final_induction (P := AtRest policy share) (fun _ _ h => ⟨h.policy, h.source⟩)
    (fun _ h => h.reset) ⟨rfl, rfl⟩ plan

theorem delay_next_fixedShare {fraction : Binary64} {p : Pacer FixedShare}
    (h : AtRest policy (.new fraction) p) (now : Instant) :
    (p.next now).1.delay = fixedDelay policy fraction p.attempt := by
  obtain ⟨rfl, hsource⟩ := h
  rw [fixedDelay_eq, ← hsource]
  rfl

/-- The delays of a run go by the attempt alone. -/
theorem delay_of_fixedShare {fraction : Binary64} {plan : List (Instant × Operation)} {i : Nat}
    {entry : Operation × Step FixedShare}
    (hentry : ((new policy (.new fraction)).trace plan)[i]? = some entry) {pause : Pause}
    (hpause : entry.2.pause = some pause) :
    pause.delay = fixedDelay policy fraction pause.attempt := by
  obtain ⟨now, rfl⟩ := exists_next_of_trace hentry hpause
  exact delay_next_fixedShare (final_fixedShare policy _ _) now

/-! ## Shares in order -/

/-- A share that is not above zero adds nothing, whatever the range is. -/
theorem fixedDelay_of_le_zero {f : Binary64} (hf : f ≤ zero) (n : Nat) :
    fixedDelay policy f n = policy.cappedDelay n := by
  rw [fixedDelay_eq, Duration.ofSeconds_of_not_zero_lt (FixedShare.not_zero_lt_share hf _),
    Duration.saturatingAdd_zero]

section

variable (hp : policy.Sound) (hcap : policy.maxDelay.secs < 2 ^ 23)
  (hrange : (policy.jitterRange policy.maxDelay).isFinite = true)

include hp hcap hrange

theorem fixedDelay_mono {f g : Binary64} (hfg : f ≤ g) {n m : Nat} (hnm : n ≤ m) :
    fixedDelay policy f n ≤ fixedDelay policy g m := by
  have hcapped := hp.cappedDelay_mono hcap hnm
  have hjitter := FixedShare.share_mono hfg (hp.jitterRange_mono hcapped)
    (hp.isFinite_jitterRange hcap hrange m)
  rw [fixedDelay_eq, fixedDelay_eq]
  exact Duration.saturatingAdd_mono hcapped (Duration.ofSeconds_le_ofSeconds hjitter)

/-- A share of at least one adds the whole range. -/
theorem fixedDelay_of_one_le {f : Binary64} (hf : one ≤ f) (n : Nat) :
    fixedDelay policy f n = policy.longestDelay n := by
  have hfinite := hp.isFinite_jitterRange hcap hrange n
  rw [fixedDelay_eq, Policy.longestDelay]
  by_cases hroom : zero < policy.jitterRange (policy.cappedDelay n)
  · rw [FixedShare.share_of_one_le hf ⟨hfinite, hroom⟩]
  · -- with no range there is nothing to add on either side
    have hnone := (FixedShare.keepsExactly_share f _).zero fun h => hroom h.2
    rw [hnone, Duration.ofSeconds_of_not_zero_lt hroom,
      Duration.ofSeconds_of_not_zero_lt (by decide : ¬ zero < zero)]

end

/-- **Fixed shares**: in every run of a pacer with a fixed share the delay of an attempt is
`fixedDelay`, with the attempts counted from the last reset, and no other delay is given
away. Under a policy that passes the check, with a cap below 2^23 seconds and a finite range
at the cap, it grows with the share and the attempt. It is the capped delay for shares that
are not above zero, and that with all its jitter for shares of at least one; the longest
delay of the policy is attained by these wherever the ramp is at the cap. -/
theorem share_sweep {policy : Policy} (hcheck : policy.check = .ok ())
    (hcap : policy.maxDelay.secs < 2 ^ 23)
    (hrange : (policy.jitterRange policy.maxDelay).isFinite = true) :
    (∀ (f : Binary64) (plan : List (Instant × Operation)) (i : Nat)
        (entry : Operation × Step FixedShare),
        ((new policy (FixedShare.new f)).trace plan)[i]? = some entry →
        (∀ pause, entry.2.pause = some pause →
          pause.attempt = min (sinceReset
            (((new policy (FixedShare.new f)).trace plan).take i)) attemptLimit ∧
          pause.delay = fixedDelay policy f pause.attempt) ∧
        ∀ delay, entry.2.answer.delay? = some delay →
          ∃ pause, entry.2.pause = some pause ∧ pause.delay = delay) ∧
      (∀ (f g : Binary64) (n m : Nat), f ≤ g → n ≤ m →
        fixedDelay policy f n ≤ fixedDelay policy g m) ∧
      (∀ (f : Binary64) (n : Nat), f ≤ zero → fixedDelay policy f n = policy.cappedDelay n) ∧
      (∀ (f : Binary64) (n : Nat), one ≤ f → fixedDelay policy f n =
        (policy.cappedDelay n).saturatingAdd
          (.ofSeconds (policy.jitterRange (policy.cappedDelay n)))) ∧
      ∀ (f : Binary64) (n : Nat), one ≤ f → policy.cappedDelay n = policy.maxDelay →
        fixedDelay policy f n = policy.maxJitteredDelay := by
  have hp := Policy.check_eq_ok_iff.mp hcheck
  refine ⟨?_, ?_, ?_, ?_, ?_⟩
  · intro f plan i entry hentry
    constructor
    · intro pause hpause
      exact ⟨attempt_of_trace hentry hpause, delay_of_fixedShare hentry hpause⟩
    · intro delay hdelay
      exact pause_of_trace_delay? hentry hdelay
  · intro f g n m hfg hnm
    exact fixedDelay_mono hp hcap hrange hfg hnm
  · intro f n hf
    exact fixedDelay_of_le_zero hf n
  · intro f n hf
    exact fixedDelay_of_one_le hp hcap hrange hf n
  · intro f n hf hn
    rw [fixedDelay_of_one_le hp hcap hrange hf n, Policy.longestDelay, hn]
    rfl

theorem persistentBroker_sweep :
    Policy.persistentBroker.check = .ok () ∧ Policy.persistentBroker.maxDelay.secs < 2 ^ 23 ∧
      (Policy.persistentBroker.jitterRange Policy.persistentBroker.maxDelay).isFinite = true ∧
      (∃ entry pause,
        ((new .persistentBroker (FixedShare.new (.nearest 1 2))).trace [(⟨0⟩, .wait)])[0]? =
          some entry ∧ entry.2.pause = some pause ∧
        pause.delay = fixedDelay .persistentBroker (.nearest 1 2) 0 ∧
        entry.2.answer.delay? = some pause.delay) ∧
      fixedDelay .persistentBroker (.nearest 1 2) 3 ≤ fixedDelay .persistentBroker one 4 ∧
      fixedDelay .persistentBroker (.infinite true) 3 = .seconds 16 ∧
      fixedDelay .persistentBroker (.infinite false) 3 = .seconds 20 ∧
      fixedDelay .persistentBroker one 6 = .seconds 150 := by
  have hcheck : Policy.persistentBroker.check = .ok () := by decide +kernel
  have hcap : Policy.persistentBroker.maxDelay.secs < 2 ^ 23 := by decide +kernel
  have hrange :
      (Policy.persistentBroker.jitterRange Policy.persistentBroker.maxDelay).isFinite = true := by
    decide +kernel
  obtain ⟨hrun, hmono, hnone, hall, hlongest⟩ := share_sweep hcheck hcap hrange
  have hsmall := hmono (.nearest 1 2) one 3 4 (by decide +kernel) (by decide)
  have hramp : Policy.persistentBroker.cappedDelay 3 = .seconds 16 := by decide +kernel
  have hadded : (Policy.persistentBroker.cappedDelay 3).saturatingAdd (.ofSeconds
      (Policy.persistentBroker.jitterRange (Policy.persistentBroker.cappedDelay 3))) =
      .seconds 20 := by
    decide +kernel
  have hcapped : Policy.persistentBroker.cappedDelay 6 = Policy.persistentBroker.maxDelay := by
    decide +kernel
  have hmax : Policy.persistentBroker.maxJitteredDelay = .seconds 150 := by decide +kernel
  refine ⟨hcheck, hcap, hrange, ?_, hsmall,
    (hnone (.infinite true) 3 (by decide +kernel)).trans hramp,
    (hall (.infinite false) 3 (by decide +kernel)).trans hadded,
    (hlongest one 6 Binary64.one_le_one hcapped).trans hmax⟩
  obtain ⟨hcomputed, hgiven⟩ := hrun (.nearest 1 2) [(⟨0⟩, .wait)] 0 _ rfl
  obtain ⟨pause, hpause, hdelay⟩ := hgiven _ rfl
  obtain ⟨hattempt, hshare⟩ := hcomputed pause hpause
  refine ⟨_, pause, rfl, hpause, ?_, ?_⟩
  · rw [hshare, hattempt]
    rfl
  · rw [hdelay]
    rfl

end Pacer

end Reconnect
