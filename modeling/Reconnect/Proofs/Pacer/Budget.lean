/-
Reconnect.Proofs.Pacer.Budget — how far the retry budget goes.

With a budget the iterator is `next` while attempts are left, and does nothing at
all once none are, however the pacer came there: delays can be computed past the
budget, so none may have been left for long. One attempt less is left after every
delay (`remaining_next`), which is what the inductions over the iterator's loop
are about; only a reset brings attempts back.

* `each`: one operation at one time after another.
* `run_iterate`: the loop is the delays that are left, and then nothing.
* `EndsAt`: the same as a property of a pacer, and what the loop leaves.
* `budget`: what the budget does in every reachable state, and after it is used up.
-/
import Reconnect.Proofs.Pacer.Counts

namespace Reconnect

variable {σ : Type}

/-- A step of `next`, answered as the iterator answers it. -/
def Step.asItem (step : Step σ) : Step σ := { step with answer := .item step.answer.delay? }

namespace Pacer

/-- One operation at one time after another. -/
def each (operation : Operation) (times : List Instant) : List (Instant × Operation) :=
  times.map (·, operation)

/-! ## What is left -/

theorem remaining_of_maxRetries {p : Pacer σ} {retries : UInt32}
    (h : p.policy.maxRetries = some retries) :
    p.remaining = some (retries.toNat - p.attempt) := by
  simp [remaining, h]

theorem remaining_of_unlimited {p : Pacer σ} (h : p.policy.maxRetries = none) :
    p.remaining = none := by
  simp [remaining, h]

/-- The budget allows an attempt exactly when one is left. -/
theorem shouldRetry_iff {p : Pacer σ} {left : Nat} (h : p.remaining = some left) :
    p.shouldRetry = true ↔ 0 < left := by
  cases hmax : p.policy.maxRetries with
  | none => simp [remaining, hmax] at h
  | some retries =>
    simp only [remaining, hmax, Option.map_some, Option.some.injEq] at h
    simp only [shouldRetry, hmax, decide_eq_true_eq]
    omega

theorem shouldRetry_of_unlimited {p : Pacer σ} (h : p.remaining = none) :
    p.shouldRetry = true := by
  cases hmax : p.policy.maxRetries with
  | none => simp [shouldRetry, hmax]
  | some retries => simp [remaining, hmax] at h

theorem toNat_le_attemptLimit (retries : UInt32) : retries.toNat ≤ attemptLimit :=
  Nat.le_sub_one_of_lt retries.toNat_lt

@[simp] theorem look_after (p : Pacer σ) (answer : Answer) : (p.look answer).after = p := rfl

variable [Jitter σ]

/-- Every delay leaves one attempt less, or none as before. Attempts do not saturate
while any is left. -/
theorem remaining_next {p : Pacer σ} {left : Nat} (h : p.remaining = some left)
    (now : Instant) : (p.next now).2.remaining = some (left - 1) := by
  cases hmax : p.policy.maxRetries with
  | none => simp [remaining, hmax] at h
  | some retries =>
    simp only [remaining, hmax, Option.map_some, Option.some.injEq] at h
    simp only [remaining, next_policy, hmax, next_attempt, Option.map_some, Option.some.injEq]
    -- a count below the budget is below the greatest count, so it does not saturate
    have hlimit := toNat_le_attemptLimit retries
    omega

/-! ## One item -/

theorem iterate_of_shouldRetry {p : Pacer σ} (h : p.shouldRetry = true) (now : Instant) :
    p.iterate now = (some (p.next now).1, (p.next now).2) := by
  simp [iterate, h]

theorem iterate_of_remaining_succ {p : Pacer σ} {left : Nat} (h : p.remaining = some (left + 1))
    (now : Instant) : p.iterate now = (some (p.next now).1, (p.next now).2) :=
  iterate_of_shouldRetry ((shouldRetry_iff h).mpr (Nat.succ_pos left)) now

theorem iterate_of_remaining_zero {p : Pacer σ} (h : p.remaining = some 0) (now : Instant) :
    p.iterate now = (none, p) := by
  simp [iterate, shouldRetry_iff h]

theorem step_iterate_of_remaining_succ {p : Pacer σ} {left : Nat}
    (h : p.remaining = some (left + 1)) (now : Instant) :
    p.step now .iterate = (p.step now .next).asItem := by
  simp [step, iterate_of_remaining_succ h, Step.asItem, Answer.delay?]

theorem step_iterate_of_remaining_zero {p : Pacer σ} (h : p.remaining = some 0)
    (now : Instant) : p.step now .iterate = p.look (.item none) := by
  simp [step, iterate_of_remaining_zero h, look]

/-! ## Delays in a row -/

theorem each_cons (operation : Operation) (now : Instant) (times : List Instant) :
    each operation (now :: times) = (now, operation) :: each operation times := rfl

theorem final_each_next_cons (p : Pacer σ) (now : Instant) (times : List Instant) :
    p.final (each .next (now :: times)) = (p.next now).2.final (each .next times) := rfl

theorem remaining_final_next {p : Pacer σ} {left : Nat} (h : p.remaining = some left)
    (times : List Instant) :
    (p.final (each .next times)).remaining = some (left - times.length) := by
  induction times generalizing p left with
  | nil => exact h
  | cons now times ih =>
    rw [final_each_next_cons, ih (remaining_next h now), List.length_cons]
    congr 1
    omega

theorem attempt_final_next {p : Pacer σ} (h : p.attempt ≤ attemptLimit)
    (times : List Instant) :
    (p.final (each .next times)).attempt = min (p.attempt + times.length) attemptLimit := by
  induction times generalizing p with
  | nil => exact (Nat.min_eq_left h).symm
  | cons now times ih =>
    rw [final_each_next_cons, ih (Nat.min_le_right _ _), next_attempt, List.length_cons]
    omega

theorem total_final_next {p : Pacer σ} (h : p.total ≤ totalLimit) (times : List Instant) :
    (p.final (each .next times)).total = min (p.total + times.length) totalLimit := by
  induction times generalizing p with
  | nil => exact (Nat.min_eq_left h).symm
  | cons now times ih =>
    rw [final_each_next_cons, ih (Nat.min_le_right _ _), next_total, List.length_cons]
    omega

/-! ## The iterator's loop -/

theorem final_iterate {p : Pacer σ} {left : Nat} (h : p.remaining = some left)
    (times : List Instant) :
    p.final (each .iterate times) = p.final (each .next (times.take left)) := by
  induction times generalizing p left with
  | nil => rw [List.take_nil]; rfl
  | cons now times ih =>
    rw [each_cons, final_cons]
    cases left with
    | zero =>
      rw [step_iterate_of_remaining_zero h, look_after, ih h, List.take_zero, List.take_zero]
    | succ left =>
      rw [step_iterate_of_remaining_succ h, List.take_succ_cons, final_each_next_cons]
      exact ih (remaining_next h now)

/-- Asked at one time after another, the iterator gives the delays that are left, and
from there on it answers that there is none and leaves the pacer alone. -/
theorem run_iterate {p : Pacer σ} {left : Nat} (h : p.remaining = some left)
    (times : List Instant) :
    p.run (each .iterate times) =
      (p.run (each .next (times.take left))).map Step.asItem ++
        List.replicate (times.length - left)
          ((p.final (each .next (times.take left))).look (.item none)) := by
  induction times generalizing p left with
  | nil => simp [each, run]
  | cons now times ih =>
    rw [each_cons, run]
    cases left with
    | zero =>
      -- nothing is left: this answer and all further ones are one look at one pacer
      have hrest := ih h
      rw [List.take_zero] at hrest ⊢
      rw [step_iterate_of_remaining_zero h, look_after, hrest]
      rfl
    | succ left =>
      have hrest := ih (remaining_next h now)
      rw [step_iterate_of_remaining_succ h, List.take_succ_cons, final_each_next_cons,
        each_cons, run, List.map_cons, List.length_cons, Nat.add_sub_add_right]
      exact congrArg _ hrest

theorem remaining_final_iterate {p : Pacer σ} {left : Nat} (h : p.remaining = some left)
    {times : List Instant} (htimes : left ≤ times.length) :
    (p.final (each .iterate times)).remaining = some 0 := by
  rw [final_iterate h, remaining_final_next h, List.length_take, Nat.min_eq_left htimes,
    Nat.sub_self]

/-! ## Draining -/

theorem repeatOnto_eq (now : Instant) (earlier : List Pause) (count : Nat) (p : Pacer σ) :
    p.repeatOnto now earlier count =
      ((p.repeatOnto now [] count).1 ++ earlier, (p.repeatOnto now [] count).2) := by
  induction count generalizing p earlier with
  | zero => rfl
  | succ count ih =>
    simp only [repeatOnto]
    rw [ih ((p.next now).1 :: earlier), ih [(p.next now).1]]
    simp

theorem repeatNext_zero (now : Instant) (p : Pacer σ) : p.repeatNext now 0 = ([], p) := rfl

theorem repeatNext_succ (now : Instant) (count : Nat) (p : Pacer σ) :
    p.repeatNext now (count + 1) =
      ((p.next now).1 :: ((p.next now).2.repeatNext now count).1,
        ((p.next now).2.repeatNext now count).2) := by
  simp only [repeatNext, repeatOnto]
  rw [repeatOnto_eq]
  simp

/-- Draining gives the next delays, as many as the limit and the budget allow. -/
theorem drain_eq {p : Pacer σ} {left : Nat} (h : p.remaining = some left) (now : Instant)
    (limit : Nat) : p.drain now limit = p.repeatNext now (min limit left) := by
  induction limit generalizing p left with
  | zero => simp [drain, repeatNext_zero]
  | succ limit ih =>
    cases left with
    | zero => simp [drain, iterate_of_remaining_zero h, repeatNext_zero]
    | succ left =>
      have hrest := ih (remaining_next h now)
      rw [Nat.add_sub_cancel] at hrest
      rw [Nat.succ_min_succ, repeatNext_succ, ← hrest]
      simp only [drain, iterate_of_remaining_succ h]

/-! ## After the last attempt -/

/-- Without a reset no attempts come back. -/
theorem remaining_final_zero {p : Pacer σ} (h : p.remaining = some 0)
    {later : List (Instant × Operation)} (hlater : ∀ entry ∈ later, entry.2 ≠ .reset) :
    (p.final later).remaining = some 0 := by
  induction later generalizing p with
  | nil => exact h
  | cons entry later ih =>
    obtain ⟨now, operation⟩ := entry
    obtain ⟨hop, hrest⟩ := List.forall_mem_cons.mp hlater
    rw [final_cons]
    apply ih ?_ hrest
    obtain ⟨-, -, hafter⟩ | ⟨hreset, -, -⟩ | ⟨-, -, hafter⟩ := step_cases now p operation
    · rw [hafter]
      exact remaining_next h now
    · exact absurd hreset hop
    · rwa [hafter]

/-- Asked again and again, the iterator gives the next delays until `retries` attempts
are counted, and nothing from there on. -/
structure EndsAt (p : Pacer σ) (retries : Nat) : Prop where
  /-- The delays of `next`, and after them answers that there is none, without any
  effect. -/
  run (times : List Instant) :
    p.run (each .iterate times) =
      (p.run (each .next (times.take (retries - p.attempt)))).map Step.asItem ++
        List.replicate (times.length - (retries - p.attempt))
          ((p.final (each .next (times.take (retries - p.attempt)))).look (.item none))
  /-- The delays in a list, where a limit may come first. -/
  drain (now : Instant) (limit : Nat) :
    p.drain now limit = p.repeatNext now (min limit (retries - p.attempt))
  final (times : List Instant) :
    p.final (each .iterate times) = p.final (each .next (times.take (retries - p.attempt)))
  attempt (times : List Instant) : retries - p.attempt ≤ times.length →
    (p.final (each .iterate times)).attempt = max p.attempt retries
  total (times : List Instant) : retries - p.attempt ≤ times.length →
    (p.final (each .iterate times)).total = min (p.total + (retries - p.attempt)) totalLimit

theorem endsAt_of_maxRetries {p : Pacer σ} {retries : UInt32}
    (h : p.policy.maxRetries = some retries) (hattempt : p.attempt ≤ attemptLimit)
    (htotal : p.total ≤ totalLimit) : p.EndsAt retries.toNat := by
  have hleft := remaining_of_maxRetries h
  have hlimit := toNat_le_attemptLimit retries
  refine ⟨run_iterate hleft, drain_eq hleft, final_iterate hleft, ?_, ?_⟩
  · intro times htimes
    rw [final_iterate hleft, attempt_final_next hattempt, List.length_take]
    omega
  · intro times htimes
    rw [final_iterate hleft, total_final_next htotal, List.length_take,
      Nat.min_eq_left htimes]

/-- **The budget**: in every reachable state the attempts left are those that the budget
is above the count, and the iterator goes on for just as long; it does nothing from
there on until a reset, which brings the whole budget back. Without a budget it never
ends. -/
theorem budget {policy : Policy} {source : σ} {earlier : List (Instant × Operation)}
    {p : Pacer σ} (hp : (new policy source).final earlier = p) :
    (∀ retries : UInt32, policy.maxRetries = some retries →
      p.remaining = some (retries.toNat - p.attempt) ∧
        (p.shouldRetry = true ↔ 0 < retries.toNat - p.attempt) ∧
        p.EndsAt retries.toNat ∧
        ∀ (times : List Instant) (later : List (Instant × Operation)) (q : Pacer σ),
          retries.toNat - p.attempt ≤ times.length → (∀ entry ∈ later, entry.2 ≠ .reset) →
          p.final (each .iterate times ++ later) = q →
          (∀ now, q.step now .iterate = q.look (.item none)) ∧ q.reset.EndsAt retries.toNat) ∧
      (policy.maxRetries = none →
        p.remaining = none ∧ p.shouldRetry = true ∧
          ∀ now, (p.step now .iterate).answer = .item (some (p.next now).1.delay)) := by
  have counted := counted_final policy source earlier
  rw [hp] at counted
  constructor
  · intro retries hmax
    rw [← counted.policy] at hmax
    have hleft := remaining_of_maxRetries hmax
    have hends := endsAt_of_maxRetries hmax counted.attempt_le counted.total_le
    refine ⟨hleft, shouldRetry_iff hleft, hends, ?_⟩
    intro times later q htimes hlater hq
    have hclosed : q.remaining = some 0 := by
      rw [← hq, final_append]
      exact remaining_final_zero (remaining_final_iterate hleft htimes) hlater
    -- `q` is reachable as well, so its counts are in range
    have counted' := counted_final policy source (earlier ++ (each .iterate times ++ later))
    rw [final_append, hp, hq] at counted'
    rw [counted.policy, ← counted'.policy] at hmax
    refine ⟨step_iterate_of_remaining_zero hclosed, ?_⟩
    exact endsAt_of_maxRetries hmax (Nat.zero_le _) counted'.total_le
  · intro hmax
    rw [← counted.policy] at hmax
    have hyes := shouldRetry_of_unlimited (remaining_of_unlimited hmax)
    refine ⟨remaining_of_unlimited hmax, hyes, ?_⟩
    intro now
    simp [step, iterate_of_shouldRetry hyes]

/-- Past a budget of three, a success, and one lost wait. -/
def revived : List (Instant × Operation) :=
  [(⟨0⟩, .next), (⟨1⟩, .iterate), (⟨2⟩, .wait), (⟨3⟩, .next), (⟨4⟩, .reset),
    (⟨5⟩, .race fun _ => false)]

theorem revived_budget :
    (∃ p q : Pacer FixedShare, (new .boundedCollector FixedShare.none).final revived = p ∧
      p.remaining = some 2 ∧ p.shouldRetry = true ∧
      p.drain ⟨6⟩ 10 = p.repeatNext ⟨6⟩ 2 ∧
      (p.final (each .iterate [⟨6⟩, ⟨7⟩, ⟨8⟩])).attempt = 3 ∧
      (p.final (each .iterate [⟨6⟩, ⟨7⟩, ⟨8⟩])).total = 7 ∧
      p.final (each .iterate [⟨6⟩, ⟨7⟩, ⟨8⟩] ++ [(⟨9⟩, .next)]) = q ∧ q.attempt = 4 ∧
      q.step ⟨10⟩ .iterate = q.look (.item none) ∧ q.reset.EndsAt 3) ∧
    ∃ p : Pacer FixedShare, (new .standard FixedShare.none).final revived = p ∧
      p.remaining = none ∧
      (p.step ⟨6⟩ .iterate).answer = .item (some (p.next ⟨6⟩).1.delay) := by
  constructor
  · obtain ⟨hbounded, -⟩ := @budget _ _ .boundedCollector FixedShare.none revived _ rfl
    obtain ⟨hleft, hretry, hends, hlater⟩ := hbounded 3 rfl
    obtain ⟨hclosed, hback⟩ := hlater [⟨6⟩, ⟨7⟩, ⟨8⟩] [(⟨9⟩, .next)] _ (by decide) (by decide) rfl
    refine ⟨_, _, rfl, hleft, hretry.mpr (by decide), hends.drain ⟨6⟩ 10, ?_, ?_, rfl, ?_,
      hclosed ⟨10⟩, hback⟩
    · exact hends.attempt [⟨6⟩, ⟨7⟩, ⟨8⟩] (by decide)
    · exact hends.total [⟨6⟩, ⟨7⟩, ⟨8⟩] (by decide)
    · rfl
  · obtain ⟨-, hunlimited⟩ := @budget _ _ .standard FixedShare.none revived _ rfl
    obtain ⟨hleft, -, hitem⟩ := hunlimited rfl
    exact ⟨_, rfl, hleft, hitem ⟨6⟩⟩

end Pacer

end Reconnect
