/-
Reconnect.Proofs.Pacer.Log — the log of a pacer replays to its counts.

A log is read line by line: a line of level TRACE counts one delay, a reset starts the
attempts again, and all else counts nothing. What an operation reports is decided by the
delay that it computed (`step_events`), so reading its lines counts as it counts; and each
line carries the counts on its own side of the change.

* `Event.Line`: an event as a log shows it.
* `Replay`, `Replay.read`: the counts that a log is replayed to.
* `Logged`: the lines of one operation, from the counts replayed before it.
* `replay_log`: a replay gives the delays since the last reset and all delays.
* `log_replays`: every operation of every run is logged so, and replays to the state.
-/
import Reconnect.Proofs.Duration.Text
import Reconnect.Proofs.Pacer.Counts

namespace Reconnect

/-- An event as a log shows it. -/
structure Event.Line where
  level : String
  message : String
  fields : List (String × Event.Field)
  deriving DecidableEq

/-- The line of an event. -/
def Event.line (event : Event) : Event.Line where
  level := event.level.name
  message := event.message
  fields := event.fields

namespace Event.Line

/-- The line of a computed delay: the attempts before it, the delays with it, and the texts
of its parts. -/
def computed (attempt total : Nat) (capped jitter delay : String) : Line where
  level := "TRACE"
  message := "backoff delay computed"
  fields := [("attempt", .count attempt), ("total_attempts", .count total),
    ("capped", .text capped), ("jitter", .text jitter), ("delay", .text delay)]

/-- The line of a wait: the attempts with it, and the text of the delay. -/
def waiting (attempt : Nat) (delay : String) : Line where
  level := "DEBUG"
  message := "backoff waiting"
  fields := [("attempt", .count attempt), ("delay", .text delay)]

/-- The line of a reset: the counts before it. -/
def reset (attempt total : Nat) : Line where
  level := "DEBUG"
  message := "backoff reset"
  fields := [("attempt", .count attempt), ("total_attempts", .count total)]

end Event.Line

namespace Event

@[simp] theorem line_computed (attempt total : Nat) (capped jitter delay : Duration) :
    (computed attempt total capped jitter delay).line =
      .computed attempt total capped.text jitter.text delay.text := rfl
@[simp] theorem line_waiting (attempt : Nat) (delay : Duration) :
    (waiting attempt delay).line = .waiting attempt delay.text := rfl
@[simp] theorem line_reset (attempt total : Nat) :
    (reset attempt total).line = .reset attempt total := rfl

end Event

/-- The counts that a log is replayed to. -/
structure Replay where
  attempt : Nat
  total : Nat

namespace Replay

/-- One line more: a computed delay is counted, a reset starts the attempts again. -/
def read (counts : Replay) (line : Event.Line) : Replay :=
  if line.level = "TRACE" then ⟨counts.attempt + 1, counts.total + 1⟩
  else if line.message = "backoff reset" then ⟨0, counts.total⟩
  else counts

@[simp] theorem read_computed (counts : Replay) (attempt total : Nat)
    (capped jitter delay : String) :
    counts.read (.computed attempt total capped jitter delay) =
      ⟨counts.attempt + 1, counts.total + 1⟩ := by
  simp [read, Event.Line.computed]
@[simp] theorem read_waiting (counts : Replay) (attempt : Nat) (delay : String) :
    counts.read (.waiting attempt delay) = counts := by
  simp [read, Event.Line.waiting]
@[simp] theorem read_reset (counts : Replay) (attempt total : Nat) :
    counts.read (.reset attempt total) = ⟨0, counts.total⟩ := by
  simp [read, Event.Line.reset]

end Replay

/-- The counts at the end of a log. -/
def replay (lines : List Event.Line) : Replay := lines.foldl Replay.read ⟨0, 0⟩

namespace Pacer

variable {σ : Type}

/-- The log of the entries of a trace. -/
def log (entries : List (Operation × Step σ)) : List Event.Line :=
  entries.flatMap (·.2.events.map Event.line)

/-- The lines of one operation, where the lines before it replay to `counts`. A computed
delay has one line, which a wait is told right behind; the texts denote the capped delay of
the attempts, the jitter, and the delay that is the sum of the two up to the longest one.
A reset has one line, and no other operation has any. Counts are shown as far as counts go. -/
structure Logged (policy : Policy) (counts : Replay) (entry : Operation × Step σ) : Prop where
  computed (pause : Pause) : entry.2.pause = some pause →
    ∃ (capped jitter delay : String) (c j : Duration),
      entry.2.events.map Event.line =
        .computed (min counts.attempt attemptLimit) (min (counts.total + 1) totalLimit)
            capped jitter delay ::
          (if entry.1.isWait then
            [.waiting (min (counts.attempt + 1) attemptLimit) delay] else []) ∧
      Duration.ofText? capped = some c ∧ Duration.ofText? jitter = some j ∧
      Duration.ofText? delay = some pause.delay ∧
      c = policy.cappedDelay (min counts.attempt attemptLimit) ∧
      pause.delay.nanos = min (c.nanos + j.nanos) Duration.longest.nanos
  reset : entry.1 = .reset → entry.2.events.map Event.line =
    [.reset (min counts.attempt attemptLimit) (min counts.total totalLimit)]
  quiet : entry.2.pause = none → entry.1 ≠ .reset → entry.2.events = []

variable [Jitter σ]

/-! ## Reading -/

theorem read_step (counts : Replay) (now : Instant) (p : Pacer σ) (operation : Operation) :
    ((p.step now operation).events.map Event.line).foldl Replay.read counts =
      ⟨tally counts.attempt (operation, p.step now operation),
        counts.total + if (p.step now operation).pause.isSome then 1 else 0⟩ := by
  rw [step_events, tally]
  obtain ⟨hop, hpause, -⟩ | ⟨hop, hpause, -⟩ | ⟨hop, hpause, -⟩ := step_cases now p operation
  · rw [hpause, if_neg hop]
    cases hwait : operation.isWait <;> simp [Operation.reports, hwait, Pause.event]
  · rw [hpause, if_pos hop]
    simp [Operation.reports, hop]
  · rw [hpause, if_neg hop]
    simp [Operation.reports, hop]

theorem foldl_read_log (counts : Replay) (p : Pacer σ) (plan : List (Instant × Operation)) :
    (log (p.trace plan)).foldl Replay.read counts =
      ⟨(p.trace plan).foldl tally counts.attempt, counts.total + computed (p.trace plan)⟩ := by
  induction plan generalizing p counts with
  | nil => rfl
  | cons entry plan ih =>
    obtain ⟨now, operation⟩ := entry
    rw [trace_cons, log, List.flatMap_cons, List.foldl_append, read_step, ← log, ih,
      List.foldl_cons, computed, computed, List.countP_cons]
    simp only [Replay.mk.injEq, true_and]
    omega

/-- A replay gives the delays since the last reset and all delays. -/
theorem replay_log (p : Pacer σ) (plan : List (Instant × Operation)) :
    replay (log (p.trace plan)) = ⟨sinceReset (p.trace plan), computed (p.trace plan)⟩ := by
  rw [replay, foldl_read_log, sinceReset, Nat.zero_add]

/-! ## Writing -/

theorem logged_step {counts : Replay} {p : Pacer σ}
    (hattempt : p.attempt = min counts.attempt attemptLimit)
    (htotal : p.total = min counts.total totalLimit) (now : Instant) (operation : Operation) :
    Logged p.policy counts (operation, p.step now operation) where
  computed pause hpause := by
    have hafter := after_of_pause hpause
    obtain rfl := eq_next_of_pause hpause
    refine ⟨_, _, _, _, _, ?_, Duration.ofText?_text (p.next now).1.capped,
      Duration.ofText?_text (p.next now).1.jitter, Duration.ofText?_text _, ?_, rfl⟩
    · have hnext : min (p.attempt + 1) attemptLimit = min (counts.attempt + 1) attemptLimit := by
        omega
      have hwith : (p.next now).1.total = min (counts.total + 1) totalLimit := by
        show min (p.total + 1) totalLimit = _
        omega
      rw [step_events, hpause, Operation.reports, hafter, next_attempt, hnext, ← hattempt, ← hwith]
      cases hwait : operation.isWait <;> rfl
    · rw [next_capped, hattempt]
  reset hop := by
    obtain rfl : operation = .reset := hop
    rw [← hattempt, ← htotal]
    rfl
  quiet hpause hop := by
    rw [step_events, hpause, Operation.reports, if_neg hop]

/-- **The log replays to the state**: in every run, the lines before an operation and its own
lines replay to the counts before and after it, and its own lines carry these counts and the
exact parts of the delay that it computed. -/
theorem log_replays (policy : Policy) (source : σ) (plan : List (Instant × Operation)) {i : Nat}
    {entry : Operation × Step σ} (hentry : ((new policy source).trace plan)[i]? = some entry) :
    entry.2.pause.isSome = entry.1.computes entry.2.answer ∧
      Logged policy (replay (log (((new policy source).trace plan).take i))) entry ∧
      entry.2.after.attempt =
        min (replay (log (((new policy source).trace plan).take (i + 1)))).attempt attemptLimit ∧
      entry.2.after.total =
        min (replay (log (((new policy source).trace plan).take (i + 1)))).total totalLimit := by
  have before := counted_take policy source plan i
  have after := counted_take policy source plan (i + 1)
  rw [← after_of_trace hentry] at after
  rw [take_trace, replay_log, take_trace, replay_log, ← take_trace, ← take_trace]
  refine ⟨?_, ?_, after.attempt, after.total⟩
  · obtain ⟨now, operation, rfl⟩ := exists_step_of_trace hentry
    exact isSome_pause now _ operation
  · obtain ⟨now, operation, rfl⟩ := exists_step_of_trace hentry
    have hlogged : Logged _ ⟨_, _⟩ (_, _) :=
      logged_step before.attempt before.total now operation
    rwa [before.policy] at hlogged

/-- A delay and a success, a wait, a question, and a wait that is lost at once. -/
def audited : List (Instant × Operation) :=
  [(⟨0⟩, .next), (⟨1⟩, .reset), (⟨2⟩, .wait), (⟨3⟩, .remaining), (⟨4⟩, .race fun _ => false)]

theorem audited_log_replays :
    (∃ entry, ((new .boundedCollector FixedShare.none).trace audited)[1]? = some entry ∧
      entry.1 = .reset ∧ entry.2.events.map Event.line = [.reset 1 1]) ∧
    ∃ entry pause, ((new .boundedCollector FixedShare.none).trace audited)[2]? = some entry ∧
      entry.2.pause = some pause ∧ entry.2.after.attempt = 1 ∧ entry.2.after.total = 2 ∧
      ∃ capped jitter delay : String,
        entry.2.events.map Event.line =
          [.computed 0 2 capped jitter delay, .waiting 1 delay] ∧
        Duration.ofText? capped = some (Policy.boundedCollector.cappedDelay 0) ∧
        Duration.ofText? delay = some pause.delay := by
  constructor
  · obtain ⟨-, logged, -⟩ := log_replays .boundedCollector FixedShare.none audited (i := 1) rfl
    exact ⟨_, rfl, rfl, logged.reset rfl⟩
  · obtain ⟨-, logged, hattempt, htotal⟩ :=
      log_replays .boundedCollector FixedShare.none audited (i := 2) rfl
    obtain ⟨capped, jitter, delay, c, j, hlines, hcapped, -, hdelay, rfl, -⟩ :=
      logged.computed _ rfl
    exact ⟨_, _, rfl, rfl, hattempt, htotal, capped, jitter, delay, hlines, hcapped, hdelay⟩

end Pacer

end Reconnect
