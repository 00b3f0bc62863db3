/-
Reconnect.Pacer.Event — what a pacer reports to a log.

* `Event`: what `next_delay`, `wait_once` and `reset` report: a computed delay, the
  start of a wait, and a reset.
* `level`, `message`, `fields`: an event as a log shows it.
-/
import Reconnect.Duration.Text
import Reconnect.Pacer.Basic

namespace Reconnect

/-- Something that a pacer reports. -/
inductive Event where
  /-- A delay was computed (`next_delay`): the attempts before it, the delays with it, and
  its parts. -/
  | computed (attempt total : Nat) (capped jitter delay : Duration)
  /-- A wait has begun (`wait_once`): the attempts with it, and the delay. -/
  | waiting (attempt : Nat) (delay : Duration)
  /-- The attempts were counted from zero again (`reset`): the counts before. -/
  | reset (attempt total : Nat)
  deriving DecidableEq

namespace Event

/-- How much an event matters. -/
inductive Level where
  | debug
  | trace
  deriving DecidableEq

/-- The level as a log shows it. -/
def Level.name : Level → String
  | debug => "DEBUG"
  | trace => "TRACE"

/-- The value of a field: a count, or a text. -/
inductive Field where
  | count (n : Nat)
  | text (s : String)
  deriving DecidableEq

/-- How much the event matters. -/
def level : Event → Level
  | computed .. => .trace
  | waiting .. => .debug
  | reset .. => .debug

/-- The event in a few words. -/
def message : Event → String
  | computed .. => "backoff delay computed"
  | waiting .. => "backoff waiting"
  | reset .. => "backoff reset"

/-- The values that the event carries, by name. -/
def fields : Event → List (String × Field)
  | computed attempt total capped jitter delay =>
    [("attempt", .count attempt), ("total_attempts", .count total), ("capped", .text capped.text),
      ("jitter", .text jitter.text), ("delay", .text delay.text)]
  | waiting attempt delay => [("attempt", .count attempt), ("delay", .text delay.text)]
  | reset attempt total => [("attempt", .count attempt), ("total_attempts", .count total)]

end Event

/-- The report of a computed delay. -/
def Pause.event (pause : Pause) : Event :=
  .computed pause.attempt pause.total pause.capped pause.jitter pause.delay

end Reconnect
