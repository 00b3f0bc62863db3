/-
Reconnect.Pacer.Run — the operations on a pacer, and runs of them.

A wait, `wait_once`, computes its delay when it is started, and sleeps after that: a
wait that loses against another timer has counted its attempt, and one that is
dropped before it is started has done nothing. How a race ends is not for the pacer
to say, so the operation brings that along.

* `Operation`: what can be done with a pacer.
* `Step`: what one operation answers, computes, reports and leaves.
* `step`: one operation; `run`: one after another.
-/
import Reconnect.Pacer.Event

namespace Reconnect

/-- What can be done with a pacer. -/
inductive Operation where
  /-- The next delay (`next_delay`). -/
  | next
  /-- The next delay, if the budget allows one (`next` of the iterator). -/
  | iterate
  /-- The next delay, slept through (`wait_once`). -/
  | wait
  /-- A wait against something that starts with it, such as the timer of a shutdown: `wins`
  says for each delay whether a sleep that long ends first, and a wait that does not is
  dropped. -/
  | race (wins : Duration → Bool)
  /-- A wait that is dropped before it is started. -/
  | waitUnstarted
  /-- A success (`reset`). -/
  | reset
  /-- A question about the budget (`should_retry`). -/
  | shouldRetry
  /-- A question about the budget (`remaining_retries`). -/
  | remaining
  /-- A question about the tuning (`policy`). -/
  | policy
  /-- A question about the counts (`state`). -/
  | state

/-- What an operation answers. -/
inductive Answer where
  | delay (delay : Duration)
  | item (delay : Option Duration)
  /-- The wait ended second. -/
  | lost
  | done
  | allowed (allowed : Bool)
  | remaining (retries : Option Nat)
  | policy (policy : Policy)
  | state (attempt total : Nat) (lastAttempt : Option Instant)
  deriving DecidableEq

/-- One operation's answer, the delay that it computed, its reports and the
pacer that it leaves. -/
structure Step (σ : Type) where
  answer : Answer
  pause : Option Pause
  events : List Event
  after : Pacer σ

namespace Pacer

variable {σ : Type}

/-- An operation that computes nothing and changes nothing. -/
def look (p : Pacer σ) (answer : Answer) : Step σ where
  answer := answer
  pause := none
  events := []
  after := p

variable [Jitter σ]

/-- A started wait (`wait_once`): the answer depends on the delay alone. -/
def waitStep (now : Instant) (p : Pacer σ) (answer : Duration → Answer) : Step σ :=
  let (pause, after) := p.next now
  { answer := answer pause.delay
    pause := some pause
    events := [pause.event, .waiting after.attempt pause.delay]
    after }

/-- One operation. -/
def step (now : Instant) (p : Pacer σ) : Operation → Step σ
  | .next =>
    let (pause, after) := p.next now
    { answer := .delay pause.delay, pause := some pause, events := [pause.event], after }
  | .iterate =>
    let (pause?, after) := p.iterate now
    { answer := .item (pause?.map (·.delay))
      pause := pause?
      events := (pause?.map (·.event)).toList
      after }
  | .wait => p.waitStep now .delay
  | .race wins => p.waitStep now fun delay => if wins delay then .delay delay else .lost
  | .waitUnstarted => p.look .done
  | .reset =>
    { answer := .done, pause := none, events := [.reset p.attempt p.total], after := p.reset }
  | .shouldRetry => p.look (.allowed p.shouldRetry)
  | .remaining => p.look (.remaining p.remaining)
  | .policy => p.look (.policy p.policy)
  | .state => p.look (.state p.attempt p.total p.lastAttempt)

/-- Operations one after another, each at its time. -/
def run (p : Pacer σ) : List (Instant × Operation) → List (Step σ)
  | [] => []
  | (now, operation) :: rest =>
    let step := p.step now operation
    step :: run step.after rest

/-- The pacer that a run leaves. -/
def final (p : Pacer σ) (plan : List (Instant × Operation)) : Pacer σ :=
  plan.foldl (fun p (now, operation) => (p.step now operation).after) p

end Pacer

end Reconnect
