/-
Reconnect.Duration.Text — durations as text, the way `Debug` writes them.

A duration is written exactly, in the largest of the units s, ms, µs and ns in
which its whole part is not zero, and in ns where it is no time at all; digits
behind the point stop at the last one that is not zero.

* `TimeUnit`: the four units.
* `text`: the duration as text.
* `ofText?`: the duration that a text denotes, in any of the units.
-/
import Reconnect.Decimal
import Reconnect.Duration.Basic

namespace Reconnect

namespace Duration

/-- The units that a duration is written in. -/
inductive TimeUnit where
  | second
  | millisecond
  | microsecond
  | nanosecond
  deriving DecidableEq

/-- A unit is ten to this power of nanoseconds. -/
def TimeUnit.places : TimeUnit → Nat
  | second => 9
  | millisecond => 6
  | microsecond => 3
  | nanosecond => 0

/-- The unit as it is written behind a number. -/
def TimeUnit.symbol : TimeUnit → List Char
  | second => ['s']
  | millisecond => ['m', 's']
  | microsecond => ['µ', 's']
  | nanosecond => ['n', 's']

/-- The largest unit in which the whole part is not zero, and nanoseconds for no time. -/
def displayUnit (d : Duration) : TimeUnit :=
  if 1_000_000_000 ≤ d.nanos then .second
  else if 1_000_000 ≤ d.nanos then .millisecond
  else if 1_000 ≤ d.nanos then .microsecond
  else .nanosecond

/-- The characters of a duration. -/
def chars (d : Duration) : List Char :=
  Decimal.text d.displayUnit.places d.nanos ++ d.displayUnit.symbol

/-- The duration as text (`Debug`). -/
def text (d : Duration) : String := String.ofList d.chars

/-! ## Reading -/

/-- The unit with a symbol. -/
def TimeUnit.ofSymbol? (s : List Char) : Option TimeUnit :=
  [second, millisecond, microsecond, nanosecond].find? (·.symbol = s)

/-- Whether a character belongs to the number in front of the unit. -/
def isNumeral (c : Char) : Bool := c.isDigit || c = '.'

/-- The duration of a count of nanoseconds; none where there are too many. -/
def ofNanos? (nanos : Nat) : Option Duration :=
  if h : nanos < (1 <<< 64) * 1_000_000_000 then some ⟨nanos, h⟩ else none

/-- The duration that a text denotes: a number and the symbol of a unit. -/
def ofChars? (s : List Char) : Option Duration := do
  let unit ← TimeUnit.ofSymbol? (s.dropWhile isNumeral)
  let nanos ← Decimal.read? unit.places (s.takeWhile isNumeral)
  ofNanos? nanos

/-- The duration that a text denotes: a number and the symbol of a unit. -/
def ofText? (s : String) : Option Duration := ofChars? s.toList

end Duration

end Reconnect
