/-
Reconnect.Binary64.Text — binary64 numbers as text, the way `Display` writes them.

A finite number is written with the fewest digits that read back to it, always
in positional notation, a whole number without a point, and a minus sign where
the sign bit is set, also on zero. The other numbers are words.

A magnitude is a decimal fraction with at most 1074 places, because 2^-1074 is
5^1074 units of 10^-1074. Its shortest decimal is searched on the grids of
10^place units, from the coarsest down: on each grid only the two neighbours of
the exact value can read back to it unless a coarser one did, and at place 0 the
exact value is on the grid, so the search always ends.

* `Decimal.fives`: one binary unit, in decimal ones.
* `Decimal.readUnits`: the magnitude that a decimal rounds to.
* `Decimal.closest?`: the neighbour on one grid that reads back.
* `Decimal.shortest`: the coarsest decimal that reads back, the nearest of those.
* `text`: the number as text.
* `ofChars?`: the number that such characters denote.
-/
import Reconnect.Binary64.Basic
import Reconnect.Decimal

namespace Reconnect

/-! ## The fewest digits -/

namespace Decimal

open Binary64 (unitPlaces roundUnits)

/-- One unit of 2^-1074, in units of 10^-1074. -/
@[irreducible] def fives : Nat := Nat.pow 5 unitPlaces

theorem fives_eq : fives = Nat.pow 5 unitPlaces := by rw [fives]

/-- The magnitude that `n` units of 10^-1074 are rounded to when they are read. -/
def readUnits (n : Nat) : Nat := roundUnits n fives

/-- The neighbour of `exact` on the grid of multiples of `step` that reads back
to `units`; of two the nearer one, and the upper one on a tie. -/
def closest? (units exact step : Nat) : Option Nat :=
  let below := exact / step * step
  let above := below + step
  match decide (readUnits below = units), decide (readUnits above = units) with
  | true, true => some (if exact - below < above - exact then below else above)
  | true, false => some below
  | false, true => some above
  | false, false => none

/-- The search for a neighbour that reads back, from the grid of 10^place down. -/
def search (units exact : Nat) : (place : Nat) → Nat
  | 0 => exact
  | place + 1 => (closest? units exact (Nat.pow 10 (place + 1))).getD (search units exact place)

/-- The shortest decimal, in units of 10^-1074, that reads back to `units`. -/
def shortest (units : Nat) : Nat :=
  let exact := units * fives
  search units exact (Nat.toDigits 10 exact).length

end Decimal

/-! ## Texts -/

namespace Binary64

/-- A minus sign where there is one. -/
def signText (negative : Bool) : List Char := if negative then ['-'] else []

/-- The characters of a number. -/
def chars : Binary64 → List Char
  | nan => ['N', 'a', 'N']
  | infinite negative => signText negative ++ ['i', 'n', 'f']
  | finite negative m =>
    signText negative ++ Decimal.text unitPlaces (Decimal.shortest m.units)

/-- The number as text (`Display`). -/
def text (x : Binary64) : String := String.ofList x.chars

/-! ## Reading -/

/-- The number that a text without a sign denotes, given the sign. -/
def ofUnsigned? (negative : Bool) (s : List Char) : Option Binary64 :=
  if s = ['i', 'n', 'f'] then some (infinite negative)
  else (Decimal.read? unitPlaces s).map (round negative · Decimal.fives)

/-- The number that a text denotes, rounded to the nearest. -/
def ofChars? : List Char → Option Binary64
  | '-' :: s => ofUnsigned? true s
  | s => if s = ['N', 'a', 'N'] then some nan else ofUnsigned? false s

end Binary64

end Reconnect
