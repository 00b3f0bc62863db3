/-
Reconnect.Decimal — decimal fractions in positional notation.

A fraction is a natural number of units of 10^-places. It is written as its
whole part, and a point and the digits behind it only where the fraction is not
whole; the digits stop at the last one that is not zero. Nothing has an exponent.

* `text`: the fraction in positional notation.
* `read?`: the fraction that a text in positional notation denotes.
-/

namespace Reconnect

namespace Decimal

/-- The digits of `n` units of 10^-places behind the point, for `n` below one,
without zeros at the end. -/
def fractionDigits : (places : Nat) → (n : Nat) → List Char
  | 0, _ => []
  | places + 1, n =>
    if n = 0 then []
    else Nat.digitChar (n / Nat.pow 10 places) :: fractionDigits places (n % Nat.pow 10 places)

/-- What stands behind the whole part: nothing, or a point and digits. -/
def pointed : List Char → List Char
  | [] => []
  | digits => '.' :: digits

/-- The fraction of `n` units of 10^-places in positional notation. -/
def text (places n : Nat) : List Char :=
  Nat.toDigits 10 (n / Nat.pow 10 places) ++ pointed (fractionDigits places (n % Nat.pow 10 places))

/-! ## Reading -/

/-- The value of digits behind the point, in units of 10^-places; none where
there are more digits than places or something else than a digit. -/
def readFraction? : (places : Nat) → List Char → Option Nat
  | _, [] => some 0
  | 0, _ :: _ => none
  | places + 1, c :: digits =>
    if c.isDigit then
      (readFraction? places digits).map ((c.toNat - '0'.toNat) * Nat.pow 10 places + ·)
    else none

/-- The number of units of 10^-places that a text in positional notation
denotes: digits, or digits, a point and digits. -/
def read? (places : Nat) (s : List Char) : Option Nat :=
  let whole := s.takeWhile Char.isDigit
  let value := Nat.ofDigitChars 10 whole 0 * Nat.pow 10 places
  match s.dropWhile Char.isDigit with
  | [] => if whole = [] then none else some value
  | c :: digits =>
    if whole = [] ∨ c ≠ '.' ∨ digits = [] then none
    else (readFraction? places digits).map (value + ·)

end Decimal

end Reconnect
