/-
Reconnect.Binary64.Bits — the interchange format: 64 bits for a number.

One sign bit, eleven bits of exponent and fifty-two of fraction. With exponent
field 0 the fraction is the magnitude in units; with a field `e` from 1 to 2046
it is `(2^52 + fraction) * 2^(e - 1)`; 2047 marks the infinities and
not-a-number.

* `ofBits`: every word is read.
* `toBits`: the word of a number; not-a-number is written as the quiet pattern.
-/
import Reconnect.Binary64.Basic

namespace Reconnect

namespace Binary64

theorem representable_of_le {units : Nat} (h : units ≤ 1 <<< 53) : Representable units :=
  representable_shiftLeft h 0

/-- The magnitude with exponent field zero. -/
def Magnitude.ofFraction (fraction : Fin (1 <<< 52)) : Magnitude where
  units := fraction
  representable := representable_of_le (by omega)
  lt_limit := lt_limit_of_lt_shiftLeft fraction.isLt (by decide)

/-- The magnitude with exponent field `shift + 1`. -/
def Magnitude.ofFields (fraction : Fin (1 <<< 52)) (shift : Fin 2046) : Magnitude where
  units := ((1 <<< 52) + fraction) <<< shift.val
  representable := representable_shiftLeft (by omega) _
  lt_limit := by
    have significand_lt : (1 <<< 52) + fraction.val < 1 <<< 53 := by omega
    refine lt_limit_of_lt_shiftLeft (k := 53 + shift.val) ?_ (by omega)
    rw [Nat.shiftLeft_add, Nat.shiftLeft_eq, Nat.shiftLeft_eq _ shift.val]
    exact Nat.mul_lt_mul_of_pos_right significand_lt (Nat.two_pow_pos _)

/-- The number that a word stands for. -/
def ofBits (word : UInt64) : Binary64 :=
  let negative := 1 <<< 63 ≤ word.toNat
  let field := (word.toNat >>> 52) % (1 <<< 11)
  let fraction : Fin (1 <<< 52) := ⟨word.toNat % (1 <<< 52), Nat.mod_lt _ (by decide)⟩
  if field = 0 then finite negative (.ofFraction fraction)
  else if h : field - 1 < 2046 then finite negative (.ofFields fraction ⟨field - 1, h⟩)
  else if fraction.val = 0 then infinite negative
  else nan

/-- The sign bit in place. -/
def signBit (negative : Bool) : Nat := if negative then 1 <<< 63 else 0

/-- The word that stands for a number. The gap between neighbours is `2^k`
units; counting the significand in gaps and adding `k * 2^52` fills the exponent
field, because a significand of 53 bits carries one into it. -/
def toBits : Binary64 → UInt64
  | nan => .ofNat ((2047 <<< 52) + (1 <<< 51))
  | infinite negative => .ofNat (signBit negative + (2047 <<< 52))
  | finite negative m =>
    .ofNat (signBit negative + (((m.units.log2 - 52) <<< 52) + m.units / spacing m.units))

end Binary64

end Reconnect
