/-
Reconnect.Proofs.Binary64.Text — the text of a number denotes it.

The search for the shortest decimal takes a neighbour on a grid only after it has been
read back, and at the end of its way down it takes the exact value. One binary unit is a
whole number of decimal ones, so the exact value is a decimal too and rounds to itself.

A minus sign stands in front of a number exactly where its sign bit is set, and the rest is
a word or begins with a digit. So the reader sees which of the kinds it has before it,
and the digits of a finite number are read as its magnitude.

* `Decimal.readUnits_closest?`: what a grid offers reads back.
* `Decimal.readUnits_search`: so does what the search ends with.
* `Decimal.readUnits_shortest`: the shortest decimal of a magnitude.
* `ofUnsigned?_text`: a magnitude in positional notation.
* `ofChars?_chars`: the characters are read back, the signs of zeros and infinities too;
  `chars_injective`.
-/
import Reconnect.Binary64.Text
import Reconnect.Proofs.Binary64.Order
import Reconnect.Proofs.Decimal

namespace Reconnect

/-! ## The fewest digits -/

namespace Decimal

open Binary64 (Representable)

theorem fives_pos : 0 < fives := by
  rw [fives_eq]
  exact Nat.pow_pos (by decide)

theorem readUnits_mul_fives {units : Nat} (h : Representable units) :
    readUnits (units * fives) = units :=
  Binary64.roundUnits_of_representable fives_pos h

theorem readUnits_closest? {units exact step n : Nat} (h : closest? units exact step = some n) :
    readUnits n = units := by
  unfold closest? at h
  by_cases below : readUnits (exact / step * step) = units <;>
    by_cases above : readUnits (exact / step * step + step) = units <;>
    simp only [below, above, decide_true, decide_false, Option.some.injEq, reduceCtorEq] at h
  · -- both neighbours read back, so it does not matter which of them is nearer
    rw [← h]
    split
    · exact below
    · exact above
  · rwa [← h]
  · rwa [← h]

theorem readUnits_search {units exact : Nat} (h : readUnits exact = units) (place : Nat) :
    readUnits (search units exact place) = units := by
  induction place with
  | zero => exact h
  | succ place ih =>
    rw [search]
    cases hclosest : closest? units exact (Nat.pow 10 (place + 1)) with
    | some n => exact readUnits_closest? hclosest
    | none => exact ih

/-- The shortest decimal of a magnitude is read as that magnitude. -/
theorem readUnits_shortest {units : Nat} (h : Representable units) :
    readUnits (shortest units) = units :=
  readUnits_search (readUnits_mul_fives h) _

end Decimal

/-! ## Texts -/

namespace Binary64

theorem ofUnsigned?_text (negative : Bool) (m : Magnitude) :
    ofUnsigned? negative (Decimal.text unitPlaces (Decimal.shortest m.units)) =
      some (finite negative m) := by
  have hread : roundUnits (Decimal.shortest m.units) Decimal.fives = m.units :=
    Decimal.readUnits_shortest m.representable
  obtain ⟨c, s, htext, hdigit⟩ :=
    Decimal.exists_digit_of_text unitPlaces (Decimal.shortest m.units)
  have hword : Decimal.text unitPlaces (Decimal.shortest m.units) ≠ ['i', 'n', 'f'] := by
    intro heq
    rw [heq] at htext
    obtain ⟨rfl, -⟩ := List.cons.inj htext
    exact absurd hdigit (by decide)
  rw [ofUnsigned?, if_neg hword, Decimal.read?_text, Option.map_some, round_eq_finite hread]

/-- A text that begins with a digit has no sign and is no word. -/
theorem ofChars?_of_isDigit {s : List Char} {c : Char} {rest : List Char} (hs : s = c :: rest)
    (hdigit : c.isDigit = true) : ofChars? s = ofUnsigned? false s := by
  subst hs
  have hminus : c ≠ '-' := by
    rintro rfl
    exact absurd hdigit (by decide)
  have hword : c :: rest ≠ ['N', 'a', 'N'] := by
    intro heq
    obtain ⟨rfl, -⟩ := List.cons.inj heq
    exact absurd hdigit (by decide)
  unfold ofChars?
  split
  · next heq =>
    obtain ⟨rfl, -⟩ := List.cons.inj heq
    exact absurd rfl hminus
  · rw [if_neg hword]

theorem ofChars?_minus (s : List Char) : ofChars? ('-' :: s) = ofUnsigned? true s := rfl

theorem chars_finite (negative : Bool) (m : Magnitude) :
    (finite negative m).chars =
      signText negative ++ Decimal.text unitPlaces (Decimal.shortest m.units) := rfl

theorem ofChars?_chars (x : Binary64) : ofChars? x.chars = some x := by
  cases x with
  | nan => rfl
  | infinite negative => cases negative <;> rfl
  | finite negative m =>
    rw [chars_finite]
    cases negative with
    | true =>
      rw [signText, if_pos rfl, List.singleton_append, ofChars?_minus, ofUnsigned?_text]
    | false =>
      obtain ⟨c, s, htext, hdigit⟩ :=
        Decimal.exists_digit_of_text unitPlaces (Decimal.shortest m.units)
      rw [signText, if_neg Bool.false_ne_true, List.nil_append, ofChars?_of_isDigit htext hdigit,
        ofUnsigned?_text]

/-- Numbers with the same characters are the same. -/
theorem chars_injective {x y : Binary64} (h : x.chars = y.chars) : x = y := by
  have hread := ofChars?_chars x
  rw [h, ofChars?_chars] at hread
  exact (Option.some.inj hread).symm

example : (nearest 1 10).text = "0.1" := by decide +kernel

end Binary64

end Reconnect
