/-
Reconnect.Proofs.Decimal — positional notation can be read back.

A fraction is written as digits, and a point and digits only where it is not whole.
The digits in front are all up to the first character that is no digit, so the text
falls apart again where its parts were joined.

* `scan_append`: a scan stops where the first part ends.
* `readFraction?_fractionDigits`: the digits behind the point, by induction on the places.
* `read?_text`: the whole text.
-/
import Mathlib.Data.Nat.Basic
import Reconnect.Decimal

namespace Reconnect

namespace Decimal

/-- A scan takes all of a front that passes and nothing of a back whose first character
does not. -/
theorem scan_append {p : Char → Bool} {front back : List Char} (hfront : ∀ c ∈ front, p c = true)
    (hback : ∀ c ∈ back.head?, p c = false) :
    (front ++ back).takeWhile p = front ∧ (front ++ back).dropWhile p = back := by
  rw [List.takeWhile_append_of_pos hfront, List.dropWhile_append_of_pos hfront]
  cases back with
  | nil => simp
  | cons c rest =>
    have hc : p c = false := hback c rfl
    simp [hc]

/-! ## Digits behind the point -/

theorem pow_pos (places : Nat) : 0 < Nat.pow 10 places := Nat.pow_pos (by decide)

/-- The first digit of a fraction below one. -/
theorem firstDigit_lt {places n : Nat} (h : n < Nat.pow 10 (places + 1)) :
    n / Nat.pow 10 places < 10 :=
  Nat.div_lt_of_lt_mul h

theorem isDigit_of_mem_fractionDigits {places n : Nat} (h : n < Nat.pow 10 places) :
    ∀ c ∈ fractionDigits places n, c.isDigit = true := by
  induction places generalizing n with
  | zero => simp [fractionDigits]
  | succ places ih =>
    unfold fractionDigits
    split
    · simp
    · intro c hc
      rcases List.mem_cons.mp hc with rfl | hrest
      · simpa using firstDigit_lt h
      · exact ih (Nat.mod_lt _ (pow_pos places)) c hrest

theorem readFraction?_fractionDigits {places n : Nat} (h : n < Nat.pow 10 places) :
    readFraction? places (fractionDigits places n) = some n := by
  induction places generalizing n with
  | zero =>
    obtain rfl : n = 0 := Nat.lt_one_iff.mp h
    rfl
  | succ places ih =>
    unfold fractionDigits
    split
    · next hzero =>
      rw [hzero]
      rfl
    · have hfirst := firstDigit_lt h
      have hdigit : (Nat.digitChar (n / Nat.pow 10 places)).isDigit = true := by
        simpa using hfirst
      have hvalue : (Nat.digitChar (n / Nat.pow 10 places)).toNat - '0'.toNat =
          n / Nat.pow 10 places := Nat.toNat_digitChar_sub_48_of_lt_ten hfirst
      rw [readFraction?, if_pos hdigit, hvalue, ih (Nat.mod_lt _ (pow_pos places)),
        Option.map_some, Nat.div_add_mod']

/-- There are no digits behind the point only where the fraction is whole. -/
theorem eq_zero_of_fractionDigits {places n : Nat} (h : n < Nat.pow 10 places)
    (hnil : fractionDigits places n = []) : n = 0 := by
  have hread := readFraction?_fractionDigits h
  rw [hnil] at hread
  cases places <;> exact (Option.some.inj hread).symm

/-! ## The whole text -/

theorem isDigit_of_mem_whole {n : Nat} : ∀ c ∈ Nat.toDigits 10 n, c.isDigit = true :=
  fun _ => Nat.isDigit_of_mem_toDigits (by decide) (by decide)

theorem not_isDigit_head?_pointed (digits : List Char) :
    ∀ c ∈ (pointed digits).head?, c.isDigit = false := by
  intro c hc
  cases digits with
  | nil => cases hc
  | cons d digits =>
    obtain rfl : '.' = c := Option.some.inj hc
    rfl

/-- Positional notation begins with a digit. -/
theorem exists_digit_of_text (places n : Nat) :
    ∃ c s, text places n = c :: s ∧ c.isDigit = true := by
  rw [text]
  cases hwhole : Nat.toDigits 10 (n / Nat.pow 10 places) with
  | nil => exact absurd hwhole Nat.toDigits_ne_nil
  | cons c digits =>
    have hmem : c ∈ Nat.toDigits 10 (n / Nat.pow 10 places) := by
      rw [hwhole]
      exact List.mem_cons_self
    exact ⟨c, _, rfl, isDigit_of_mem_whole c hmem⟩

/-- Positional notation has digits and a point in it, and nothing else. -/
theorem isDigit_or_eq_of_mem_text {places n : Nat} {c : Char} (h : c ∈ text places n) :
    c.isDigit = true ∨ c = '.' := by
  have hdigits := isDigit_of_mem_fractionDigits (Nat.mod_lt n (pow_pos places))
  rw [text, List.mem_append] at h
  rcases h with hwhole | hpointed
  · exact .inl (isDigit_of_mem_whole c hwhole)
  · generalize fractionDigits places (n % Nat.pow 10 places) = digits at hdigits hpointed
    cases digits with
    | nil => cases hpointed
    | cons d digits =>
      rcases List.mem_cons.mp hpointed with rfl | hdigit
      · exact .inr rfl
      · exact .inl (hdigits c hdigit)

/-- Positional notation is read back. -/
theorem read?_text (places n : Nat) : read? places (text places n) = some n := by
  have hrest : n % Nat.pow 10 places < Nat.pow 10 places := Nat.mod_lt n (pow_pos places)
  have hsum := Nat.div_add_mod' n (Nat.pow 10 places)
  rw [text, read?]
  generalize hdigits : fractionDigits places (n % Nat.pow 10 places) = digits
  obtain ⟨hfront, hback⟩ := scan_append isDigit_of_mem_whole (not_isDigit_head?_pointed digits)
  rw [hfront, hback, Nat.ofDigitChars_ten_toDigits]
  cases digits with
  | nil =>
    rw [eq_zero_of_fractionDigits hrest hdigits, Nat.add_zero] at hsum
    simp only [pointed, Nat.toDigits_ne_nil, if_false, hsum]
  | cons d digits =>
    have hread := readFraction?_fractionDigits hrest
    rw [hdigits] at hread
    simpa [pointed, Nat.toDigits_ne_nil, hread] using hsum

end Decimal

end Reconnect
