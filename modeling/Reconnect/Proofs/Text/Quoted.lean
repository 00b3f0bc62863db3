/-
Reconnect.Proofs.Text.Quoted — quoted texts can be read back.

The form of a character is the character itself, a letter behind a backslash, or a number
in braces. The reader tells them apart at the first character, because neither a quote nor
a backslash stands for itself, and it leaves behind exactly what stood behind the form. So
a text is read character by character, whatever is in it.

* `decodeFrom_toDigits`: the number of a character, digit by digit.
* `decodeFrom_backslash`, `decodeFrom_opening`, `decodeFrom_closing`: the reader at an escape.
* `decodeFrom_encodeChar`: one character, in front of anything.
* `decode_encode`: a whole text; `encode_toList_injective` for strings.
-/
import Reconnect.Text.Quoted

namespace Reconnect

namespace Text

namespace Quoted

/-! ## Numbers -/

theorem hexValue?_digitChar {n : Nat} (h : n < 16) : hexValue? (Nat.digitChar n) = some n := by
  have hall : ∀ n < 16, hexValue? (Nat.digitChar n) = some n := by decide
  exact hall n h

/-- One digit shifts the value in front of it. -/
theorem decodeFrom_digitChar {n : Nat} (h : n < 16) (value : Nat) (s : List Char) :
    decodeFrom (.number value) (Nat.digitChar n :: s) =
      decodeFrom (.number (value * 16 + n)) s := by
  have hvalue := hexValue?_digitChar h
  have hclosing : Nat.digitChar n ≠ '\x7d' := by
    intro heq
    rw [heq] at hvalue
    exact absurd hvalue (by simp [hexValue?])
  rw [decodeFrom, if_neg hclosing, hvalue, Option.bind_some]

/-- The digits of a number are read as that number, from the first one on. -/
theorem decodeFrom_toDigits (n : Nat) (s : List Char) :
    decodeFrom (.number 0) (Nat.toDigits 16 n ++ s) = decodeFrom (.number n) s := by
  induction n using Nat.strongRecOn generalizing s with
  | ind n ih =>
    by_cases hsmall : n < 16
    · rw [Nat.toDigits_of_lt_base hsmall, List.singleton_append, decodeFrom_digitChar hsmall,
        Nat.zero_mul, Nat.zero_add]
    · have hlast : n % 16 < 16 := Nat.mod_lt n (by decide)
      rw [Nat.toDigits_of_base_le (by decide) (by omega), List.append_assoc, ih _ (by omega),
        List.singleton_append, decodeFrom_digitChar hlast, Nat.div_add_mod']

theorem ofNumber?_toNat (c : Char) : ofNumber? c.toNat = some c := by
  have hvalid : c.toNat.isValidChar := c.valid
  rw [ofNumber?, if_pos hvalid, Char.ofNat_toNat]

/-! ## Characters -/

/-- A letter behind a backslash is read as its character, and is not the sign of a number. -/
theorem ofLetter?_of_letter? {c letter : Char} (h : letter? c = some letter) :
    ofLetter? letter = some c ∧ letter ≠ 'u' := by
  unfold letter? at h
  split at h <;> simp only [Option.some.injEq, reduceCtorEq] at h <;> subst h <;> decide

/-- What stands for itself is neither a quote nor a backslash. -/
theorem ne_of_letter?_eq_none {c : Char} (h : letter? c = none) : c ≠ '"' ∧ c ≠ '\\' := by
  constructor <;> rintro rfl <;> cases h

/-- Behind a backslash stands the sign of a number or the letter of a character. -/
theorem decodeFrom_backslash (c : Char) (s : List Char) :
    decodeFrom .plain ('\\' :: c :: s) =
      if c = 'u' then decodeFrom .brace s
      else (ofLetter? c).bind fun d => (decodeFrom .plain s).map (d :: ·) := rfl

/-- A number begins at zero, behind its opening brace. -/
theorem decodeFrom_opening (s : List Char) :
    decodeFrom .plain ('\\' :: 'u' :: '\x7b' :: s) = decodeFrom (.number 0) s := rfl

/-- The closing brace turns the number into its character. -/
theorem decodeFrom_closing (value : Nat) (s : List Char) :
    decodeFrom (.number value) ('\x7d' :: s) =
      (ofNumber? value).bind fun d => (decodeFrom .plain s).map (d :: ·) := rfl

theorem decodeFrom_letter {c letter : Char} (h : letter? c = some letter) (rest : List Char) :
    decodeFrom .plain ('\\' :: letter :: rest) = (decodeFrom .plain rest).map (c :: ·) := by
  obtain ⟨hletter, hnumber⟩ := ofLetter?_of_letter? h
  rw [decodeFrom_backslash, if_neg hnumber, hletter, Option.bind_some]

theorem decodeFrom_numbered (c : Char) (rest : List Char) :
    decodeFrom .plain (numbered c ++ rest) = (decodeFrom .plain rest).map (c :: ·) := by
  rw [numbered, List.cons_append, List.cons_append, List.cons_append, List.append_assoc,
    List.singleton_append]
  rw [decodeFrom_opening, decodeFrom_toDigits, decodeFrom_closing, ofNumber?_toNat,
    Option.bind_some]

/-- The form of a character is read as that character, whatever follows. -/
theorem decodeFrom_encodeChar (c : Char) (rest : List Char) :
    decodeFrom .plain (encodeChar c ++ rest) = (decodeFrom .plain rest).map (c :: ·) := by
  unfold encodeChar
  cases hletter : letter? c with
  | some letter => exact decodeFrom_letter hletter rest
  | none =>
    obtain ⟨hquote, hbackslash⟩ := ne_of_letter?_eq_none hletter
    by_cases hnumbered : isNumbered c = true
    · simp only [hnumbered, if_true, decodeFrom_numbered]
    · simp only [hnumbered, if_false, List.singleton_append, Bool.false_eq_true]
      rw [decodeFrom, if_neg hquote, if_neg hbackslash]

/-! ## Texts -/

theorem decodeFrom_flatMap (s : List Char) :
    decodeFrom .plain (s.flatMap encodeChar ++ ['"']) = some s := by
  induction s with
  | nil => rfl
  | cons c s ih =>
    rw [List.flatMap_cons, List.append_assoc, decodeFrom_encodeChar, ih, Option.map_some]

/-- The quoted form of a text is read as that text. -/
theorem decode_encode (s : List Char) : decode (encode s) = some s := decodeFrom_flatMap s

end Quoted

/-- Strings with the same quoted form are the same. -/
theorem encode_toList_injective {s t : String}
    (h : Quoted.encode s.toList = Quoted.encode t.toList) : s = t := by
  have hread := Quoted.decode_encode s.toList
  rw [h, Quoted.decode_encode] at hread
  exact (String.toList_inj.mp (Option.some.inj hread)).symm

-- a text that looks like an escape of its own
example : quoted "\\u\x7b41\x7d\"" = "\"\\\\u\x7b41\x7d\\\"\"" := by decide +kernel

end Text

end Reconnect
