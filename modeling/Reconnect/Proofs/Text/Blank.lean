/-
Reconnect.Proofs.Text.Blank — what is left of a text without the blanks at its ends.

A text is blanks, a text whose ends are no blanks, and blanks again, and what stands between
is determined: `trim` computes it. Each end is dealt with on its own, the last one as the
first one of the reversed text; taking blanks from the end leaves the front as it was, since
what remains is a front part of the text.

* `NoBlankEnds`: neither the first nor the last character is a blank.
* `exists_trimStart`, `trimStart_append`: the blanks in front; `trimEnd` likewise.
* `trim_eq_iff`: trimming in full.
-/
import Mathlib.Data.List.DropRight
import Reconnect.Text.CharClass

namespace Reconnect

namespace Text

/-- All characters are blanks. -/
def AllBlank (s : List Char) : Prop := ∀ c ∈ s, isBlank c = true

/-- The first character, if there is one, is not a blank. -/
def NoBlankFirst (s : List Char) : Prop := ∀ c ∈ s.head?, isBlank c = false

/-- Neither the first nor the last character is a blank. -/
def NoBlankEnds (s : List Char) : Prop := NoBlankFirst s ∧ NoBlankFirst s.reverse

/-- The printed characters of ASCII, from the exclamation mark to the tilde, are no blanks. -/
theorem not_isBlank_of_printed {c : Char} (hlow : 33 ≤ c.toNat) (hhigh : c.toNat ≤ 126) :
    isBlank c = false := by
  simp only [isBlank, inRanges, whiteSpace, List.any_cons, List.any_nil, Bool.or_false,
    Bool.or_eq_false_iff, Bool.and_eq_false_iff, decide_eq_false_iff_not]
  omega

theorem AllBlank.reverse {s : List Char} (h : AllBlank s) : AllBlank s.reverse :=
  fun c hc => h c (List.mem_reverse.mp hc)

theorem noBlankFirst_nil : NoBlankFirst [] := by
  intro c hc
  cases hc

theorem noBlankFirst_append {s : List Char} (h : NoBlankFirst s) (hs : s ≠ []) (t : List Char) :
    NoBlankFirst (s ++ t) := by
  intro c hc
  rw [List.head?_append_of_ne_nil s hs] at hc
  exact h c hc

/-- The front part of a text that does not start with a blank does not either. -/
theorem noBlankFirst_of_append {s t : List Char} (h : NoBlankFirst (s ++ t)) : NoBlankFirst s := by
  cases s with
  | nil => exact noBlankFirst_nil
  | cons c s => exact h

/-! ## In front -/

theorem exists_trimStart (s : List Char) : ∃ front, s = front ++ trimStart s ∧ AllBlank front :=
  ⟨s.takeWhile isBlank, List.takeWhile_append_dropWhile.symm, fun _ hc => List.mem_takeWhile_imp hc⟩

theorem noBlankFirst_trimStart (s : List Char) : NoBlankFirst (trimStart s) := by
  intro c hc
  have hfirst := List.head?_dropWhile_not isBlank s
  rwa [show (s.dropWhile isBlank).head? = some c from hc] at hfirst

theorem trimStart_of_noBlankFirst {s : List Char} (h : NoBlankFirst s) : trimStart s = s := by
  cases s with
  | nil => rfl
  | cons c s => exact List.dropWhile_cons_of_neg (by simp [h c rfl])

/-- Blanks in front do not count. -/
theorem trimStart_append {front : List Char} (h : AllBlank front) (s : List Char) :
    trimStart (front ++ s) = trimStart s := List.dropWhile_append_of_pos h

/-! ## At the end -/

theorem exists_trimEnd (s : List Char) : ∃ back, s = trimEnd s ++ back ∧ AllBlank back := by
  obtain ⟨front, hfront, hblank⟩ := exists_trimStart s.reverse
  refine ⟨front.reverse, ?_, hblank.reverse⟩
  rw [trimEnd, ← List.reverse_append, ← hfront, List.reverse_reverse]

theorem noBlankFirst_reverse_trimEnd (s : List Char) : NoBlankFirst (trimEnd s).reverse := by
  rw [trimEnd, List.reverse_reverse]
  exact noBlankFirst_trimStart s.reverse

theorem trimEnd_of_noBlankFirst {s : List Char} (h : NoBlankFirst s.reverse) : trimEnd s = s := by
  rw [trimEnd, trimStart_of_noBlankFirst h, List.reverse_reverse]

/-- Blanks at the end do not count. -/
theorem trimEnd_append {back : List Char} (h : AllBlank back) (s : List Char) :
    trimEnd (s ++ back) = trimEnd s := by
  rw [trimEnd, List.reverse_append, trimStart_append h.reverse, ← trimEnd]

/-! ## At both ends -/

theorem noBlankEnds_trim (s : List Char) : NoBlankEnds (trim s) := by
  obtain ⟨back, hback, -⟩ := exists_trimEnd (trimStart s)
  have hfirst := noBlankFirst_trimStart s
  rw [hback] at hfirst
  exact ⟨noBlankFirst_of_append hfirst, noBlankFirst_reverse_trimEnd _⟩

theorem trim_append_append {front word back : List Char} (hfront : AllBlank front)
    (hword : NoBlankEnds word) (hback : AllBlank back) : trim (front ++ word ++ back) = word := by
  rw [List.append_assoc, trim, trimStart_append hfront]
  by_cases hnil : word = []
  · -- blanks alone leave nothing
    subst hnil
    have hnothing : trimStart back = [] := List.dropWhile_eq_nil_iff.mpr hback
    rw [List.nil_append, hnothing]
    rfl
  · rw [trimStart_of_noBlankFirst (noBlankFirst_append hword.1 hnil back), trimEnd_append hback,
      trimEnd_of_noBlankFirst hword.2]

/-- A trimmed text is what stands between blanks and has none at its own ends. -/
theorem trim_eq_iff {s word : List Char} :
    trim s = word ↔
      NoBlankEnds word ∧
        ∃ front back, s = front ++ word ++ back ∧ AllBlank front ∧ AllBlank back := by
  constructor
  · rintro rfl
    obtain ⟨front, hstart, hfront⟩ := exists_trimStart s
    obtain ⟨back, hend, hback⟩ := exists_trimEnd (trimStart s)
    refine ⟨noBlankEnds_trim s, front, back, ?_, hfront, hback⟩
    rw [List.append_assoc, trim, ← hend, ← hstart]
  · rintro ⟨hword, front, back, rfl, hfront, hback⟩
    exact trim_append_append hfront hword hback

end Text

end Reconnect
