/-
Reconnect.Proofs.Duration.Text — the text of a duration denotes it exactly.

A duration is written as a number and the symbol of a unit. No symbol begins with a
character of a number, so the two are told apart by a scan, and the number counts
nanoseconds in the unit's own places: nothing is lost in any unit.

* `ofChars?_chars`: the characters are read back; `chars_injective`.
* `ofText?_text`: so is the text.
* `chars_append_injective`: two durations behind each other, with words between them.
-/
import Reconnect.Duration.Text
import Reconnect.Proofs.Decimal

namespace Reconnect

namespace Duration

theorem isNumeral_of_mem_text (places n : Nat) :
    ∀ c ∈ Decimal.text places n, isNumeral c = true := by
  intro c hc
  rcases Decimal.isDigit_or_eq_of_mem_text hc with hdigit | rfl
  · simp [isNumeral, hdigit]
  · rfl

theorem TimeUnit.not_isNumeral_head?_symbol (unit : TimeUnit) :
    ∀ c ∈ unit.symbol.head?, isNumeral c = false := by
  intro c hc
  cases unit <;> obtain rfl := Option.some.inj hc <;> decide

theorem TimeUnit.ofSymbol?_symbol (unit : TimeUnit) : ofSymbol? unit.symbol = some unit := by
  cases unit <;> decide

theorem ofNanos?_nanos (d : Duration) : ofNanos? d.nanos = some d := dif_pos d.nanos_lt

theorem ofChars?_chars (d : Duration) : ofChars? d.chars = some d := by
  obtain ⟨hnumber, hsymbol⟩ := Decimal.scan_append
    (isNumeral_of_mem_text d.displayUnit.places d.nanos) d.displayUnit.not_isNumeral_head?_symbol
  rw [ofChars?, chars, hnumber, hsymbol, TimeUnit.ofSymbol?_symbol, Option.bind_eq_bind,
    Option.bind_some, Decimal.read?_text]
  exact d.ofNanos?_nanos

theorem chars_injective {a b : Duration} (h : a.chars = b.chars) : a = b := by
  have hread := ofChars?_chars a
  rw [h, ofChars?_chars] at hread
  exact (Option.some.inj hread).symm

/-- The text of a duration denotes that duration, to the nanosecond. -/
theorem ofText?_text (d : Duration) : ofText? d.text = some d := by
  rw [ofText?, text, String.toList_ofList, ofChars?_chars]

example : (saturating 1_001).text = "1.001µs" := by cbv

/-! ## Two durations in one text -/

theorem ne_space_of_mem_chars {d : Duration} : ∀ c ∈ d.chars, decide (c ≠ ' ') = true := by
  intro c hc
  rw [chars, List.mem_append] at hc
  rw [decide_eq_true_eq]
  rintro rfl
  rcases hc with hnumber | hsymbol
  · exact absurd (isNumeral_of_mem_text _ _ _ hnumber) (by decide)
  · cases hunit : d.displayUnit <;> rw [hunit] at hsymbol <;> exact absurd hsymbol (by decide)

/-- No duration has a space in it, so words that begin with one end the first of two. -/
theorem chars_append_injective {words : List Char} (hwords : words.head? = some ' ')
    {a b a' b' : Duration} (h : a.chars ++ (words ++ b.chars) = a'.chars ++ (words ++ b'.chars)) :
    a = a' ∧ b = b' := by
  have hback (d : Duration) : ∀ c ∈ (words ++ d.chars).head?, decide (c ≠ ' ') = false := by
    intro c hc
    rw [List.head?_append, hwords, Option.some_or, Option.mem_some_iff] at hc
    simp [← hc]
  obtain ⟨hfront, hrest⟩ := Decimal.scan_append a.ne_space_of_mem_chars (hback b)
  obtain ⟨hfront', hrest'⟩ := Decimal.scan_append a'.ne_space_of_mem_chars (hback b')
  rw [← h] at hfront' hrest'
  rw [hfront] at hfront'
  rw [hrest] at hrest'
  exact ⟨chars_injective hfront', chars_injective (List.append_cancel_left hrest')⟩

end Duration

end Reconnect
