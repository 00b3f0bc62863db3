/-
Reconnect.Proofs.Fault.Wording — the texts of a fault lose nothing.

Both texts of a fault are fixed words, by cause, and behind them the values in their own
notation. The words of one cause never begin those of another, so they tell the causes
apart whatever stands behind them, and each notation denotes its value exactly.

* `Wording`: the fixed words of a text; `sentences`, `notes` are those of the two texts.
* `write`: a fault in some wording; `toList_text`, `toList_message`.
* `write_injective`: a wording that tells the causes apart loses nothing.
* `texts_eq_iff`: neither text does.
-/
import Reconnect.Fault
import Reconnect.Proofs.Binary64.Bits
import Reconnect.Proofs.Binary64.Text
import Reconnect.Proofs.Duration.Text
import Reconnect.Proofs.Text.Quoted

namespace Reconnect

namespace Fault

/-! ## Wordings -/

/-- What is at fault, without the values. -/
inductive Cause where
  | zeroBaseDelay
  | maxBelowBase
  | invalidMultiplier
  | invalidJitterFactor
  | unknownPreset
  deriving DecidableEq

/-- The cause of a fault. -/
def cause : Fault → Cause
  | zeroBaseDelay => .zeroBaseDelay
  | maxBelowBase _ _ => .maxBelowBase
  | invalidMultiplier _ => .invalidMultiplier
  | invalidJitterFactor _ => .invalidJitterFactor
  | unknownPreset _ => .unknownPreset

/-- The fixed words of a text: those in front of the values, by cause, and those between
two delays. -/
structure Wording where
  front : Cause → String
  between : String

namespace Wording

/-- The values of a fault, as they stand behind the words in front. -/
def values (w : Wording) : Fault → List Char
  | .zeroBaseDelay => []
  | .maxBelowBase base max => max.chars ++ (w.between.toList ++ base.chars)
  | .invalidMultiplier multiplier => multiplier.chars
  | .invalidJitterFactor factor => factor.chars
  | .unknownPreset name => Text.Quoted.encode name.toList

/-- A fault in a wording. -/
def write (w : Wording) (fault : Fault) : List Char :=
  (w.front fault.cause).toList ++ w.values fault

/-- A wording tells the causes apart: no front begins that of another cause, and the words
between two delays begin with a space. -/
structure Distinct (w : Wording) : Prop where
  front : ∀ c d : Cause, (w.front c).toList <+: (w.front d).toList → c = d
  between : w.between.toList.head? = some ' '

variable {w : Wording} {a b : Fault}

theorem cause_eq_of_write_eq (hw : w.Distinct) (h : w.write a = w.write b) :
    a.cause = b.cause := by
  have ha : (w.front a.cause).toList <+: w.write a := List.prefix_append _ _
  have hb : (w.front b.cause).toList <+: w.write a := h ▸ List.prefix_append _ _
  rcases List.prefix_or_prefix_of_prefix ha hb with hab | hba
  · exact hw.front _ _ hab
  · exact (hw.front _ _ hba).symm

/-- Faults of one cause with the same values behind the words are the same. -/
theorem eq_of_values_eq (hw : w.Distinct) (hcause : a.cause = b.cause)
    (h : w.values a = w.values b) : a = b := by
  cases a with
  | zeroBaseDelay =>
    cases b with
    | zeroBaseDelay => rfl
    | _ => cases hcause
  | maxBelowBase base max =>
    cases b with
    | maxBelowBase base' max' =>
      obtain ⟨rfl, rfl⟩ := Duration.chars_append_injective hw.between h
      rfl
    | _ => cases hcause
  | invalidMultiplier multiplier =>
    cases b with
    | invalidMultiplier multiplier' => exact congrArg _ (Binary64.chars_injective h)
    | _ => cases hcause
  | invalidJitterFactor factor =>
    cases b with
    | invalidJitterFactor factor' => exact congrArg _ (Binary64.chars_injective h)
    | _ => cases hcause
  | unknownPreset name =>
    cases b with
    | unknownPreset name' => exact congrArg _ (Text.encode_toList_injective h)
    | _ => cases hcause

/-- A wording that tells the causes apart loses nothing. -/
theorem write_injective (hw : w.Distinct) (h : w.write a = w.write b) : a = b := by
  have hcause := cause_eq_of_write_eq hw h
  apply eq_of_values_eq hw hcause
  rw [write, write, hcause] at h
  exact List.append_cancel_left h

end Wording

/-! ## The two texts -/

/-- The words of the text for people. -/
def sentences : Wording where
  front
    | .zeroBaseDelay => "base delay must be greater than zero"
    | .maxBelowBase => "max delay "
    | .invalidMultiplier => "multiplier must be a finite value >= 1.0, got "
    | .invalidJitterFactor => "jitter factor must be a finite value >= 0.0, got "
    | .unknownPreset => "unknown backoff preset "
  between := " is below base delay "

/-- The words of the text for logs. -/
def notes : Wording where
  front
    | .zeroBaseDelay => "base_delay=0s"
    | .maxBelowBase => "max_delay="
    | .invalidMultiplier => "multiplier="
    | .invalidJitterFactor => "jitter_factor="
    | .unknownPreset => "preset="
  between := " < base_delay="

/-- Words in front of a value, as characters. -/
theorem toList_append_ofList (words : String) (value : List Char) :
    (words ++ String.ofList value).toList = words.toList ++ value := by
  rw [String.toList_append, String.toList_ofList]

/-- Two delays behind words and with words between them, as characters. -/
theorem toList_delays (words between : String) (a b : Duration) :
    (words ++ a.text ++ between ++ b.text).toList =
      words.toList ++ (a.chars ++ (between.toList ++ b.chars)) := by
  simp only [Duration.text, String.toList_append, String.toList_ofList, List.append_assoc]

theorem toList_text (fault : Fault) : fault.text.toList = sentences.write fault := by
  cases fault with
  | zeroBaseDelay => exact (List.append_nil _).symm
  | maxBelowBase base max => exact toList_delays "max delay " " is below base delay " max base
  | invalidMultiplier multiplier =>
    exact toList_append_ofList "multiplier must be a finite value >= 1.0, got " multiplier.chars
  | invalidJitterFactor factor =>
    exact toList_append_ofList "jitter factor must be a finite value >= 0.0, got " factor.chars
  | unknownPreset name => exact toList_append_ofList "unknown backoff preset " _

theorem toList_message (fault : Fault) : fault.message.toList = notes.write fault := by
  cases fault with
  | zeroBaseDelay => exact (List.append_nil _).symm
  | maxBelowBase base max => exact toList_delays "max_delay=" " < base_delay=" max base
  | invalidMultiplier multiplier => exact toList_append_ofList "multiplier=" multiplier.chars
  | invalidJitterFactor factor => exact toList_append_ofList "jitter_factor=" factor.chars
  | unknownPreset name => exact toList_append_ofList "preset=" _

theorem sentences_distinct : sentences.Distinct where
  front c d := by cases c <;> cases d <;> decide
  between := rfl

theorem notes_distinct : notes.Distinct where
  front c d := by cases c <;> cases d <;> decide
  between := rfl

/-- **Nothing is lost** in the texts of a fault: two faults have the same text, for people
or for logs, only if they are of the same cause with the same values. A number is known
from its text down to its word, unless it is not-a-number. -/
theorem texts_eq_iff (a b : Fault) :
    (a.message = b.message ↔ a = b) ∧ (a.text = b.text ↔ a = b) ∧
      ∀ v w : UInt64, Binary64.ofBits v = Binary64.ofBits w ↔
        v = w ∨ (Binary64.ofBits v).isNaN = true ∧ (Binary64.ofBits w).isNaN = true := by
  refine ⟨⟨?_, congrArg _⟩, ⟨?_, congrArg _⟩, ?_⟩
  · intro h
    apply Wording.write_injective notes_distinct
    rw [← toList_message, ← toList_message, h]
  · intro h
    apply Wording.write_injective sentences_distinct
    rw [← toList_text, ← toList_text, h]
  · intro v w
    exact Binary64.ofBits_eq_ofBits_iff

end Fault

end Reconnect
