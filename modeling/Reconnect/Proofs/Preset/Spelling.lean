/-
Reconnect.Proofs.Preset.Spelling — the texts that name a preset.

The texts are given by a grammar, character by character and without trimming or folding:
blanks, characters that stand one for one for those of a label, and blanks. Reading goes the
other way: it trims, folds every character and looks the result up among the labels. The two
meet because a character folds to one of a label exactly if it stands for it, and because no
character that stands for one is a blank, so that trimming stops where the label begins and
ends.

* `StandsFor`, `Spells`: the grammar.
* `foldChar_eq_iff`: folding one character; `label_eq_normalize_iff`: a whole text.
* `read_grammar`: reading accepts the texts of the grammar and no others, each as one preset,
  and a fault has the text as it was.
-/
import Mathlib.Data.List.Forall2
import Reconnect.Preset
import Reconnect.Proofs.Text.Blank

namespace Reconnect

namespace Preset

open Text

/-! ## The grammar -/

/-- A written character stands for one of a label: a small letter in either case for itself,
and a hyphen or an underscore for a hyphen. -/
inductive StandsFor : (written char : Char) → Prop where
  | small {c : Char} (h : c.isLower = true) : StandsFor c c
  | capital {c : Char} (h : c.isLower = true) : StandsFor c.toUpper c
  | hyphen : StandsFor '-' '-'
  | underscore : StandsFor '_' '-'

/-- A text spells a preset: between blanks, each character stands for the one of the label at
its place, and there are as many as in the label. -/
def Spells (s : String) (preset : Preset) : Prop :=
  ∃ front word back : List Char, s.toList = front ++ word ++ back ∧ AllBlank front ∧
    AllBlank back ∧ List.Forall₂ StandsFor word preset.label.toList

/-! ## Letters by their numbers -/

theorem between_iff {first last c : Char} :
    first.val ≤ c.val ∧ c.val ≤ last.val ↔ first.toNat ≤ c.toNat ∧ c.toNat ≤ last.toNat := by
  rw [UInt32.le_iff_toNat_le, UInt32.le_iff_toNat_le]
  rfl

theorem isLower_iff {c : Char} : c.isLower = true ↔ 97 ≤ c.toNat ∧ c.toNat ≤ 122 := by
  show (decide ('a'.val ≤ c.val) && decide (c.val ≤ 'z'.val)) = true ↔ _
  rw [Bool.and_eq_true, decide_eq_true_iff, decide_eq_true_iff]
  exact between_iff

theorem toNat_toUpper {c : Char} (h : c.isLower = true) : c.toUpper.toNat + 32 = c.toNat := by
  have hnumber := isLower_iff.mp h
  have hrange : 'a'.val ≤ c.val ∧ c.val ≤ 'z'.val := between_iff.mpr hnumber
  have hsum : c.toUpper.toNat = (c.val + ('A'.val - 'a'.val)).toNat := by
    unfold Char.toUpper
    rw [dif_pos hrange]
    rfl
  rw [hsum, UInt32.toNat_add, show ('A'.val - 'a'.val).toNat = 2 ^ 32 - 32 by decide,
    Char.toNat_val]
  omega

theorem toNat_toLower (c : Char) :
    c.toLower.toNat = if 65 ≤ c.toNat ∧ c.toNat ≤ 90 then c.toNat + 32 else c.toNat := by
  by_cases h : 65 ≤ c.toNat ∧ c.toNat ≤ 90
  · have hrange : 'A'.val ≤ c.val ∧ c.val ≤ 'Z'.val := between_iff.mpr h
    have hsum : c.toLower.toNat = (c.val + ('a'.val - 'A'.val)).toNat := by
      unfold Char.toLower
      rw [dif_pos hrange]
      rfl
    rw [if_pos h, hsum, UInt32.toNat_add, show ('a'.val - 'A'.val).toNat = 32 by decide,
      Char.toNat_val]
    omega
  · have hrange : ¬ ('A'.val ≤ c.val ∧ c.val ≤ 'Z'.val) := fun hrange => h (between_iff.mp hrange)
    have hsame : c.toLower = c := dif_neg hrange
    rw [hsame, if_neg h]

/-! ## One character -/

theorem foldChar_eq_hyphen_iff {c : Char} : foldChar c = '-' ↔ c = '-' ∨ c = '_' := by
  have hhyphen : '-'.toNat = 45 := rfl
  unfold foldChar
  split
  · simp_all
  · rename_i hunderscore
    rw [or_iff_left hunderscore, ← Char.toNat_inj, ← Char.toNat_inj, toNat_toLower, hhyphen]
    split <;> omega

/-- To a small letter fold the letter and its capital, and nothing else: the folding leaves
all letters beyond the twenty-six as they are. -/
theorem foldChar_eq_iff {c letter : Char} (h : letter.isLower = true) :
    foldChar c = letter ↔ c = letter ∨ c = letter.toUpper := by
  have hhyphen : '-'.toNat = 45 := rfl
  have hunderscore : '_'.toNat = 95 := rfl
  have hletter := isLower_iff.mp h
  have hcapital := toNat_toUpper h
  unfold foldChar
  split
  · rename_i heq
    rw [heq, ← Char.toNat_inj, ← Char.toNat_inj, ← Char.toNat_inj]
    omega
  · rw [← Char.toNat_inj, ← Char.toNat_inj, ← Char.toNat_inj, toNat_toLower]
    split <;> omega

/-- Whether a label may have this character. -/
def isLabelChar (c : Char) : Bool := c.isLower || c = '-'

theorem isLabelChar_iff {c : Char} : isLabelChar c = true ↔ c.isLower = true ∨ c = '-' := by
  simp [isLabelChar]

theorem isLabelChar_of_mem_label {preset : Preset} :
    ∀ c ∈ preset.label.toList, isLabelChar c = true := by
  have hall : preset.label.toList.all isLabelChar = true := by
    cases preset <;> decide
  exact List.all_eq_true.mp hall

theorem standsFor_iff {written c : Char} (h : isLabelChar c = true) :
    StandsFor written c ↔ foldChar written = c := by
  rcases isLabelChar_iff.mp h with hsmall | rfl
  · rw [foldChar_eq_iff hsmall]
    constructor
    · intro hstands
      cases hstands with
      | small h => exact .inl rfl
      | capital h => exact .inr rfl
      | hyphen => cases hsmall
      | underscore => cases hsmall
    · rintro (rfl | rfl)
      · exact .small hsmall
      · exact .capital hsmall
  · rw [foldChar_eq_hyphen_iff]
    constructor
    · intro hstands
      cases hstands with
      | small h => cases h
      | capital h => cases h
      | hyphen => exact .inl rfl
      | underscore => exact .inr rfl
    · rintro (rfl | rfl)
      · exact .hyphen
      · exact .underscore

theorem standsFor_self {c : Char} (h : isLabelChar c = true) : StandsFor c c := by
  rcases isLabelChar_iff.mp h with hsmall | rfl
  · exact .small hsmall
  · exact .hyphen

/-- What stands for a character of a label is not a blank. -/
theorem StandsFor.not_isBlank {written c : Char} (h : StandsFor written c) :
    isBlank written = false := by
  cases h with
  | small h =>
    have hletter := isLower_iff.mp h
    exact not_isBlank_of_printed (by omega) (by omega)
  | capital h =>
    have hletter := isLower_iff.mp h
    have hcapital := toNat_toUpper h
    exact not_isBlank_of_printed (by omega) (by omega)
  | hyphen => decide
  | underscore => decide

/-! ## Whole texts -/

theorem forall₂_standsFor_iff {word label : List Char} (h : ∀ c ∈ label, isLabelChar c = true) :
    List.Forall₂ StandsFor word label ↔ word.map foldChar = label := by
  induction word generalizing label with
  | nil => cases label <;> simp
  | cons written word ih =>
    cases label with
    | nil => simp
    | cons c label =>
      have hfirst : StandsFor written c ↔ foldChar written = c :=
        standsFor_iff (h c List.mem_cons_self)
      have hrest : List.Forall₂ StandsFor word label ↔ word.map foldChar = label :=
        ih fun c hc => h c (List.mem_cons_of_mem _ hc)
      rw [List.forall₂_cons, hfirst, hrest, List.map_cons, List.cons.injEq]

theorem noBlankFirst_of_forall₂ {word label : List Char} (h : List.Forall₂ StandsFor word label) :
    NoBlankFirst word := by
  cases h with
  | nil => exact noBlankFirst_nil
  | cons hfirst _ =>
    intro c hc
    obtain rfl := Option.some.inj hc
    exact hfirst.not_isBlank

/-- Trimming stops where the characters for the label begin and end. -/
theorem noBlankEnds_of_forall₂ {word label : List Char} (h : List.Forall₂ StandsFor word label) :
    NoBlankEnds word :=
  ⟨noBlankFirst_of_forall₂ h, noBlankFirst_of_forall₂ (List.rel_reverse h)⟩

/-- The folded text is a label exactly if the text spells its preset. -/
theorem label_eq_normalize_iff {s : String} {preset : Preset} :
    preset.label.toList = normalize s ↔ Spells s preset := by
  have hfold (word : List Char) : List.Forall₂ StandsFor word preset.label.toList ↔
      word.map foldChar = preset.label.toList :=
    forall₂_standsFor_iff isLabelChar_of_mem_label
  constructor
  · -- what trimming leaves is the word between the blanks
    intro h
    obtain ⟨-, front, back, hs, hfront, hback⟩ := trim_eq_iff.mp (Eq.refl (trim s.toList))
    exact ⟨front, trim s.toList, back, hs, hfront, hback, (hfold _).mpr h.symm⟩
  · rintro ⟨front, word, back, hs, hfront, hback, hword⟩
    have htrim : trim s.toList = word :=
      trim_eq_iff.mpr ⟨noBlankEnds_of_forall₂ hword, front, back, hs, hfront, hback⟩
    rw [normalize, htrim]
    exact ((hfold word).mp hword).symm

/-! ## Reading -/

theorem mem_all (preset : Preset) : preset ∈ all := by
  cases preset <;> decide

theorem labels_distinct :
    persistentBroker.label.toList ≠ boundedCollector.label.toList := by decide

theorem label_injective {p q : Preset} (h : p.label.toList = q.label.toList) : p = q := by
  cases p with
  | persistentBroker =>
    cases q with
    | persistentBroker => rfl
    | boundedCollector => exact absurd h labels_distinct
  | boundedCollector =>
    cases q with
    | persistentBroker => exact absurd h.symm labels_distinct
    | boundedCollector => rfl

theorem Spells.unique {s : String} {p q : Preset} (hp : Spells s p) (hq : Spells s q) : p = q :=
  label_injective ((label_eq_normalize_iff.mpr hp).trans (label_eq_normalize_iff.mpr hq).symm)

theorem spells_of_ofLabel? {s : String} {preset : Preset} (h : ofLabel? s = some preset) :
    Spells s preset := by
  have hfound := List.find?_some h
  exact label_eq_normalize_iff.mp (of_decide_eq_true hfound)

theorem ofLabel?_eq_some_iff {s : String} {preset : Preset} :
    ofLabel? s = some preset ↔ Spells s preset := by
  constructor
  · exact spells_of_ofLabel?
  · intro h
    cases hfound : ofLabel? s with
    | none =>
      have hnone := List.find?_eq_none.mp hfound preset (mem_all preset)
      exact absurd (decide_eq_true (label_eq_normalize_iff.mpr h)) hnone
    | some found => rw [(spells_of_ofLabel? hfound).unique h]

theorem read_eq_ok_iff {s : String} {preset : Preset} :
    read s = .ok preset ↔ Spells s preset := by
  rw [← ofLabel?_eq_some_iff, read]
  cases ofLabel? s <;> simp

theorem read_of_not_spells {s : String} (h : ∀ preset, ¬ Spells s preset) :
    read s = .error (.unknownPreset s) := by
  have hnone : ofLabel? s = none := by
    rw [Option.eq_none_iff_forall_ne_some]
    exact fun preset hsome => h preset (spells_of_ofLabel? hsome)
  rw [read, hnone]

/-- A label spells its own preset. -/
theorem spells_label (preset : Preset) : Spells preset.label preset :=
  ⟨[], preset.label.toList, [], by simp, by simp [AllBlank], by simp [AllBlank],
    List.forall₂_same.mpr fun c hc => standsFor_self (isLabelChar_of_mem_label c hc)⟩

/-- **The grammar of presets**: a text is read as a preset exactly if it spells it. No text
spells two presets, every label is read as its own, and any other text is a fault that has the
text as it was given, with its blanks and its capitals. -/
theorem read_grammar :
    (∀ (s : String) (preset : Preset), read s = .ok preset ↔ Spells s preset) ∧
      (∀ (s : String) (p q : Preset), Spells s p → Spells s q → p = q) ∧
      (∀ preset : Preset, read preset.label = .ok preset) ∧
      ∀ s : String, (∀ preset, ¬ Spells s preset) → read s = .error (.unknownPreset s) := by
  refine ⟨?_, ?_, ?_, ?_⟩
  · intro s preset
    exact read_eq_ok_iff
  · intro s p q hp hq
    exact hp.unique hq
  · intro preset
    exact read_eq_ok_iff.mpr (spells_label preset)
  · intro s h
    exact read_of_not_spells h

/-- A label between an ideographic space, a tab and a next line, in mixed case and with an
underscore, and one with the sign for kelvin, whose small letter is a `k`. -/
theorem scrawled_grammar :
    Spells "\u3000\tPeRSIStent_BroKER\u0085" .persistentBroker ∧
      read "\u3000\tPeRSIStent_BroKER\u0085" = .ok .persistentBroker ∧
      ¬ Spells "\u3000\tPeRSIStent_BroKER\u0085" .boundedCollector ∧
      (∀ preset, ¬ Spells " persistent-bro\u212aer" preset) ∧
      read " persistent-bro\u212aer" = .error (.unknownPreset " persistent-bro\u212aer") := by
  obtain ⟨haccept, hunique, -, hreject⟩ := read_grammar
  have hspells : Spells "\u3000\tPeRSIStent_BroKER\u0085" .persistentBroker :=
    label_eq_normalize_iff.mp (by decide)
  have hnone : ∀ preset, ¬ Spells " persistent-bro\u212aer" preset := by
    intro preset h
    have heq := label_eq_normalize_iff.mpr h
    cases preset <;> exact absurd heq (by decide)
  refine ⟨hspells, (haccept _ _).mpr hspells, ?_, hnone, hreject _ hnone⟩
  intro hother
  cases hunique _ _ _ hspells hother

end Preset

end Reconnect
