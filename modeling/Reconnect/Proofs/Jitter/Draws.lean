/-
Reconnect.Proofs.Jitter.Draws — what sources answer.

A source is lawful if it keeps to the rule in every sequence of draws, whatever
the bounds are. It stays lawful from one draw to the next, which is all that the
proofs about pacers use of it. Fixed shares and generators both answer a share of
the bound that lies between zero and one, and rounding the product does not carry
it past the bound (`Binary64.mul_between`).

* `KeepsExactly`: a draw that keeps to the rule to the letter.
* `Lawful`: a source that keeps to the rule for good.
* `lawful_of_invariant`: a rule for one draw is a rule for all of them.
* `FixedShare.keepsExactly_share`, `FixedShare.lawful_new`: clamped shares.
* `FixedShare.clamp_mono`, `FixedShare.share_mono`: they grow with the fraction and the
  bound; `not_zero_lt_share` and `share_of_one_le`: their ends.
* `Generator.keepsExactly_draw`, `Generator.lawful`, `Generator.draw_eq`: generators, and
  the words they take.
* `Source.draw_of_hasRoom`: without room the sources that are no script stay still.
-/
import Mathlib.Data.List.Forall2
import Reconnect.Jitter
import Reconnect.Proofs.Binary64.Unit

namespace Reconnect

open Binary64

namespace Jitter

variable {σ : Type} [Jitter σ]

/-! ## Room -/

theorem hasRoom_eq_true_iff {upper : Binary64} :
    hasRoom upper = true ↔ upper.isFinite = true ∧ .zero < upper := by
  simp [hasRoom]

/-- A draw that keeps to the rule to the letter: it is a number, and where there is no room
it is the zero without a sign. -/
structure KeepsExactly (upper draw : Binary64) : Prop where
  ne_nan : draw ≠ .nan
  bounded : upper.isFinite = true → .zero < upper → .zero ≤ draw ∧ draw ≤ upper
  zero : ¬ (upper.isFinite = true ∧ .zero < upper) → draw = .zero

namespace KeepsExactly

variable {upper draw : Binary64}

theorem of_room (h : upper.isFinite = true ∧ .zero < upper)
    (hbetween : .zero ≤ draw ∧ draw ≤ upper) : KeepsExactly upper draw where
  ne_nan := (ne_nan_of_le hbetween.1).2
  bounded _ _ := hbetween
  zero hnone := absurd h hnone

theorem of_no_room (h : ¬ (upper.isFinite = true ∧ .zero < upper)) : KeepsExactly upper .zero where
  ne_nan := nofun
  bounded hfinite hpos := absurd ⟨hfinite, hpos⟩ h
  zero _ := rfl

theorem zero_le (h : KeepsExactly upper draw) : .zero ≤ draw := by
  by_cases hroom : upper.isFinite = true ∧ .zero < upper
  · exact (h.bounded hroom.1 hroom.2).1
  · rw [h.zero hroom]
    exact Binary64.le_refl nofun

theorem keeps (h : KeepsExactly upper draw) : Keeps upper draw := by
  unfold Keeps
  split
  · obtain ⟨hfinite, hpos⟩ := hasRoom_eq_true_iff.mp ‹_›
    exact h.bounded hfinite hpos
  · rename_i hroom
    rw [h.zero (hroom ∘ hasRoom_eq_true_iff.mpr)]
    exact eq_iff.mpr ⟨0, position?_zero, position?_zero⟩

end KeepsExactly

/-! ## Lawful sources -/

/-- A source keeps to the rule in every sequence of draws. -/
def Lawful (source : σ) : Prop :=
  ∀ uppers, List.Forall₂ Keeps uppers (drawAll source uppers)

theorem Lawful.keeps {source : σ} (h : Lawful source) (upper : Binary64) :
    Keeps upper (draw source upper).1 := by
  have := h [upper]
  simp only [drawAll, List.forall₂_cons] at this
  exact this.1

theorem Lawful.draw {source : σ} (h : Lawful source) (upper : Binary64) :
    Lawful (Jitter.draw source upper).2 := by
  intro uppers
  have := h (upper :: uppers)
  simp only [drawAll, List.forall₂_cons] at this
  exact this.2

theorem lawful_of_invariant {P : σ → Prop}
    (keeps : ∀ source, P source → ∀ upper, Keeps upper (Jitter.draw source upper).1)
    (draw : ∀ source, P source → ∀ upper, P (Jitter.draw source upper).2)
    {source : σ} (h : P source) : Lawful source := by
  intro uppers
  induction uppers generalizing source with
  | nil => exact .nil
  | cons upper uppers ih => exact .cons (keeps source h upper) (ih (draw source h upper))

end Jitter

/-! ## Fixed shares -/

namespace FixedShare

/-- A clamped share is zero or above, and at most one. -/
theorem clamp_between (fraction : Binary64) :
    .zero ≤ clamp fraction ∧ clamp fraction ≤ .one := by
  have hnumber : zero ≠ nan := nofun
  have hzero : zero ≤ zero := Binary64.le_refl hnumber
  unfold clamp
  split
  · exact ⟨hzero, Binary64.zero_le_one⟩
  rename_i hnan
  have hfraction : fraction ≠ nan := by
    rintro rfl
    exact hnan rfl
  split
  · exact ⟨hzero, Binary64.zero_le_one⟩
  rename_i hbelow
  split
  · exact ⟨Binary64.zero_le_one, Binary64.one_le_one⟩
  rename_i habove
  exact ⟨(Binary64.not_lt hfraction hnumber).mp hbelow,
    (Binary64.not_lt (ne_nan_of_isFinite isFinite_one) hfraction).mp habove⟩

section

variable {f g : Binary64}

theorem clamp_of_lt_zero (h : f < .zero) : clamp f = .zero := by
  simp [clamp, h]

theorem clamp_of_one_lt (h : .one < f) : clamp f = .one := by
  have hnan : f.isNaN = false := Bool.eq_false_iff.mpr (mt eq_nan_of_isNaN (ne_nan_of_lt h))
  have hzero : ¬ f < .zero :=
    Binary64.not_lt_of_le (Binary64.le_trans Binary64.zero_le_one (Binary64.le_of_lt h))
  simp [clamp, hnan, hzero, h]

theorem clamp_of_between (hzero : .zero ≤ f) (hone : f ≤ .one) : clamp f = f := by
  have hnan : f.isNaN = false := Bool.eq_false_iff.mpr (mt eq_nan_of_isNaN (ne_nan_of_le hone).1)
  simp [clamp, hnan, Binary64.not_lt_of_le hzero, Binary64.not_lt_of_le hone]

/-- A share that is not above zero is held at zero, of either sign. -/
theorem position?_clamp_of_le_zero (h : f ≤ .zero) : (clamp f).position? = some 0 := by
  rcases Binary64.lt_or_le (ne_nan_of_le h).1 (ne_nan_of_le h).2 with hlt | hle
  · rw [clamp_of_lt_zero hlt, position?_zero]
  · rw [clamp_of_between hle (Binary64.le_trans h Binary64.zero_le_one)]
    exact position?_eq_of_le_of_le h hle

/-- A share of at least one is held at one. -/
theorem clamp_of_one_le (h : .one ≤ f) : clamp f = .one := by
  rcases Binary64.lt_or_le (ne_nan_of_le h).1 (ne_nan_of_le h).2 with hlt | hle
  · exact clamp_of_one_lt hlt
  · rw [clamp_of_between (Binary64.le_trans Binary64.zero_le_one h) hle]
    exact (eq_of_zero_lt Binary64.zero_lt_one (position?_eq_of_le_of_le h hle)).symm

theorem clamp_mono (h : f ≤ g) : clamp f ≤ clamp g := by
  obtain ⟨hf, hg⟩ := ne_nan_of_le h
  rcases Binary64.lt_or_le hf (show zero ≠ nan from nofun) with hzero | hzero
  · rw [clamp_of_lt_zero hzero]
    exact (clamp_between g).1
  · rcases Binary64.lt_or_le (ne_nan_of_isFinite isFinite_one) hg with hone | hone
    · rw [clamp_of_one_lt hone]
      exact (clamp_between f).2
    · -- neither is held, so they stay in order
      rw [clamp_of_between hzero (Binary64.le_trans h hone),
        clamp_of_between (Binary64.le_trans hzero h) hone]
      exact h

theorem isFinite_clamp (f : Binary64) : (clamp f).isFinite = true :=
  isFinite_of_le (clamp_between f).1 (clamp_between f).2 isFinite_one

end

theorem keepsExactly_share (fraction upper : Binary64) :
    Jitter.KeepsExactly upper ((new fraction).share upper) := by
  simp only [share, Jitter.hasRoom_eq_true_iff]
  split
  · rename_i hroom
    obtain ⟨hzero, hone⟩ := clamp_between fraction
    exact .of_room hroom (mul_between hroom.1 (Binary64.le_of_lt hroom.2) hzero hone)
  · rename_i hroom
    exact .of_no_room hroom

/-- A greater share of a greater bound, both with room, is no less. -/
theorem share_mono {f g upper upper' : Binary64} (hshare : f ≤ g) (hupper : upper ≤ upper')
    (hfinite : upper'.isFinite = true) : (new f).share upper ≤ (new g).share upper' := by
  by_cases hroom : upper.isFinite = true ∧ .zero < upper
  · have hroom' : upper'.isFinite = true ∧ .zero < upper' :=
      ⟨hfinite, Binary64.lt_of_lt_of_le hroom.2 hupper⟩
    simp only [share, Jitter.hasRoom_eq_true_iff, if_pos hroom, if_pos hroom']
    exact mul_le_mul_of_zero_le (Binary64.le_of_lt hroom.2) (clamp_between f).1 hupper
      (clamp_mono hshare) (mul_ne_nan hroom.1 (isFinite_clamp f))
      (mul_ne_nan hfinite (isFinite_clamp g))
  · rw [(keepsExactly_share f upper).zero hroom]
    exact (keepsExactly_share g upper').zero_le

/-- A share that is not above zero is no seconds of any bound. -/
theorem not_zero_lt_share {f : Binary64} (h : f ≤ .zero) (upper : Binary64) :
    ¬ .zero < (new f).share upper := by
  unfold share
  split
  · rename_i hroom
    have hfinite := (Jitter.hasRoom_eq_true_iff.mp hroom).1
    have hproduct := position?_mul_of_zero hfinite (position?_clamp_of_le_zero h)
    exact Binary64.not_lt_of_le ((le_of_positions hproduct position?_zero).mpr (Int.le_refl 0))
  · exact Binary64.not_lt_of_le (Binary64.le_refl nofun)

/-- A share of at least one is the whole of a bound with room. -/
theorem share_of_one_le {f upper : Binary64} (h : .one ≤ f)
    (hroom : upper.isFinite = true ∧ .zero < upper) : (new f).share upper = upper := by
  rw [share, if_pos (Jitter.hasRoom_eq_true_iff.mpr hroom), new, clamp_of_one_le h,
    Binary64.mul_one]

theorem lawful_new (fraction : Binary64) : Jitter.Lawful (new fraction) :=
  Jitter.lawful_of_invariant (P := fun source => source = new fraction)
    (fun _ h upper => h ▸ (keepsExactly_share fraction upper).keeps) (fun _ h _ => h) rfl

end FixedShare

/-! ## Generators -/

namespace Generator

/-- The generator some words on. -/
def skip (source : Generator) (words : Nat) : Generator :=
  { source with position := source.position + words }

@[simp] theorem skip_zero (source : Generator) : source.skip 0 = source := rfl

theorem skip_skip (source : Generator) (words more : Nat) :
    (source.skip words).skip more = source.skip (words + more) := by
  simp [skip, Nat.add_assoc]

/-- A word stands for a share of zero or above, and at most one. -/
theorem share_between (word : UInt64) : .zero ≤ share word ∧ share word ≤ .one := by
  have hword : word.toNat >>> 12 ≤ 1 <<< 52 := by
    have := word.toNat_lt
    rw [Nat.shiftRight_eq_div_pow, Nat.one_shiftLeft]
    omega
  have hle : roundUnits ((word.toNat >>> 12) * scale) (1 <<< 52) ≤ scale := by
    apply roundUnits_le (by decide) representable_scale
    rw [Nat.mul_comm]
    exact Nat.mul_le_mul_left scale hword
  have hplace := position?_round false ((word.toNat >>> 12) * scale) (1 <<< 52)
  change (share word).position? = _ at hplace
  rw [le_of_positions position?_zero hplace, le_of_positions hplace position?_one]
  simp only [signed, Bool.false_eq_true, if_false]
  omega

/-- With room, the number that a word stands for lies between zero and the bound. -/
theorem uniform_between (word : UInt64) {upper : Binary64} (hfinite : upper.isFinite = true)
    (hpos : .zero < upper) : .zero ≤ uniform word upper ∧ uniform word upper ≤ upper := by
  obtain ⟨hzero, hone⟩ := share_between word
  have hbetween := mul_between hfinite (Binary64.le_of_lt hpos) hzero hone
  have hplace : (uniform word upper).position? = (upper * share word).position? := by
    rw [uniform, position?_add_zero, Binary64.mul_comm]
  simpa only [le_iff, hplace] using hbetween

/-- A draw takes one word where there is room, and none where there is none. -/
theorem draw_eq (source : Generator) (upper : Binary64) :
    Jitter.draw source upper =
      (if upper.isFinite = true ∧ .zero < upper then
          uniform (source.word source.position) upper
        else .zero,
        source.skip (if upper.isFinite = true ∧ .zero < upper then 1 else 0)) := by
  show next source upper = _
  simp only [next, Jitter.hasRoom_eq_true_iff]
  by_cases hroom : upper.isFinite = true ∧ .zero < upper
  · simp only [if_pos hroom]
    rfl
  · simp only [if_neg hroom, skip_zero]

theorem keepsExactly_draw (source : Generator) (upper : Binary64) :
    Jitter.KeepsExactly upper (Jitter.draw source upper).1 := by
  simp only [draw_eq]
  split
  · rename_i hroom
    exact .of_room hroom (uniform_between _ hroom.1 hroom.2)
  · rename_i hroom
    exact .of_no_room hroom

/-- Generators are lawful, whatever their words are and wherever they stand. -/
theorem lawful (source : Generator) : Jitter.Lawful source :=
  Jitter.lawful_of_invariant (P := fun _ => True)
    (fun source _ upper => (keepsExactly_draw source upper).keeps) (fun _ _ _ => trivial) trivial

end Generator

/-! ## Sources without room -/

namespace Source

/-- Whether the answers are written down beforehand. -/
def isScript : Source → Bool
  | script _ => true
  | _ => false

/-- Without room the sources that are no script answer zero and stay where they are. -/
theorem draw_of_hasRoom {source : Source} (hsource : source.isScript = false) {upper : Binary64}
    (h : Jitter.hasRoom upper = false) : Jitter.draw source upper = (.zero, source) := by
  cases source with
  | fixed share =>
    show (share.share upper, fixed share) = _
    simp [FixedShare.share, h]
  | generator words =>
    show ((words.next upper).map id generator) = _
    simp [Generator.next, h]
  | script values => cases hsource

end Source

end Reconnect
