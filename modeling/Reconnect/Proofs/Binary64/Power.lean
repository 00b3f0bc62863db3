/-
Reconnect.Proofs.Binary64.Power — square and multiply, step by step.

`powerLoop` multiplies a result by some of the repeated squares of a number.
Whatever products keep, the loop keeps: `powerLoop_rel` says so of two loops side
by side and `powerLoop_tracks` of a loop beside exact powers.

Powers with neighbouring exponents run through different products. Counting the
exponent up by one replaces its lowest ones by zeros and the zero above them by
a one, so it trades the product of the lowest squares for the next square. With a
number of at least one that product is never above that square, and with a number
from zero to one never below it; `powerLoop_succ_rel` does both.

* `power_tracks`: the power of what stands for `w` stands for `w ^ e`.
* `power_rel_of_le`: what relates one to a number relates its powers, in their order.
* `power_mono`, `power_le_power`: powers of at least one grow with exponent and number.
* `Tracks`: a number that is a whole one exactly while that has 53 bits.
-/
import Mathlib.Algebra.Group.Nat.Even
import Mathlib.Tactic.Ring
import Reconnect.Proofs.Binary64.Order

namespace Reconnect

namespace Binary64

/-! ## What the loop keeps -/

/-- Two loops over one exponent stay related, if products do. -/
theorem powerLoop_rel {R : Binary64 → Binary64 → Prop}
    (mul : ∀ {w x y z}, R w x → R y z → R (w * y) (x * z)) :
    ∀ (halvings exponent : Nat) {r r' a a' : Binary64}, R r r' → R a a' →
      R (powerLoop r a exponent halvings) (powerLoop r' a' exponent halvings) := by
  intro halvings
  induction halvings with
  | zero =>
    intro exponent r r' a a' hr ha
    unfold powerLoop
    split
    · exact mul hr ha
    · exact hr
  | succ halvings ih =>
    intro exponent r r' a a' hr ha
    unfold powerLoop
    apply ih
    · split
      · exact mul hr ha
      · exact hr
    · exact mul ha ha

/-- The loop stands for the result times the power, if products of what stands
for two values stand for their product. -/
theorem powerLoop_tracks {α : Type} [CommMonoid α] {T : α → Binary64 → Prop}
    (mul : ∀ {v w x y}, T v x → T w y → T (v * w) (x * y)) :
    ∀ (halvings exponent : Nat) {v w : α} {r a : Binary64}, exponent < 2 ^ (halvings + 1) →
      T v r → T w a → T (v * w ^ exponent) (powerLoop r a exponent halvings) := by
  intro halvings
  induction halvings with
  | zero =>
    intro exponent v w r a hexp hr ha
    obtain rfl | rfl : exponent = 0 ∨ exponent = 1 := by omega
    · simpa [powerLoop] using hr
    · simpa [powerLoop] using mul hr ha
  | succ halvings ih =>
    intro exponent v w r a hexp hr ha
    have half : exponent / 2 < 2 ^ (halvings + 1) := by
      rw [Nat.pow_succ] at hexp
      omega
    unfold powerLoop
    by_cases odd : exponent % 2 = 1
    · rw [if_pos odd]
      have split : v * w ^ exponent = v * w * (w * w) ^ (exponent / 2) := by
        conv_lhs => rw [← Nat.div_add_mod exponent 2, odd, pow_succ, pow_mul, pow_two]
        rw [mul_comm (_ ^ _) w, mul_assoc]
      rw [split]
      exact ih _ half (mul hr ha) (mul ha ha)
    · rw [if_neg odd]
      have split : v * w ^ exponent = v * (w * w) ^ (exponent / 2) := by
        conv_lhs => rw [← Nat.div_add_mod exponent 2, show exponent % 2 = 0 by omega,
          Nat.add_zero, pow_mul, pow_two]
      rw [split]
      exact ih _ half hr (mul ha ha)

/-- The power stands for the power. -/
theorem power_tracks {α : Type} [CommMonoid α] {T : α → Binary64 → Prop}
    (mul : ∀ {v w x y}, T v x → T w y → T (v * w) (x * y)) (one : T 1 one) {w : α}
    {x : Binary64} (hx : T w x) (exponent : Nat) : T (w ^ exponent) (x.power exponent) := by
  have := powerLoop_tracks mul exponent.log2 exponent Nat.lt_log2_self one hx
  rwa [one_mul] at this

/-! ## Halvings past the last bit -/

theorem powerLoop_succ_halvings (r a : Binary64) {exponent halvings : Nat}
    (h : exponent < 2 ^ (halvings + 1)) :
    powerLoop r a exponent (halvings + 1) = powerLoop r a exponent halvings := by
  induction halvings generalizing r a exponent with
  | zero =>
    have last : exponent / 2 = 0 := by omega
    simp only [powerLoop, last]
    simp
  | succ halvings ih =>
    have half : exponent / 2 < 2 ^ (halvings + 1) := by
      rw [Nat.pow_succ] at h
      omega
    rw [powerLoop, ih _ _ half]
    conv_rhs => rw [powerLoop]

/-- Any number of halvings that reaches the last bit gives the power. -/
theorem power_eq_powerLoop (x : Binary64) {exponent halvings : Nat}
    (h : exponent.log2 ≤ halvings) : x.power exponent = powerLoop one x exponent halvings := by
  induction halvings, h using Nat.le_induction with
  | base => rfl
  | succ halvings h ih =>
    have hexp : exponent < 2 ^ (halvings + 1) :=
      Nat.lt_of_lt_of_le Nat.lt_log2_self (Nat.pow_le_pow_right (by decide) (by omega))
    rw [ih, powerLoop_succ_halvings _ _ hexp]

/-! ## Neighbouring exponents -/

section

variable {R : Binary64 → Binary64 → Prop}
  (mul : ∀ {w x y z}, R w x → R y z → R (w * y) (x * z))

include mul

/-- A result that is related to the square may stand in for the count that the square
adds to the exponent. -/
theorem powerLoop_succ_rel {r a : Binary64} {exponent halvings : Nat} (hra : R r a) (ha : R a a)
    (h : exponent + 1 < 2 ^ (halvings + 1)) :
    R (powerLoop r a exponent halvings) (powerLoop one a (exponent + 1) halvings) := by
  induction halvings generalizing r a exponent with
  | zero =>
    obtain rfl : exponent = 0 := by omega
    simpa [powerLoop, Binary64.one_mul] using hra
  | succ halvings ih =>
    rw [powerLoop, powerLoop]
    by_cases odd : exponent % 2 = 1
    · -- the carry moves on: the result takes in the square, and is related to the next one
      rw [if_pos odd, if_neg (by omega), show (exponent + 1) / 2 = exponent / 2 + 1 by omega]
      apply ih (mul hra ha) (mul ha ha)
      rw [Nat.pow_succ] at h
      omega
    · -- the carry ends: the square replaces the result
      rw [if_neg odd, if_pos (by omega), show (exponent + 1) / 2 = exponent / 2 by omega,
        Binary64.one_mul]
      exact powerLoop_rel mul halvings _ hra (mul ha ha)

theorem power_succ_rel {x : Binary64} (hone : R one x) (hx : R x x) (exponent : Nat) :
    R (x.power exponent) (x.power (exponent + 1)) := by
  rw [power_eq_powerLoop x (log2_le_log2 (Nat.le_succ exponent)), power]
  exact powerLoop_succ_rel mul hone hx Nat.lt_log2_self

/-- If one is related to a number, then so is each of its powers to the later ones. -/
theorem power_rel_of_le (trans : ∀ {x y z}, R x y → R y z → R x z) (refl : R one one)
    {x : Binary64} (hone : R one x) (hx : R x x) {n m : Nat} (h : n ≤ m) :
    R (x.power n) (x.power m) := by
  induction m, h using Nat.le_induction with
  | base => exact powerLoop_rel mul n.log2 n refl hx
  | succ m _ ih => exact trans ih (power_succ_rel mul hone hx m)

end

/-! ## Growing powers -/

theorem one_le_power {x : Binary64} (hx : one ≤ x) (n : Nat) : one ≤ x.power n :=
  power_tracks (T := fun (_ : Nat) y => one ≤ y) one_le_mul
    (Binary64.le_refl (ne_nan_of_le hx).1) (w := 1) hx n

/-- A number of at least one, and one that is not below it. -/
structure GrowsTo (x y : Binary64) : Prop where
  one_le : one ≤ x
  le : x ≤ y

theorem GrowsTo.mul {w x y z : Binary64} (hwx : GrowsTo w x) (hyz : GrowsTo y z) :
    GrowsTo (w * y) (x * z) where
  one_le := one_le_mul hwx.one_le hyz.one_le
  le := Binary64.mul_le_mul (zero_lt_of_one_le hwx.one_le) (zero_lt_of_one_le hyz.one_le)
    hwx.le hyz.le

theorem GrowsTo.trans {x y z : Binary64} (hxy : GrowsTo x y) (hyz : GrowsTo y z) : GrowsTo x z :=
  ⟨hxy.one_le, Binary64.le_trans hxy.le hyz.le⟩

theorem growsTo_self {x : Binary64} (hx : one ≤ x) : GrowsTo x x :=
  ⟨hx, Binary64.le_refl (ne_nan_of_le hx).2⟩

theorem growsTo_one_one : GrowsTo one one :=
  growsTo_self (Binary64.le_refl (ne_nan_of_lt Binary64.zero_lt_one))

/-- Powers of a number of at least one do not shrink with the exponent. -/
theorem power_mono {x : Binary64} (hx : one ≤ x) {n m : Nat} (h : n ≤ m) :
    x.power n ≤ x.power m := by
  have hone : GrowsTo one x := ⟨growsTo_one_one.one_le, hx⟩
  have hpowers := power_rel_of_le (R := GrowsTo) GrowsTo.mul GrowsTo.trans growsTo_one_one hone
    (growsTo_self hx) h
  exact hpowers.le

/-- Powers of numbers of at least one do not shrink with the number. -/
theorem power_le_power {x y : Binary64} (hx : one ≤ x) (h : x ≤ y) (n : Nat) :
    x.power n ≤ y.power n :=
  (powerLoop_rel (R := GrowsTo) GrowsTo.mul n.log2 n growsTo_one_one ⟨hx, h⟩).le

/-! ## Powers of whole numbers -/

/-- A number that stands for a whole one: exactly while that has 53 bits, and
from 2^53 on when it has more. -/
def Tracks (n : ℕ) (x : Binary64) : Prop :=
  0 < n ∧ ∃ a : ℕ, x.position? = some (a : ℤ) ∧
    (a = n * scale ∧ n ≤ 2 ^ 53 ∨ 2 ^ 53 * scale ≤ a ∧ 2 ^ 53 ≤ n)

theorem tracks_of_position? {n : ℕ} {x : Binary64} (hn : 0 < n)
    (hx : x.position? = some ((n * scale : ℕ) : ℤ)) : Tracks n x := by
  refine ⟨hn, n * scale, hx, ?_⟩
  rcases Nat.le_total n (2 ^ 53) with small | large
  · exact .inl ⟨rfl, small⟩
  · exact .inr ⟨Nat.mul_le_mul_right scale large, large⟩

theorem tracks_one : Tracks 1 one := by
  apply tracks_of_position? Nat.one_pos
  rw [position?_one, Nat.one_mul]

/-- Products of two places that are whole numbers at least do not fall below
2^53 when the product of the numbers does not. -/
theorem le_productUnits {a b v w : ℕ} (ha : v * scale ≤ a) (hb : w * scale ≤ b)
    (h : 2 ^ 53 ≤ v * w) : 2 ^ 53 * scale ≤ productUnits a b := by
  have hlimit : 2 ^ 53 * scale ≤ limit := Nat.le_of_lt (two_pow_mul_scale_lt_limit (by decide))
  unfold productUnits
  split
  · exact hlimit
  · refine Nat.le_min.mpr ⟨?_, hlimit⟩
    apply le_roundUnits scale_pos (representable_two_pow_mul_scale 53)
    have product := Nat.mul_le_mul ha hb
    rw [Nat.mul_mul_mul_comm, ← Nat.mul_assoc] at product
    exact (Nat.mul_le_mul_right _ (Nat.mul_le_mul_right _ h)).trans product

/-- A product with a whole number of 53 bits is one rounding of the exact product. -/
theorem productUnits_eq {a n : ℕ} (ha : a ≤ 2 ^ 65 * scale) (hn : n ≤ 2 ^ 53) :
    productUnits a (n * scale) = roundUnits (a * n) 1 := by
  have hlimit {k : ℕ} (hk : k < 1024) := two_pow_mul_scale_lt_limit hk
  have hfactor : n * scale < limit :=
    (Nat.mul_le_mul_right scale hn).trans_lt (hlimit (by decide))
  have hround : roundUnits (a * n) 1 < limit := by
    refine Nat.lt_of_le_of_lt ?_ (hlimit (show 118 < 1024 by decide))
    apply roundUnits_le Nat.one_pos (representable_two_pow_mul_scale 118)
    have product := Nat.mul_le_mul ha hn
    rw [Nat.mul_right_comm, ← pow_add] at product
    rwa [Nat.mul_one]
  have hunits : roundUnits (a * (n * scale)) scale = roundUnits (a * n) 1 := by
    have := roundUnits_mul_mul scale_pos (a * n) 1
    rwa [Nat.one_mul, Nat.mul_assoc] at this
  have := hlimit (show 65 < 1024 by decide)
  rw [productUnits, if_neg (by omega), hunits, Nat.min_eq_left hround.le]

theorem Tracks.mul {v w : ℕ} {x y : Binary64} (hx : Tracks v x) (hy : Tracks w y) :
    Tracks (v * w) (x * y) := by
  obtain ⟨hv, a, xa, ha⟩ := hx
  obtain ⟨hw, b, yb, hb⟩ := hy
  have hpos := scale_pos
  have one_le {n : ℕ} (hn : 0 < n) : scale ≤ n * scale := Nat.le_mul_of_pos_left scale hn
  have hv' := one_le hv
  have hw' := one_le hw
  have hproduct := position?_mul xa yb (by omega) (by omega)
  refine ⟨Nat.mul_pos hv hw, _, hproduct, ?_⟩
  rcases ha with ⟨rfl, hsmall⟩ | ⟨hlarge, hv53⟩
  · rcases hb with ⟨rfl, hsmall'⟩ | ⟨hlarge', hw53⟩
    · rcases Nat.lt_or_ge (2 ^ 53) (v * w) with big | small
      · exact .inr ⟨le_productUnits le_rfl le_rfl big.le, big.le⟩
      · -- both factors and the product are exact
        have grid : Representable (v * scale * w) := by
          rw [Nat.mul_right_comm]
          exact representable_mul_scale small
        have range : v * scale ≤ 2 ^ 65 * scale := Nat.mul_le_mul_right scale (by omega)
        have exact := roundUnits_of_representable Nat.one_pos grid
        rw [Nat.mul_one] at exact
        rw [productUnits_eq range hsmall', exact]
        exact .inl ⟨Nat.mul_right_comm _ _ _, small⟩
    · have big : 2 ^ 53 ≤ v * w := hw53.trans (Nat.le_mul_of_pos_left w hv)
      have bound : 2 ^ 53 ≤ v * 2 ^ 53 := Nat.le_mul_of_pos_left _ hv
      exact .inr ⟨le_productUnits le_rfl hlarge' bound, big⟩
  · have big : 2 ^ 53 ≤ v * w := hv53.trans (Nat.le_mul_of_pos_right v hw)
    have hb' : 1 * scale ≤ b := by omega
    exact .inr ⟨le_productUnits hlarge hb' le_rfl, big⟩

/-- The power of a whole number stands for the power. -/
theorem Tracks.power {n : ℕ} {x : Binary64} (h : Tracks n x) (exponent : ℕ) :
    Tracks (n ^ exponent) (x.power exponent) :=
  power_tracks (T := Tracks) Tracks.mul tracks_one h exponent

end Binary64

end Reconnect
