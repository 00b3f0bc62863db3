/-
Reconnect.Binary64.Basic — the binary64 numbers.

A number is not-a-number, an infinity, or a sign with a magnitude on the grid;
zero keeps its sign. Two numbers are equal as data exactly when no operation
tells them apart. The order and the numeric equality go through one view,
`position?`: the place on the line of integers counted in units of 2^-1074,
with the infinities at the first power of two past the finite magnitudes.

Each operation is its exact result rounded once. A power with a natural
exponent is square and multiply from the lowest bit of the exponent, every
product rounded, so its last bit depends on the order of the products.

* `Binary64`, `Magnitude`: the numbers.
* `round`, `nearest`: the number closest to an exact quotient.
* `position?`, `lt`, `le`, `eq`: comparison; nothing compares with not-a-number.
* `add`, `mul`: sum and product.
* `power`: square and multiply, `powi`.
-/
import Reconnect.Binary64.Rounding

namespace Reconnect

/-- A finite magnitude, in units of 2^-1074. -/
structure Binary64.Magnitude where
  units : Nat
  representable : Binary64.Representable units
  lt_limit : units < Binary64.limit
  deriving DecidableEq

/-- A binary64 number; every not-a-number is the same one. -/
inductive Binary64 where
  | nan
  | infinite (negative : Bool)
  | finite (negative : Bool) (magnitude : Binary64.Magnitude)
  deriving DecidableEq

namespace Binary64

/-! ## Rounding to a number -/

/-- The number closest to `num / den` units with the given sign: ties go to the
even significand, and what rounds past the greatest magnitude is infinite. -/
def round (negative : Bool) (num den : Nat) : Binary64 :=
  if h : roundUnits num den < limit then
    finite negative ⟨roundUnits num den, representable_roundUnits num den, h⟩
  else
    infinite negative

/-- The number closest to the quotient `num / den`. -/
def nearest (num den : Nat) : Binary64 := round false (num * scale) den

/-! ## Particular numbers -/

/-- Zero with a sign. -/
def signedZero (negative : Bool) : Binary64 :=
  finite negative ⟨0, representable_zero, limit_pos⟩

/-- Positive zero. -/
def zero : Binary64 := signedZero false

/-- One. -/
def one : Binary64 := nearest 1 1

/-! ## Kinds and signs -/

/-- Whether the number is not-a-number (`is_nan`). -/
def isNaN : Binary64 → Bool
  | nan => true
  | _ => false

/-- Whether the number is neither infinite nor not-a-number (`is_finite`). -/
def isFinite : Binary64 → Bool
  | finite _ _ => true
  | _ => false

/-- The number with the other sign. -/
def neg : Binary64 → Binary64
  | nan => nan
  | infinite negative => infinite !negative
  | finite negative magnitude => finite (!negative) magnitude

instance : Neg Binary64 := ⟨neg⟩

/-! ## Order -/

/-- A count with a sign. -/
def signed (negative : Bool) (count : Nat) : Int := if negative then -(count : Int) else count

/-- The place of a number on the line, in units; not-a-number has none, and the
two zeros have the same. -/
def position? : Binary64 → Option Int
  | nan => none
  | infinite negative => some (signed negative limit)
  | finite negative magnitude => some (signed negative magnitude.units)

/-- Compares two places, failing where one is missing. -/
def compareBy (relation : Int → Int → Bool) (x y : Binary64) : Bool :=
  match x.position?, y.position? with
  | some a, some b => relation a b
  | _, _ => false

/-- Strictly below; false where either is not-a-number. -/
def lt (x y : Binary64) : Bool := compareBy (fun a b => decide (a < b)) x y

/-- Below or numerically equal; false where either is not-a-number. -/
def le (x y : Binary64) : Bool := compareBy (fun a b => decide (a ≤ b)) x y

/-- Numeric equality: the zeros are equal, and not-a-number equals nothing. -/
def eq (x y : Binary64) : Bool := compareBy (fun a b => decide (a = b)) x y

instance : LT Binary64 := ⟨fun x y => x.lt y = true⟩
instance : LE Binary64 := ⟨fun x y => x.le y = true⟩
instance (x y : Binary64) : Decidable (x < y) := inferInstanceAs (Decidable (_ = true))
instance (x y : Binary64) : Decidable (x ≤ y) := inferInstanceAs (Decidable (_ = true))

@[simp] theorem position?_nan : position? nan = none := rfl
@[simp] theorem position?_infinite (s : Bool) :
    position? (infinite s) = some (signed s limit) := rfl
@[simp] theorem position?_finite (s : Bool) (m : Magnitude) :
    position? (finite s m) = some (signed s m.units) := rfl

theorem signed_not (s : Bool) (n : Nat) : signed (!s) n = -signed s n := by
  cases s <;> simp [signed]

@[simp] theorem position?_neg (x : Binary64) : (-x).position? = x.position?.map (- ·) := by
  show (neg x).position? = _
  cases x <;> simp [neg, signed_not]

theorem neg_neg (x : Binary64) : - -x = x := by
  show neg (neg x) = x
  cases x <;> simp [neg]

theorem lt_iff {x y : Binary64} :
    x < y ↔ ∃ a b, x.position? = some a ∧ y.position? = some b ∧ a < b := by
  show compareBy _ x y = true ↔ _
  unfold compareBy
  cases x.position? <;> cases y.position? <;> simp

theorem le_iff {x y : Binary64} :
    x ≤ y ↔ ∃ a b, x.position? = some a ∧ y.position? = some b ∧ a ≤ b := by
  show compareBy _ x y = true ↔ _
  unfold compareBy
  cases x.position? <;> cases y.position? <;> simp

theorem eq_iff {x y : Binary64} :
    x.eq y = true ↔ ∃ a, x.position? = some a ∧ y.position? = some a := by
  show compareBy _ x y = true ↔ _
  unfold compareBy
  cases x.position? <;> cases y.position? <;> simp [eq_comm]

/-! ## Sums, products and powers -/

/-- The sum of two magnitudes with signs; equal ones of opposite signs leave positive zero. -/
def addSigned (s : Bool) (a : Nat) (t : Bool) (b : Nat) : Binary64 :=
  if s = t then round s (a + b) 1
  else if b < a then round s (a - b) 1
  else if a < b then round t (b - a) 1
  else zero

/-- The sum, rounded once; opposite infinities have none. -/
def add : Binary64 → Binary64 → Binary64
  | finite s a, finite t b => addSigned s a.units t b.units
  | infinite s, finite _ _ => infinite s
  | finite _ _, infinite t => infinite t
  | infinite s, infinite t => if s = t then infinite s else nan
  | nan, _ => nan
  | _, nan => nan

/-- The product, rounded once; zero times an infinity has none. -/
def mul : Binary64 → Binary64 → Binary64
  | finite s a, finite t b => round (s != t) (a.units * b.units) scale
  | infinite s, finite t b => if b.units = 0 then nan else infinite (s != t)
  | finite s a, infinite t => if a.units = 0 then nan else infinite (s != t)
  | infinite s, infinite t => infinite (s != t)
  | nan, _ => nan
  | _, nan => nan

instance : Add Binary64 := ⟨add⟩
instance : Mul Binary64 := ⟨mul⟩

/-- Square and multiply: `result` times `square` to the power `exponent`, for
an exponent of at most `halvings + 1` bits. -/
def powerLoop (result square : Binary64) (exponent : Nat) : (halvings : Nat) → Binary64
  | 0 => if exponent % 2 = 1 then result * square else result
  | halvings + 1 =>
    powerLoop (if exponent % 2 = 1 then result * square else result) (square * square)
      (exponent / 2) halvings

/-- The power by square and multiply (`powi`); every number to the power zero is one. -/
def power (x : Binary64) (exponent : Nat) : Binary64 :=
  powerLoop one x exponent exponent.log2

@[simp] theorem power_zero (x : Binary64) : x.power 0 = one := by
  simp [power, powerLoop]

end Binary64

end Reconnect
