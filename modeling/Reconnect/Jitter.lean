/-
Reconnect.Jitter — where jitter comes from.

A source is asked for a number of seconds between zero and an upper bound, and
moves on. There is room for jitter only below a finite bound above zero; sources
that keep to the rule answer zero where there is none, and stay where they are.

* `Jitter`: the capability of a type of sources, `JitterSource`; `Jitter.hasRoom`
  is `has_room`.
* `Jitter.Keeps`: a draw that a source may make under a bound.
* `FixedShare`: `FixedJitter`, the same share of every bound.
* `Generator`: a stream of random words, as `ThreadJitter` and every `RngCore` is one.
* `Script`: answers that are written down beforehand, whatever the bound is; it
  may break the rule for sources.
* `Source`: one type for all three.
-/
import Reconnect.Binary64.Basic

namespace Reconnect

/-- A type of jitter sources: `draw`, which is `sample_jitter`, answers seconds below
a bound and gives the source as it stands afterwards. -/
class Jitter (σ : Type) where
  draw : σ → (upper : Binary64) → Binary64 × σ

namespace Jitter

/-- Whether a bound leaves room for jitter (`has_room`). -/
def hasRoom (upper : Binary64) : Bool := upper.isFinite && .zero < upper

/-- A draw within the rule: between zero and the bound where there is room, and
zero, of either sign, where there is none. -/
def Keeps (upper draw : Binary64) : Prop :=
  if hasRoom upper then .zero ≤ draw ∧ draw ≤ upper else draw.eq .zero = true

/-- Whether a draw lies between zero and the bound. -/
def inRange (upper draw : Binary64) : Bool := .zero ≤ draw && draw ≤ upper

/-- Draws under one bound after another. -/
def drawAll {σ : Type} [Jitter σ] : σ → List Binary64 → List Binary64
  | _, [] => []
  | source, upper :: uppers =>
    let (value, source) := draw source upper
    value :: drawAll source uppers

end Jitter

/-! ## Fixed shares -/

/-- A source that answers the same share of every bound (`FixedJitter`). -/
structure FixedShare where
  fraction : Binary64
  deriving DecidableEq

namespace FixedShare

/-- A number held between zero and one, as `clamp` holds it; zero keeps its sign, and
not-a-number counts as zero. -/
def clamp (fraction : Binary64) : Binary64 :=
  if fraction.isNaN then .zero
  else if fraction < .zero then .zero
  else if .one < fraction then .one
  else fraction

/-- The source with a share held between zero and one. -/
def new (fraction : Binary64) : FixedShare := ⟨clamp fraction⟩

/-- The source that adds nothing; it is the default one. -/
def none : FixedShare := ⟨.zero⟩

/-- The share of a bound, and zero where there is no room (`sample_jitter`). -/
def share (source : FixedShare) (upper : Binary64) : Binary64 :=
  if Jitter.hasRoom upper then upper * source.fraction else .zero

instance : Jitter FixedShare where
  draw source upper := (source.share upper, source)

end FixedShare

/-! ## Generators

A draw with room takes one word; its upper 52 bits are the share of the bound
in steps of 2^-52, so the bound itself is reached only by rounding. A draw
without room takes none. -/

/-- A stream of 64-bit words, and how many of them are taken. -/
structure Generator where
  word : Nat → UInt64
  position : Nat

namespace Generator

/-- The generator that gives the words of a list over and over. -/
def cycle (words : Array UInt64) : Generator where
  word i := words.getD (i % words.size) 0
  position := 0

/-- The share from zero to below one that a word stands for. -/
def share (word : UInt64) : Binary64 := .nearest (word.toNat >>> 12) (1 <<< 52)

/-- The number between zero and the bound that a word stands for (`random_range`). -/
def uniform (word : UInt64) (upper : Binary64) : Binary64 := share word * upper + .zero

/-- One word's number where there is room; zero, and no word, where there is none
(`sample_jitter`). -/
def next (source : Generator) (upper : Binary64) : Binary64 × Generator :=
  if Jitter.hasRoom upper then
    (uniform (source.word source.position) upper, { source with position := source.position + 1 })
  else (.zero, source)

instance : Jitter Generator := ⟨next⟩

end Generator

/-! ## Scripts -/

/-- A sequence of answers, and how many of them are given. -/
structure Script where
  value : Nat → Binary64
  position : Nat

namespace Script

/-- The script that gives the values of a list over and over. -/
def cycle (values : Array Binary64) : Script where
  value i := values.getD (i % values.size) .zero
  position := 0

instance : Jitter Script where
  draw source _ := (source.value source.position, { source with position := source.position + 1 })

end Script

/-! ## All kinds -/

/-- A jitter source of any of the kinds of this library. -/
inductive Source where
  | fixed (share : FixedShare)
  | generator (words : Generator)
  | script (values : Script)

namespace Source

/-- A draw from whatever the source is. -/
def draw : Source → Binary64 → Binary64 × Source
  | fixed share, upper => (Jitter.draw share upper).map id .fixed
  | generator words, upper => (Jitter.draw words upper).map id .generator
  | script values, upper => (Jitter.draw values upper).map id .script

instance : Jitter Source := ⟨draw⟩

end Source

end Reconnect
