/-
Reconnect.Preset — the named policies.

* `Preset`, `Preset.all`: the names, in the order in which `ALL` lists them.
* `label`, `policy`: the label and the policy of a preset, `as_label` and `policy`.
* `ofLabel?`, `read`: the preset that a label names, `from_str`; blanks around it do
  not count, ASCII letters may have either case and an underscore is as good as a
  hyphen.
-/
import Reconnect.Fault
import Reconnect.Policy
import Reconnect.Text.CharClass

namespace Reconnect

/-- A named policy. -/
inductive Preset where
  | persistentBroker
  | boundedCollector
  deriving DecidableEq

namespace Preset

/-- Every preset. -/
def all : List Preset := [persistentBroker, boundedCollector]

/-- The label of a preset (`as_label`). -/
def label : Preset → String
  | persistentBroker => "persistent-broker"
  | boundedCollector => "bounded-collector"

/-- The policy of a preset. -/
def policy : Preset → Policy
  | persistentBroker => .persistentBroker
  | boundedCollector => .boundedCollector

/-- The character of a label that a written one stands for: `to_ascii_lowercase`, and
a hyphen for an underscore. -/
def foldChar (c : Char) : Char := if c = '_' then '-' else c.toLower

/-- The label that a text stands for. -/
def normalize (s : String) : List Char := (Text.trim s.toList).map foldChar

/-- The preset that a text names. -/
def ofLabel? (s : String) : Option Preset := all.find? (·.label.toList = normalize s)

/-- The preset that a text names (`from_str`); the fault has the text as it was given. -/
def read (s : String) : Except Fault Preset :=
  match ofLabel? s with
  | some preset => .ok preset
  | none => .error (.unknownPreset s)

end Preset

end Reconnect
