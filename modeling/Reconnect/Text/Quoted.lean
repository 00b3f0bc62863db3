/-
Reconnect.Text.Quoted — texts between double quotes, the way `Debug` writes them.

A quote and a backslash stand behind a backslash, tab, line ends and the null
character have a letter of their own behind a backslash, and a character that
shows nothing of its own, leaves no trace or is a mark on the one before it is
written by its number in hexadecimal; all others stand for themselves.

* `encode`: the quoted form of a text.
* `decode`: the text with a quoted form; it reads one character at a time, and
  `Mode` says in which part of an escape it stands.
-/
import Reconnect.Text.CharClass

namespace Reconnect

namespace Text

namespace Quoted

/-- The letter that stands behind a backslash for a character, where there is one. -/
def letter? : Char → Option Char
  | '"' => some '"'
  | '\\' => some '\\'
  | '\t' => some 't'
  | '\r' => some 'r'
  | '\n' => some 'n'
  | '\x00' => some '0'
  | _ => none

/-- Whether a character is written by its number. -/
def isNumbered (c : Char) : Bool :=
  isUnprintable c || isDefaultIgnorable c || isExtendingMark c

/-- A character by its number: lower-case hexadecimal without leading zeros, in braces. -/
def numbered (c : Char) : List Char :=
  '\\' :: 'u' :: '\x7b' :: (Nat.toDigits 16 c.toNat ++ ['\x7d'])

/-- The form of one character between quotes. -/
def encodeChar (c : Char) : List Char :=
  match letter? c with
  | some letter => ['\\', letter]
  | none => if isNumbered c then numbered c else [c]

/-- The quoted form of a text. -/
def encode (s : List Char) : List Char := '"' :: (s.flatMap encodeChar ++ ['"'])

/-! ## Reading -/

/-- The character for which a letter stands behind a backslash. -/
def ofLetter? : Char → Option Char
  | '"' => some '"'
  | '\\' => some '\\'
  | 't' => some '\t'
  | 'r' => some '\r'
  | 'n' => some '\n'
  | '0' => some '\x00'
  | _ => none

/-- The value of a lower-case hexadecimal digit. -/
def hexValue? (c : Char) : Option Nat :=
  if c.isDigit then some (c.toNat - '0'.toNat)
  else if 'a' ≤ c ∧ c ≤ 'f' then some (c.toNat - 'a'.toNat + 10)
  else none

/-- The character with a number. -/
def ofNumber? (n : Nat) : Option Char := if n.isValidChar then some (Char.ofNat n) else none

/-- Where a reader stands: outside escapes, behind a backslash, in front of the
brace of a number, or behind digits of one. -/
inductive Mode where
  | plain
  | escape
  | brace
  | number (value : Nat)

/-- The text that ends with the closing quote, read from a mode on. -/
def decodeFrom : Mode → List Char → Option (List Char)
  | _, [] => none
  | .plain, c :: s =>
    if c = '"' then (if s = [] then some [] else none)
    else if c = '\\' then decodeFrom .escape s
    else (decodeFrom .plain s).map (c :: ·)
  | .escape, c :: s =>
    if c = 'u' then decodeFrom .brace s
    else (ofLetter? c).bind fun d => (decodeFrom .plain s).map (d :: ·)
  | .brace, c :: s => if c = '\x7b' then decodeFrom (.number 0) s else none
  | .number value, c :: s =>
    if c = '\x7d' then (ofNumber? value).bind fun d => (decodeFrom .plain s).map (d :: ·)
    else (hexValue? c).bind fun digit => decodeFrom (.number (value * 16 + digit)) s

/-- The text with a quoted form. -/
def decode : List Char → Option (List Char)
  | '"' :: s => decodeFrom .plain s
  | _ => none

end Quoted

/-- A string in its quoted form (`Debug`). -/
def quoted (s : String) : String := String.ofList (Quoted.encode s.toList)

end Text

end Reconnect
