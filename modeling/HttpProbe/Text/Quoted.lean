/-
**Texts in quotes.**

Messages about values show a text between double quotes, with a backslash before a quote or a
backslash, names for the usual controls, and the code point in hexadecimal for every character that
does not print.

Main definitions:

* `Text.escapeChar` — the written form of one character;
* `Text.quoted` — the written form of a text.
-/

import HttpProbe.Unicode.Printable

set_option autoImplicit false
set_option relaxedAutoImplicit false

namespace HttpProbe.Text

open HttpProbe.Unicode

/-- The double quote. -/
def quoteMark : Char := Char.ofNat 34

/-- The backslash. -/
def backslash : Char := Char.ofNat 92

/-- The hexadecimal digits of a number, in lower case. -/
def hexDigits (n : Nat) : List Char := Nat.toDigits 16 n

/-- A character written by its code point. -/
def escapeCode (c : Char) : List Char :=
  backslash :: 'u' :: Char.ofNat 0x7B :: (hexDigits c.toNat ++ [Char.ofNat 0x7D])

/-- Does the character show as itself? -/
def isPlain (c : Char) : Bool :=
  if c.toNat < 0x7F then 0x20 ≤ c.toNat
  else !graphemeExtend.contains c.toNat && !unprintable.contains c.toNat

/-- The written form of a character between quotes. -/
def escapeChar (c : Char) : List Char :=
  if c.toNat = 0 then [backslash, '0']
  else if c = '\t' then [backslash, 't']
  else if c = '\r' then [backslash, 'r']
  else if c = '\n' then [backslash, 'n']
  else if c = backslash || c = quoteMark then [backslash, c]
  else if isPlain c then [c]
  else escapeCode c

/-- A text between quotes. -/
def quoted (s : String) : String :=
  String.ofList (quoteMark :: (s.toList.flatMap escapeChar ++ [quoteMark]))

end HttpProbe.Text
