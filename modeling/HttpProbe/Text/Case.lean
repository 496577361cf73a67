/-
**Lower and upper case.**

A text is lowered character by character, with two rules of its own.  `İ` becomes two characters.
A capital sigma becomes the final `ς` when a cased character stands before it, characters without
case of their own passed over, and none stands after it; otherwise it becomes `σ`.  So the lower
case of a piece of a text need not be a piece of the lower case of the text.

Main definitions:

* `Text.lowerChar`, `Text.upperChar` — the map of one character;
* `Text.lowerChars` — the lower case of a text, given the characters before it;
* `Text.lower`, `Text.upper`;
* `Text.asciiLowerChar`, `Text.asciiUpperChar` — the letters of ASCII only.
-/

import HttpProbe.Unicode.CaseMap

set_option autoImplicit false
set_option relaxedAutoImplicit false

namespace HttpProbe.Text

open HttpProbe.Unicode

/-- The lower case of a character, apart from the rule for the capital sigma. -/
def lowerChar (c : Char) : List Char :=
  if c.toNat = 0x130 then ['i', Char.ofNat 0x307]
  else match Shift.find? lowerShifts c.toNat with
    | some n => [Char.ofNat n]
    | none => [c]

/-- The upper case of a character. -/
def upperChar (c : Char) : List Char :=
  match longUpper.lookup c.toNat with
  | some ns => ns.map Char.ofNat
  | none => match Shift.find? upperShifts c.toNat with
    | some n => [Char.ofNat n]
    | none => [c]

/-- Is the first character that is not passed over a cased one? -/
def meetsCased (cs : List Char) : Bool :=
  match cs.dropWhile isCaseIgnorable with
  | [] => false
  | c :: _ => isCased c

/-- The lower case of a text; `before` holds the characters that precede it, nearest first. -/
def lowerChars (before : List Char) : List Char → List Char
  | [] => []
  | c :: rest =>
    (if c.toNat = 0x3A3 then
      (if meetsCased before && !meetsCased rest then [Char.ofNat 0x3C2] else [Char.ofNat 0x3C3])
    else lowerChar c) ++ lowerChars (c :: before) rest

/-- The lower case of a text. -/
def lower (s : String) : String := String.ofList (lowerChars [] s.toList)

/-- The upper case of a text. -/
def upper (s : String) : String := String.ofList (s.toList.flatMap upperChar)

/-- The lower case of a letter of ASCII; other characters stay. -/
def asciiLowerChar (c : Char) : Char :=
  if 65 ≤ c.toNat && c.toNat ≤ 90 then Char.ofNat (c.toNat + 32) else c

/-- The upper case of a letter of ASCII; other characters stay. -/
def asciiUpperChar (c : Char) : Char :=
  if 97 ≤ c.toNat && c.toNat ≤ 122 then Char.ofNat (c.toNat - 32) else c

end HttpProbe.Text
