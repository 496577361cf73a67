/-
**Blank characters and trimming.**

A character is *blank* when Unicode gives it the property `White_Space`.  Names, patterns and
expressions count as empty when they hold blanks only, and the engine trims them at both ends.

Main definitions:

* `Text.isBlank` — the property, as a list of code points;
* `Text.trim` — a text without the blanks at its two ends.
-/

set_option autoImplicit false
set_option relaxedAutoImplicit false

namespace HttpProbe.Text

/-- A character with the property `White_Space`. -/
def isBlank (c : Char) : Bool :=
  let n := c.toNat
  (9 ≤ n && n ≤ 13) || n == 0x20 || n == 0x85 || n == 0xA0 || n == 0x1680 ||
  (0x2000 ≤ n && n ≤ 0x200A) || n == 0x2028 || n == 0x2029 || n == 0x202F || n == 0x205F ||
  n == 0x3000

/-- The characters without the leading ones that satisfy `p`. -/
def dropLeading (p : Char → Bool) (cs : List Char) : List Char := cs.dropWhile p

/-- The characters without the trailing ones that satisfy `p`. -/
def dropTrailing (p : Char → Bool) (cs : List Char) : List Char :=
  (cs.reverse.dropWhile p).reverse

/-- The characters without the blanks at their two ends. -/
def trimChars (cs : List Char) : List Char := dropTrailing isBlank (dropLeading isBlank cs)

/-- A text without the blanks at its two ends. -/
def trim (s : String) : String := String.ofList (trimChars s.toList)

end HttpProbe.Text
