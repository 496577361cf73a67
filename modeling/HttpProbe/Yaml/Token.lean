/-
**The tokens of a YAML text, and walking through its characters.**

Tokens stand for the structure of a text: those of the block style are made from the columns in which
lines begin, those of the flow style are written with brackets.

Main definitions:

* `Yaml.Token`, `Yaml.Style` — the tokens, and the ways to write a scalar;
* `Yaml.isAllowed`, `Yaml.isBreak` — the characters that may stand in a text, and those that end a
  line;
* `Yaml.Cursor` — what is left of a text, and where it begins.
-/

set_option autoImplicit false
set_option relaxedAutoImplicit false

namespace HttpProbe.Yaml

/-! ### Tokens -/

/-- The ways to write a scalar. -/
inductive Style where
  | plain
  | single
  | double
  | literal
  | folded
  deriving DecidableEq, Repr

/-- The tokens of a text. -/
inductive Token where
  | streamEnd
  | version (major minor : Nat)
  | shorthand (handle start : String)
  | documentStart
  | documentEnd
  | blockSequence
  | blockMapping
  | blockEnd
  | flowSequence
  | flowSequenceEnd
  | flowMapping
  | flowMappingEnd
  | blockEntry
  | flowEntry
  | key
  | value
  | alias (name : String)
  | anchor (name : String)
  | tag (handle suffix : String)
  | scalar (text : String) (style : Style)
  deriving DecidableEq, Repr

/-! ### Characters -/

/-- The single quote. -/
def quote : Char := Char.ofNat 39

/-- The double quote. -/
def doubleQuote : Char := Char.ofNat 34

/-- The backslash. -/
def backslash : Char := Char.ofNat 92

/-- The mark that may open a text and says nothing. -/
def byteOrderMark : Char := Char.ofNat 0xFEFF

/-- May the character stand in a text? -/
def isAllowed (c : Char) : Bool :=
  let n := c.toNat
  n = 9 || n = 10 || n = 13 || (0x20 ≤ n && n ≤ 0x7E) || n = 0x85 || (0xA0 ≤ n && n ≤ 0xD7FF) ||
  (0xE000 ≤ n && n ≤ 0xFFFD && n != 0xFEFF) || 0x10000 ≤ n

/-- Does the character end a line? -/
def isBreak (c : Char) : Bool :=
  let n := c.toNat
  n = 10 || n = 13 || n = 0x85 || n = 0x2028 || n = 0x2029

/-- A space or a tab. -/
def isSpace (c : Char) : Bool := c = ' ' || c = '\t'

/-- A space, a tab or the end of a line. -/
def isGap (c : Char) : Bool := isSpace c || isBreak c

/-- Is the text at an end or a gap? -/
def atGap : List Char → Bool
  | [] => true
  | c :: _ => isGap c

/-- A character of the name of an anchor, a tag or a directive. -/
def isWordChar (c : Char) : Bool := c.isAlphanum || c = '_' || c = '-'

/-- The value of a hexadecimal digit. -/
def hexDigit? (c : Char) : Option Nat :=
  if c.isDigit then some (c.toNat - 48)
  else if 'a' ≤ c && c ≤ 'f' then some (c.toNat - 87)
  else if 'A' ≤ c && c ≤ 'F' then some (c.toNat - 55)
  else none

/-! ### Cursors -/

/-- What is left of a text, and where it begins: the number of characters before it, its line and its
column. -/
structure Cursor where
  rest : List Char
  index : Nat
  line : Nat
  column : Nat

namespace Cursor

/-- The beginning of a text. -/
def start (cs : List Char) : Cursor := ⟨cs, 0, 0, 0⟩

/-- Past one character of the line. -/
def skip (c : Cursor) : Cursor :=
  { c with rest := c.rest.tail, index := c.index + 1, column := c.column + 1 }

/-- The characters of the line up to the first that does not satisfy `p`, and the cursor there. -/
def span (p : Char → Bool) (c : Cursor) : List Char × Cursor :=
  let taken := c.rest.takeWhile p
  (taken, { c with
    rest := c.rest.dropWhile p
    index := c.index + taken.length
    column := c.column + taken.length })

/-- Past the characters of the line that satisfy `p`. -/
def skipWhile (p : Char → Bool) (c : Cursor) : Cursor := (c.span p).2

/-- Past a number of characters of the line at most, as long as they satisfy `p`. -/
def skipUpTo (p : Char → Bool) : Nat → Cursor → Cursor
  | 0, c => c
  | n + 1, c =>
    match c.rest with
    | ch :: _ => if p ch then skipUpTo p n c.skip else c
    | [] => c

/-- Past the end of a line, and the character that stands for it. -/
def skipBreak? (c : Cursor) : Option (Char × Cursor) :=
  match c.rest with
  | [] => none
  | ch :: rest =>
    if isBreak ch then
      let shown := if ch.toNat = 0x2028 || ch.toNat = 0x2029 then ch else '\n'
      match ch, rest with
      | '\r', '\n' :: more => some (shown, ⟨more, c.index + 2, c.line + 1, 0⟩)
      | _, _ => some (shown, ⟨rest, c.index + 1, c.line + 1, 0⟩)
    else none

/-- Does the text go on with the character? -/
def isAt (c : Cursor) (ch : Char) : Bool := c.rest.head? = some ch

/-- Does a line begin here with three times the character and a gap? -/
def atMark (c : Cursor) (ch : Char) : Bool :=
  c.column = 0 &&
    match c.rest with
    | x :: y :: z :: rest => x = ch && y = ch && z = ch && atGap rest
    | _ => false

/-- Does a document begin or end here? -/
def atDocumentMark (c : Cursor) : Bool := c.atMark '-' || c.atMark '.'

/-- Past the spaces, and a comment, up to the end of the line. -/
def skipLineRest? (c : Cursor) : Option Cursor :=
  let c := c.skipWhile isSpace
  let c := if c.isAt '#' then c.skipWhile fun ch => !isBreak ch else c
  match c.rest with
  | [] => some c
  | _ :: _ => c.skipBreak?.map Prod.snd

end Cursor

end HttpProbe.Yaml
