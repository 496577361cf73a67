/-
**The text of a scalar.**

A scalar over several lines is folded: a single end of line between two words stands for a space, and
of several the first is left out.  Block scalars keep their indentation beyond the first line's, and
the literal ones all ends of lines.

Main definitions:

* `Yaml.Gap`, `Gap.join` — spaces and ends of lines between words, and what they stand for;
* `Yaml.readPlain`, `Yaml.readQuoted`, `Yaml.readBlock` — scalars without quotes, in quotes, and in
  blocks.

Texts are collected last character first.
-/

import HttpProbe.Yaml.Token

set_option autoImplicit false
set_option relaxedAutoImplicit false

namespace HttpProbe.Yaml

/-! ### Gaps -/

/-- Spaces and ends of lines between words: was there an end of line, the spaces before it, the first
end of line, and the others. -/
structure Gap where
  broken : Bool
  spaces : List Char
  first : List Char
  others : List Char

/-- Nothing between words. -/
def Gap.empty : Gap := ⟨false, [], [], []⟩

/-- An end of line that is not to be seen. -/
def Gap.hidden : Gap := ⟨true, [], [], []⟩

/-- A text with the gap after it. -/
def Gap.join (g : Gap) (out : List Char) : List Char :=
  if !g.broken then g.spaces ++ out
  else if g.first = ['\n'] then if g.others.isEmpty then ' ' :: out else g.others ++ out
  else g.others ++ (g.first ++ out)

/-- Reads a gap.  In front of the column `limit` no tab may indent a line. -/
def readGap (limit : Nat) : Nat → Gap → Cursor → Option (Gap × Cursor)
  | 0, _, _ => none
  | fuel + 1, g, c =>
    match c.rest with
    | [] => some (g, c)
    | ch :: _ =>
      if isSpace ch then
        if !g.broken then readGap limit fuel { g with spaces := ch :: g.spaces } c.skip
        else if ch = '\t' && c.column < limit then none
        else readGap limit fuel g c.skip
      else
        match c.skipBreak? with
        | none => some (g, c)
        | some (b, c) =>
          if g.broken then readGap limit fuel { g with others := b :: g.others } c
          else readGap limit fuel ⟨true, [], [b], []⟩ c

/-! ### Plain scalars -/

/-- A character that has a meaning of its own between the brackets of the flow style. -/
def isFlowMark (c : Char) : Bool :=
  c = ',' || c = '[' || c = ']' || c.toNat = 0x7B || c.toNat = 0x7D

/-- A colon that something follows at once which only the flow style knows. -/
def isTightColon : List Char → Bool
  | ':' :: c :: _ => isFlowMark c || c = '?'
  | _ => false

/-- Does a plain scalar end here? -/
def endsPlain (flow : Bool) : List Char → Bool
  | [] => true
  | c :: rest => isGap c || (c = ':' && atGap rest) || (flow && isFlowMark c)

/-- Reads the characters up to a gap or the end of the scalar; `g` is the gap before them. -/
def readWord (flow : Bool) :
    Nat → Gap → List Char → Cursor → Option (Gap × List Char × Cursor)
  | 0, _, _, _ => none
  | fuel + 1, g, out, c =>
    match c.rest with
    | [] => some (g, out, c)
    | ch :: _ =>
      if isGap ch then some (g, out, c)
      else if flow && isTightColon c.rest then none
      else if endsPlain flow c.rest then some (g, out, c)
      else readWord flow fuel .empty (ch :: g.join out) c.skip

/-- Reads a plain scalar, and tells whether it ends in a gap with an end of line.  Outside the flow
style it goes on only in lines that begin at the column `indent` or after it. -/
def readPlain (flow : Bool) (indent : Nat) :
    Nat → Gap → List Char → Cursor → Option (List Char × Bool × Cursor)
  | 0, _, _, _ => none
  | fuel + 1, g, out, c =>
    if c.atDocumentMark || c.isAt '#' then some (out, g.broken, c)
    else
      match readWord flow (fuel + 1) g out c with
      | none => none
      | some (g, out, c) =>
        if c.rest.isEmpty || !atGap c.rest then some (out, g.broken, c)
        else
          match readGap indent (fuel + 1) .empty c with
          | none => none
          | some (g, c) =>
            if !flow && c.column < indent then some (out, g.broken, c)
            else readPlain flow indent fuel g out c

/-! ### Quoted scalars -/

/-- The number written with hexadecimal digits. -/
def readHex : Nat → Nat → Cursor → Option (Nat × Cursor)
  | 0, n, c => some (n, c)
  | k + 1, n, c =>
    match c.rest with
    | [] => none
    | ch :: _ =>
      match hexDigit? ch with
      | none => none
      | some d => readHex k (n * 16 + d) c.skip

/-- What a character after a backslash stands for. -/
def escapes : List (Char × Nat) :=
  [('0', 0), ('a', 7), ('b', 8), ('t', 9), ('\t', 9), ('n', 10), ('v', 11), ('f', 12), ('r', 13),
    ('e', 27), (' ', 32), (doubleQuote, 34), ('/', 47), (backslash, 92), ('N', 0x85), ('_', 0xA0),
    ('L', 0x2028), ('P', 0x2029)]

/-- The number of digits after a character that stands for a code point. -/
def codeLengths : List (Char × Nat) := [('x', 2), ('u', 4), ('U', 8)]

/-- Reads what follows a backslash. -/
def readEscape (c : Cursor) : Option (Char × Cursor) :=
  match c.rest with
  | [] => none
  | ch :: _ =>
    match escapes.lookup ch with
    | some n => some (Char.ofNat n, c.skip)
    | none =>
      match codeLengths.lookup ch with
      | none => none
      | some k =>
        match readHex k 0 c.skip with
        | none => none
        | some (n, c) =>
          if (0xD800 ≤ n && n ≤ 0xDFFF) || 0x10FFFF < n then none else some (Char.ofNat n, c)

/-- Reads a scalar in quotes up to the closing one. -/
def readQuoted (single : Bool) : Nat → List Char → Cursor → Option (List Char × Cursor)
  | 0, _, _ => none
  | fuel + 1, out, c =>
    if c.atDocumentMark then none
    else
      match c.rest with
      | [] => none
      | ch :: more =>
        if single && ch = quote then
          if more.head? = some quote then readQuoted single fuel (quote :: out) c.skip.skip
          else some (out, c.skip)
        else if !single && ch = doubleQuote then some (out, c.skip)
        else if !single && ch = backslash then
          match c.skip.skipBreak? with
          | some (_, c) =>
            match readGap 0 (fuel + 1) .hidden c with
            | none => none
            | some (g, c) => readQuoted single fuel (g.join out) c
          | none =>
            match readEscape c.skip with
            | none => none
            | some (e, c) => readQuoted single fuel (e :: out) c
        else if isGap ch then
          match readGap 0 (fuel + 1) .empty c with
          | none => none
          | some (g, c) => readQuoted single fuel (g.join out) c
        else readQuoted single fuel (ch :: out) c.skip

/-! ### Block scalars -/

/-- What becomes of the ends of lines after a block scalar. -/
inductive Chomping where
  | strip
  | clip
  | keep
  deriving DecidableEq, Repr

/-- The sign of a way of chomping. -/
def Chomping.ofSign? (c : Char) : Option Chomping :=
  if c = '+' then some .keep else if c = '-' then some .strip else none

/-- Reads an indentation of one digit, which is not zero. -/
def readIndentation (c : Cursor) : Option (Nat × Cursor) :=
  match c.rest with
  | [] => some (0, c)
  | ch :: _ =>
    if ch = '0' then none
    else if ch.isDigit then some (ch.toNat - 48, c.skip)
    else some (0, c)

/-- Reads a sign of chomping, if there is one. -/
def readChomping (c : Cursor) : Option Chomping × Cursor :=
  match c.rest.head?.bind Chomping.ofSign? with
  | some k => (some k, c.skip)
  | none => (none, c)

/-- Reads the sign and the indentation of a block scalar, in either order. -/
def readBlockHeader (c : Cursor) : Option (Chomping × Nat × Cursor) :=
  match readChomping c with
  | (some k, c) =>
    match readIndentation c with
    | none => none
    | some (n, c) => some (k, n, c)
  | (none, c) =>
    match readIndentation c with
    | none => none
    | some (0, c) => some (.clip, 0, c)
    | some (n, c) =>
      let (k, c) := readChomping c
      some (k.getD .clip, n, c)

/-- Reads empty lines and the indentation of the line after them.  With `indent` zero the indentation
is not known yet; `deepest` is the greatest column reached so far. -/
def readBreaks (indent : Nat) :
    Nat → Nat → List Char → Cursor → Option (Nat × List Char × Cursor)
  | 0, _, _, _ => none
  | fuel + 1, deepest, breaks, c =>
    let c := if indent = 0 then c.skipWhile (· = ' ')
      else c.skipUpTo (· = ' ') (indent - c.column)
    let deepest := max deepest c.column
    if c.isAt '\t' && (indent = 0 || c.column < indent) then none
    else
      match c.skipBreak? with
      | none => some (deepest, breaks, c)
      | some (b, c) => readBreaks indent fuel deepest (b :: breaks) c

/-- The lines of a block scalar read so far: its text, the last end of line, and the empty lines after
it. -/
structure Lines where
  out : List Char
  last : List Char
  empty : List Char

/-- The text in front of one more line. -/
def Lines.join (l : Lines) (fold : Bool) : List Char :=
  if fold && l.last = ['\n'] then
    if l.empty.isEmpty then ' ' :: l.out else l.empty ++ l.out
  else l.empty ++ (l.last ++ l.out)

/-- Reads the lines of a block scalar; `spaced` tells whether the line before began with a space. -/
def readLines (folded : Bool) (indent : Nat) :
    Nat → Bool → Lines → Cursor → Option (Lines × Cursor)
  | 0, _, _, _ => none
  | fuel + 1, spaced, l, c =>
    match c.rest with
    | [] => some (l, c)
    | ch :: _ =>
      if c.column != indent then some (l, c)
      else
        let here := isSpace ch
        let out := l.join (folded && !spaced && !here)
        let (line, c) := c.span fun ch => !isBreak ch
        let out := line.reverseAux out
        let (last, c) := match c.skipBreak? with
          | some (b, c) => ([b], c)
          | none => ([], c)
        match readBreaks indent (fuel + 1) 0 [] c with
        | none => none
        | some (_, breaks, c) => readLines folded indent fuel here ⟨out, last, breaks⟩ c

/-- The text of a block scalar with what is kept of the ends of lines after it. -/
def Lines.finish (l : Lines) : Chomping → List Char
  | .strip => l.out
  | .clip => l.last ++ l.out
  | .keep => l.empty ++ (l.last ++ l.out)

/-- Reads a block scalar after its mark, in a block that is indented by `parent`. -/
def readBlock (folded : Bool) (parent : Int) (fuel : Nat) (c : Cursor) :
    Option (List Char × Cursor) := do
  let (chomping, n, c) ← readBlockHeader c
  let c ← c.skipLineRest?
  let indent := if n = 0 then 0 else if 0 ≤ parent then parent.toNat + n else n
  let (deepest, breaks, c) ← readBreaks indent fuel 0 [] c
  let indent := if indent = 0 then max deepest (max (parent + 1).toNat 1) else indent
  let (l, c) ← readLines folded indent fuel false ⟨[], [], breaks⟩ c
  some (l.finish chomping, c)

end HttpProbe.Yaml
