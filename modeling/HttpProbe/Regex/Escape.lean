/-
**Escapes.**

A backslash makes a letter stand for a character, for a set of characters, or for a place between
characters.

Main definitions:

* `Regex.Atom` — what a single character or an escape stands for;
* `Regex.readEscape` — what stands after a backslash.
-/

import HttpProbe.Decimal.Reading
import HttpProbe.Regex.Flags
import HttpProbe.Text.Search

set_option autoImplicit false
set_option relaxedAutoImplicit false

namespace HttpProbe.Regex

open HttpProbe.Unicode

/-! ### Escapes -/

/-- What a single character or an escape stands for. -/
inductive Atom where
  | char (c : Char)
  | octet (n : Nat)
  | set (s : CodeSet)
  | dot
  | look (l : Look)

/-- The character with a code point. -/
def charOf? (n : Nat) : Except Fault Char :=
  if n.isValidChar then .ok (Char.ofNat n) else .error .malformed

/-- A fixed number of hexadecimal digits. -/
def readHexDigits (f : Flags) : Nat → Nat → List Char → Except Fault (Nat × List Char)
  | 0, acc, cs => .ok (acc, cs)
  | _ + 1, _, [] => .error .malformed
  | n + 1, acc, c :: cs =>
    match CodeSet.hexDigit? c with
    | some d => readHexDigits f n (acc * 16 + d) (f.gap cs)
    | none => .error .malformed

/-- The characters up to a closing brace, and what follows it. -/
def readBraced (f : Flags) : Nat → List Char → List Char → Except Fault (List Char × List Char)
  | 0, _, _ => .error .malformed
  | _ + 1, _, [] => .error .malformed
  | fuel + 1, acc, c :: cs =>
    if c.toNat = 0x7D then .ok (acc.reverse, cs)
    else readBraced f fuel (c :: acc) (f.gap cs)

/-- The code point written after `x`, `u` or `U`. -/
def readHex (f : Flags) (letter : Char) (cs : List Char) : Except Fault (Atom × List Char) :=
  match f.gap cs with
  | [] => .error .malformed
  | c :: rest =>
    if c.toNat = 0x7B then do
      let (digits, rest) ← readBraced f (rest.length + 1) [] (f.gap rest)
      match Decimal.readNat? 16 digits with
      | none => .error .malformed
      | some n => do
        let ch ← charOf? n
        .ok (.char ch, f.gap rest)
    else do
      let count := if letter = 'x' then 2 else if letter = 'u' then 4 else 8
      let (n, rest) ← readHexDigits f count 0 (c :: rest)
      let ch ← charOf? n
      .ok (if letter = 'x' then .octet n else .char ch, rest)

/-- Cuts a text at the first place where `sep` occurs. -/
def cutAt? (sep : List Char) : List Char → Option (List Char × List Char)
  | [] => none
  | c :: cs =>
    match Text.after? sep (c :: cs) with
    | some rest => some ([], rest)
    | none => (cutAt? sep cs).map fun p => (c :: p.1, p.2)

/-- The property named between braces, and whether it is denied there. -/
def namedProperty (name : List Char) : Option CodeSet × Bool :=
  match cutAt? ['!', '='] name with
  | some (p, v) => (propertyValue? p v, true)
  | none => match cutAt? [':'] name with
    | some (p, v) => (propertyValue? p v, false)
    | none => match cutAt? ['='] name with
      | some (p, v) => (propertyValue? p v, false)
      | none => (property? name, false)

/-- A property after `p` or `P`. -/
def readProperty (f : Flags) (negated : Bool) (cs : List Char) :
    Except Fault (Atom × List Char) := do
  let (found, rest) ← match f.gap cs with
    | [] => .error Fault.malformed
    | c :: rest =>
      if c.toNat = 0x7B then do
        let (name, rest) ← readBraced f (rest.length + 1) [] (f.gap rest)
        .ok (namedProperty name, rest)
      else if c.toNat = 0x5C then .error Fault.malformed
      else .ok ((property? [c], false), f.gap rest)
  match found with
  | (some s, denied) =>
    if f.unicode then do
      let s ← f.resolve (negated != denied) s
      .ok (.set s, rest)
    else .error .malformed
  | (none, _) => .error .malformed

/-- The characters that have a meaning of their own. -/
def isMeta (c : Char) : Bool :=
  [0x5C, 0x2E, 0x2B, 0x2A, 0x3F, 0x28, 0x29, 0x7C, 0x5B, 0x5D, 0x7B, 0x7D, 0x5E, 0x24, 0x23, 0x26,
    0x2D, 0x7E].contains c.toNat

/-- The characters of ASCII that stand for themselves after a backslash. -/
def isEscapable (c : Char) : Bool :=
  isMeta c || (c.toNat < 128 && !asciiWordSet.contains c.toNat && c != '<' && c != '>') || c = '_'

/-- The positions named between braces after `b`. -/
def namedLook? (unicode : Bool) (name : String) : Option Look :=
  match name with
  | "start" => some (.wordStart unicode)
  | "end" => some (.wordEnd unicode)
  | "start-half" => some (.noWordBefore unicode)
  | "end-half" => some (.noWordAfter unicode)
  | _ => none

/-- A character of a position's name. -/
def isLookLetter (c : Char) : Bool := c.isAlpha || c = '-'

/-- The letters of a position's name, and what follows. -/
def readLookName (f : Flags) : Nat → List Char → List Char → List Char × List Char
  | 0, acc, cs => (acc.reverse, cs)
  | _ + 1, acc, [] => (acc.reverse, [])
  | fuel + 1, acc, c :: cs =>
    if isLookLetter c then readLookName f fuel (c :: acc) (f.gap cs) else (acc.reverse, c :: cs)

/-- What follows `b`: the name of a position between braces, or a plain word boundary. -/
def readBoundary (f : Flags) (cs : List Char) : Except Fault (Atom × List Char) :=
  let plain : Except Fault (Atom × List Char) := .ok (.look (.boundary f.unicode), cs)
  match cs with
  | [] => plain
  | c :: rest =>
    if c.toNat != 0x7B then plain
    else match f.gap rest with
      | [] => .error .malformed
      | d :: more =>
        if !isLookLetter d then plain
        else
          let (name, after) := readLookName f (more.length + 2) [] (d :: more)
          match after with
          | [] => .error .malformed
          | e :: after =>
            if e.toNat != 0x7D then .error .malformed
            else match namedLook? f.unicode (String.ofList name) with
              | some l => .ok (.look l, after)
              | none => .error .malformed

/-- What stands after a backslash. -/
def readEscape (f : Flags) : List Char → Except Fault (Atom × List Char)
  | [] => .error .malformed
  | c :: cs =>
    if c = 'x' || c = 'u' || c = 'U' then readHex f c cs
    else if c = 'p' || c = 'P' then readProperty f (c = 'P') cs
    else if c = 'd' || c = 's' || c = 'w' then .ok (.set (letterSet f.unicode c), cs)
    else if c = 'D' || c = 'S' || c = 'W' then
      match f.negate? (letterSet f.unicode (Text.asciiLowerChar c)) with
      | some s => .ok (.set s, cs)
      | none => .error .malformed
    else if isEscapable c then .ok (.char c, cs)
    else match c with
      | 'a' => .ok (.char (Char.ofNat 7), cs)
      | 'f' => .ok (.char (Char.ofNat 12), cs)
      | 't' => .ok (.char '\t', cs)
      | 'n' => .ok (.char '\n', cs)
      | 'r' => .ok (.char '\r', cs)
      | 'v' => .ok (.char (Char.ofNat 11), cs)
      | 'A' => .ok (.look .textStart, cs)
      | 'z' => .ok (.look .textEnd, cs)
      | 'b' => readBoundary f cs
      | 'B' => .ok (.look (.inside f.unicode), cs)
      | '<' => .ok (.look (.wordStart f.unicode), cs)
      | '>' => .ok (.look (.wordEnd f.unicode), cs)
      | _ => .error .malformed

end HttpProbe.Regex
