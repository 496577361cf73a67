/-
**Reading a pattern.**

A pattern is read from left to right with the flags that hold at each place.  Flags set in a group
hold to its end; all else is resolved on the spot, so that what is read is a `Pattern` without
flags.

Main definitions:

* `Regex.Cursor`, `Regex.Part` — where the reader stands, and what it read;
* `Regex.readBody` — the alternatives up to the end of a group;
* `Regex.Source`, `Regex.read` — a whole pattern with the names of its groups.
-/

import HttpProbe.Decimal.Reading
import HttpProbe.Regex.Brackets

set_option autoImplicit false
set_option relaxedAutoImplicit false

namespace HttpProbe.Regex

open HttpProbe.Unicode

-- Powers are those of the core library, also where Mathlib is in scope.  A literal exponent needs its
-- type for that.
attribute [local instance (1100)] instPowNat

/-! ### Groups and repetitions -/

/-- Where the reader of a pattern stands: what is left, the flags, and the groups opened so far
with their names. -/
structure Cursor where
  rest : List Char
  flags : Flags
  groups : Nat
  names : List (Nat × String)

/-- A part of a sequence: its pattern, how deep it is nested, and whether it can be repeated. -/
structure Part where
  pattern : Pattern
  depth : Nat
  repeatable : Bool

/-- The pattern of a character or an escape. -/
def Atom.pattern (f : Flags) : Atom → Except Fault Pattern
  | .char c =>
    if f.unicode || c.toNat < 128 then .ok (.oneOf (f.fold (CodeSet.single c.toNat)))
    else .ok (.oneOf (CodeSet.single c.toNat))
  | .octet n =>
    if f.unicode || n < 128 then .ok (.oneOf (f.fold (CodeSet.single n))) else .error .malformed
  | .set s => .ok (.oneOf s)
  | .look l => .ok (.look l)
  | .dot =>
    if !f.unicode then .error .malformed
    else if f.dotAll then .ok (.oneOf (CodeSet.complement []))
    else if f.crlf then .ok (.oneOf (CodeSet.complement [⟨10, 10⟩, ⟨13, 13⟩]))
    else .ok (.oneOf (CodeSet.complement [⟨10, 10⟩]))

/-- The position that `^` stands for. -/
def Flags.startLook (f : Flags) : Look :=
  if f.multiLine then (if f.crlf then .crlfStart else .lineStart) else .textStart

/-- The position that `$` stands for. -/
def Flags.endLook (f : Flags) : Look :=
  if f.multiLine then (if f.crlf then .crlfEnd else .lineEnd) else .textEnd

/-- A character or an escape outside brackets. -/
def readAtom (f : Flags) : List Char → Except Fault (Atom × List Char)
  | [] => .error .malformed
  | c :: cs =>
    if c.toNat = 0x5C then readEscape f cs
    else if c = '.' then .ok (.dot, cs)
    else if c = '^' then .ok (.look f.startLook, cs)
    else if c = '$' then .ok (.look f.endLook, cs)
    else .ok (.char c, cs)

/-- A character that the name of a group may start with. -/
def isNameStart (c : Char) : Bool :=
  c = '_' || CodeSet.contains ((Unicode.property? "alphabetic").getD []) c.toNat

/-- A character that the name of a group may hold. -/
def isNameChar (c : Char) : Bool :=
  isNameStart c || c = '.' || c = '[' || c = ']' ||
    CodeSet.contains ((category? "n").getD []) c.toNat

/-- The name of a group, up to `>`. -/
def readGroupName (cs : List Char) : Except Fault (String × List Char) :=
  match cutAt? ['>'] cs with
  | none => .error .malformed
  | some ([], _) => .error .malformed
  | some (c :: more, rest) =>
    if isNameStart c && more.all isNameChar then .ok (String.ofList (c :: more), rest)
    else .error .malformed

/-- The flags between `(?` and the character that ends them. -/
def readFlags (f : Flags) (negated : Bool) (seen : List Char) :
    List Char → Except Fault (Flags × List Char × List Char)
  | [] => .error .malformed
  | c :: cs =>
    if c = ':' || c = ')' then
      if seen.head? = some '-' then .error .malformed else .ok (f, seen, c :: cs)
    else if seen.contains c then .error .malformed
    else if c = '-' then readFlags f true (c :: seen) cs
    else match f.set? c (!negated) with
      | some g => readFlags g negated (c :: seen) cs
      | none => .error .malformed

/-- What an opening parenthesis starts. -/
inductive Opening where
  | flags (at' : Cursor)
  | group (at' : Cursor) (number : Option Nat)

/-- A group that is captured, perhaps under a name. -/
def openCapture (cur : Cursor) (name : Option String) (rest : List Char) :
    Except Fault Opening :=
  let n := cur.groups + 1
  match name with
  | none => .ok (.group { cur with rest := rest, groups := n } (some n))
  | some s =>
    if cur.names.any fun p => p.2 = s then .error .malformed
    else .ok (.group { cur with rest := rest, groups := n, names := (n, s) :: cur.names } (some n))

/-- What stands after an opening parenthesis. -/
def readOpening (cur : Cursor) : Except Fault Opening :=
  let rest := cur.flags.gap cur.rest
  match rest with
  | '?' :: '=' :: _ => .error .malformed
  | '?' :: '!' :: _ => .error .malformed
  | '?' :: '<' :: '=' :: _ => .error .malformed
  | '?' :: '<' :: '!' :: _ => .error .malformed
  | '?' :: 'P' :: '<' :: r => do
    let (name, r) ← readGroupName r
    openCapture cur (some name) r
  | '?' :: '<' :: r => do
    let (name, r) ← readGroupName r
    openCapture cur (some name) r
  | '?' :: r => do
    let (flags, seen, r) ← readFlags cur.flags false [] r
    match r with
    | ')' :: r =>
      if seen.isEmpty then .error .malformed
      else .ok (.flags { cur with rest := r, flags := flags })
    | _ => .ok (.group { cur with rest := r.drop 1, flags := flags } none)
  | _ => openCapture cur none rest

/-- Repeats the last of the parts; `lazyMark` says whether a question mark followed. -/
def repeatLast (f : Flags) (least : Nat) (most : Option Nat) (lazyMark : Bool) :
    List Part → Except Fault (List Part)
  | [] => .error .malformed
  | p :: ps =>
    if !p.repeatable then .error .malformed
    else
      .ok (⟨p.pattern.repeated least most (lazyMark == f.lazyFirst), p.depth + 1, true⟩ :: ps)

/-- Takes a question mark at the start. -/
def takeLazy : List Char → Bool × List Char
  | '?' :: cs => (true, cs)
  | cs => (false, cs)

/-- The decimal digits at the start, blanks and comments between them skipped where allowed. -/
def readDigits (f : Flags) : Nat → List Char → List Char → List Char × List Char
  | 0, acc, cs => (acc.reverse, cs)
  | fuel + 1, acc, cs =>
    match cs with
    | c :: rest =>
      if Decimal.isDigit c then readDigits f fuel (c :: acc) (f.gap rest) else (acc.reverse, cs)
    | [] => (acc.reverse, [])

/-- A count in a repetition, blanks around it skipped. -/
def readCount (f : Flags) (cs : List Char) : Option Nat × List Char :=
  let cs := cs.dropWhile Text.isBlank
  let (digits, rest) := readDigits f (cs.length + 1) [] cs
  let rest := (rest.dropWhile Text.isBlank)
  ((Decimal.readNat? 10 digits).bind fun n => if n < 2 ^ (32 : Nat) then some n else none, f.gap rest)

/-- The counts of a repetition after the opening brace, the mark of laziness included. -/
def readCounts (f : Flags) (cs : List Char) :
    Except Fault (Nat × Option Nat × Bool × List Char) := do
  let (least, rest) := readCount f (f.gap cs)
  let (least, most, rest) ← match least, rest with
    | some n, ',' :: rest =>
      let rest := f.gap rest
      match rest with
      | [] => .error Fault.malformed
      | c :: _ =>
        if c.toNat = 0x7D then .ok (n, none, rest)
        else match readCount f rest with
          | (some m, rest) => .ok (n, some m, rest)
          | (none, _) => .error Fault.malformed
    | some n, _ => .ok (n, some n, rest)
    | none, _ => .error Fault.malformed
  match rest with
  | c :: rest =>
    if c.toNat != 0x7D then .error .malformed
    else if most.any (· < least) then .error .malformed
    else
      let (isLazy, rest) := takeLazy (f.gap rest)
      .ok (least, most, isLazy, rest)
  | [] => .error .malformed

/-- The parts of a sequence, last one first, as one part. -/
def sealParts (parts : List Part) : Part :=
  let depth := (parts.map Part.depth).foldl max 0
  ⟨Pattern.inSequence ((parts.filter Part.repeatable).map Part.pattern).reverse,
    if parts.length < 2 then depth else depth + 1, true⟩

/-- The alternatives of a group, last one first, as one part. -/
def sealBranches (branches : List Part) : Part :=
  let depth := (branches.map Part.depth).foldl max 0
  ⟨Pattern.oneAmong (branches.map Part.pattern).reverse,
    if branches.length < 2 then depth else depth + 1, true⟩

/-- The group around an inner part. -/
def wrapGroup (number : Option Nat) (inner : Part) : Part :=
  match number with
  | some n => ⟨.capture n inner.pattern, inner.depth + 1, true⟩
  | none => ⟨inner.pattern, inner.depth + 1, true⟩

/-- The repetition that starts with a character. -/
def simpleCounts? (c : Char) : Option (Nat × Option Nat) :=
  if c = '?' then some (0, some 1)
  else if c = '*' then some (0, none)
  else if c = '+' then some (1, none)
  else none

/-- The alternatives up to the end of a group, which is left unread.  `branches` and `parts` hold
what was read before, last one first. -/
def readBody : Nat → List Part → List Part → Cursor → Except Fault (Part × Cursor)
  | 0, _, _, _ => .error .malformed
  | fuel + 1, branches, parts, cur =>
    let f := cur.flags
    let cs := f.gap cur.rest
    match cs with
    | [] => .ok (sealBranches (sealParts parts :: branches), { cur with rest := [] })
    | c :: rest =>
      if c = ')' then .ok (sealBranches (sealParts parts :: branches), { cur with rest := cs })
      else if c = '|' then
        readBody fuel (sealParts parts :: branches) [] { cur with rest := rest }
      else if c = '(' then do
        match ← readOpening { cur with rest := rest } with
        | .flags cur' => readBody fuel branches (⟨.empty, 0, false⟩ :: parts) cur'
        | .group cur' number =>
          let (inner, cur'') ← readBody fuel [] [] cur'
          match cur''.rest with
          | ')' :: rest =>
            readBody fuel branches (wrapGroup number inner :: parts)
              { cur'' with rest := rest, flags := f }
          | _ => .error .malformed
      else if c = '[' then do
        let (negated, m, rest) := openClass f rest
        let (v, rest) ← readClass f (rest.length + 2) negated none m rest
        readBody fuel branches (⟨.oneOf v.set, v.depth, true⟩ :: parts) { cur with rest := rest }
      else if c.toNat = 0x7B then do
        let (least, most, isLazy, rest) ← readCounts f rest
        let parts ← repeatLast f least most isLazy parts
        readBody fuel branches parts { cur with rest := rest }
      else match simpleCounts? c with
        | some (least, most) => do
          let (isLazy, rest) := takeLazy rest
          let parts ← repeatLast f least most isLazy parts
          readBody fuel branches parts { cur with rest := rest }
        | none => do
          let (a, rest) ← readAtom f cs
          let p ← a.pattern f
          readBody fuel branches (⟨p, 0, true⟩ :: parts) { cur with rest := rest }

/-! ### Whole patterns -/

/-- A pattern with the number of its groups and the names some of them have. -/
structure Source where
  pattern : Pattern
  groups : Nat
  names : List (Nat × String)

/-- How deep a pattern may be nested. -/
def depthLimit : Nat := 250

/-- The pattern that a text is. -/
def read (text : String) : Except Fault Source := do
  let cs := text.toList
  let (part, cur) ← readBody (cs.length + 1) [] [] ⟨cs, Flags.start, 0, []⟩
  if !cur.rest.isEmpty || depthLimit < part.depth then .error .malformed
  else .ok ⟨part.pattern, cur.groups, cur.names⟩

end HttpProbe.Regex
