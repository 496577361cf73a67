/-
**Classes in brackets.**

Brackets hold characters, ranges, named classes and further brackets; two classes may be joined by
what both have, by what the left one has alone, or by what one of them has alone.

Main definitions:

* `Regex.Members`, `Regex.ClassValue` — a class while it is read, and once it is;
* `Regex.readClass` — what stands after an opening bracket.
-/

import HttpProbe.Regex.Escape

set_option autoImplicit false
set_option relaxedAutoImplicit false

namespace HttpProbe.Regex

open HttpProbe.Unicode

/-! ### Classes in brackets -/

/-- The members of a class read so far: the spans, how many members, and how deep they are
nested. -/
structure Members where
  spans : List Span
  count : Nat
  depth : Nat

/-- No members yet. -/
def Members.none : Members := ⟨[], 0, 0⟩

/-- One more member. -/
def Members.add (m : Members) (s : CodeSet) (depth : Nat) : Members :=
  ⟨s ++ m.spans, m.count + 1, max m.depth depth⟩

/-- A class and how deep it is nested. -/
structure ClassValue where
  set : CodeSet
  depth : Nat

/-- The members as one class. -/
def Members.value (m : Members) : ClassValue :=
  ⟨CodeSet.normalize m.spans, if m.count < 2 then m.depth else m.depth + 1⟩

/-- What two classes are joined by. -/
inductive Joint where
  | both
  | less
  | either
  deriving DecidableEq, Repr

/-- The class on the left of a joint, joined with the one on its right. -/
def joinClass (f : Flags) (left : Option (ClassValue × Joint)) (right : ClassValue) : ClassValue :=
  match left with
  | none => right
  | some (l, joint) =>
    let a := f.fold l.set
    let b := f.fold right.set
    let s := match joint with
      | .both => CodeSet.inter a b
      | .less => CodeSet.diff a b
      | .either => CodeSet.union (CodeSet.diff a b) (CodeSet.diff b a)
    ⟨s, max l.depth right.depth + 1⟩

/-- A single member of a class: its code point, if it is a character. -/
def Atom.code? (f : Flags) : Atom → Except Fault Nat
  | .char c => if f.unicode || c.toNat < 128 then .ok c.toNat else .error .malformed
  | .octet n => if f.unicode || n < 128 then .ok n else .error .malformed
  | _ => .error .malformed

/-- A single member of a class. -/
def Atom.members (f : Flags) : Atom → Except Fault CodeSet
  | .set s => .ok s
  | a => (a.code? f).map CodeSet.single

/-- A character or an escape in a class. -/
def readMember (f : Flags) : List Char → Except Fault (Atom × List Char)
  | [] => .error .malformed
  | c :: cs => if c.toNat = 0x5C then readEscape f cs else .ok (.char c, cs)

/-- A member of a class, or a range of members. -/
def readRange (f : Flags) (cs : List Char) : Except Fault (CodeSet × List Char) := do
  let (a, rest) ← readMember f cs
  let rest := f.gap rest
  let after := f.peek rest
  if rest.isEmpty then .error .malformed
  else if rest.head? != some '-' || after = some ']' || after = some '-' then do
    let s ← a.members f
    .ok (s, rest)
  else do
    let (b, rest) ← readMember f (f.gap (rest.drop 1))
    let lo ← a.code? f
    let hi ← b.code? f
    if lo ≤ hi then .ok ([⟨lo, hi⟩], rest) else .error .malformed

/-- A class of ASCII by its name, between `[:` and `:]`. -/
def readNamedClass? (cs : List Char) : Option (Bool × CodeSet × List Char) :=
  match cs with
  | '[' :: ':' :: rest =>
    let (negated, rest) := match rest with
      | '^' :: r => (true, r)
      | r => (false, r)
    match cutAt? [':'] rest with
    | some (name, ']' :: r) => (asciiClass? (String.ofList name)).map fun s => (negated, s, r)
    | _ => none
  | _ => none

/-- The hyphens at the start of a class. -/
def readHyphens (f : Flags) : Nat → Members → List Char → Members × List Char
  | 0, m, cs => (m, cs)
  | fuel + 1, m, cs =>
    match cs with
    | '-' :: rest => readHyphens f fuel (m.add (CodeSet.single 45) 0) (f.gap rest)
    | _ => (m, cs)

/-- The start of a class: is it negated, and the hyphens or the bracket that count as members
there. -/
def openClass (f : Flags) (cs : List Char) : Bool × Members × List Char :=
  let cs := f.gap cs
  let (negated, cs) := match cs with
    | '^' :: rest => (true, f.gap rest)
    | _ => (false, cs)
  let (m, cs) := readHyphens f (cs.length + 1) Members.none cs
  match m.count, cs with
  | 0, ']' :: rest => (negated, m.add (CodeSet.single 93) 0, f.gap rest)
  | _, _ => (negated, m, cs)

/-- A joint between two classes. -/
def joint? : List Char → Option (Joint × List Char)
  | '&' :: '&' :: rest => some (.both, rest)
  | '-' :: '-' :: rest => some (.less, rest)
  | '~' :: '~' :: rest => some (.either, rest)
  | _ => none

/-- The rest of a class after its start; `left` is what stands before the last joint. -/
def readClass (f : Flags) : Nat → Bool → Option (ClassValue × Joint) → Members → List Char →
    Except Fault (ClassValue × List Char)
  | 0, _, _, _, _ => .error .malformed
  | fuel + 1, negated, left, m, cs =>
    let cs := f.gap cs
    match cs with
    | [] => .error .malformed
    | '[' :: rest =>
      match readNamedClass? cs with
      | some (denied, s, rest) => do
        let s ← f.resolve denied s
        readClass f fuel negated left (m.add s 0) rest
      | none => do
        let (innerNegated, inner, rest) := openClass f rest
        let (v, rest) ← readClass f fuel innerNegated none inner rest
        readClass f fuel negated left (m.add v.set v.depth) rest
    | ']' :: rest => do
      let v := joinClass f left m.value
      let s ← f.resolve negated v.set
      .ok (⟨s, v.depth + 1⟩, rest)
    | _ =>
      match joint? cs with
      | some (joint, rest) =>
        readClass f fuel negated (some (joinClass f left m.value, joint)) Members.none rest
      | none => do
        let (s, rest) ← readRange f cs
        readClass f fuel negated left (m.add s 0) rest

end HttpProbe.Regex
