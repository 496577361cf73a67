/-
**The room that a pattern takes.**

A pattern is refused when the automaton built from it would be too large.  The room is counted in
octets: every state takes a fixed number, and every way out of a state a few more.  Repetitions
multiply.  A class beyond ASCII is spread over octets: each distinct beginning of the octets of one
of its blocks takes a state, where a block is a run of characters whose octets vary independently.

Main definitions:

* `Regex.blocks` — a span of characters cut into blocks;
* `Regex.classRoom` — the room of a class;
* `Regex.Pattern.room` — the room of a pattern.
-/

import HttpProbe.Regex.Pattern
import HttpProbe.Text.Utf8

set_option autoImplicit false
set_option relaxedAutoImplicit false

namespace HttpProbe.Regex

open HttpProbe.Unicode

-- Powers are those of the core library, also where Mathlib is in scope.
attribute [local instance (1100)] instPowNat

/-- The largest code points of one, two, three and four octets. -/
def octetBounds : List Nat := [0x7F, 0x7FF, 0xFFFF, 0x10FFFF]

/-- Cuts a span at the bounds of the number of octets. -/
def cutAtBounds (s : Span) : List Span :=
  octetBounds.foldr (fun bound (acc : List Span) =>
    acc.flatMap fun t =>
      if t.lo ≤ bound && bound < t.hi then [⟨t.lo, bound⟩, ⟨bound + 1, t.hi⟩] else [t]) [s]

/-- The first cut that makes the last octets of a span vary independently of those before. -/
def cutOnce? (s : Span) : Option (Span × Span) :=
  [6, 12, 18].findSome? fun k : Nat =>
    let m := 2 ^ k
    if s.lo / m = s.hi / m then none
    else if s.lo % m != 0 then
      let edge := s.lo / m * m + m
      some (⟨s.lo, edge - 1⟩, ⟨edge, s.hi⟩)
    else if s.hi % m != m - 1 then
      let edge := s.hi / m * m
      some (⟨s.lo, edge - 1⟩, ⟨edge, s.hi⟩)
    else none

/-- The blocks of a span whose characters have the same number of octets. -/
def blocks : Nat → Span → List Span
  | 0, s => [s]
  | fuel + 1, s =>
    if s.hi < 128 then [s]
    else match cutOnce? s with
      | some (a, b) => blocks fuel a ++ blocks fuel b
      | none => [s]

/-- The beginnings of the octets of a block, each with the least and the greatest character of the
block. -/
def beginnings (s : Span) : List (List UInt8 × List UInt8) :=
  let a := Text.encode [Char.ofNat s.lo]
  let b := Text.encode [Char.ofNat s.hi]
  (List.range a.length).map fun i => (a.take (i + 1), b.take (i + 1))

/-- How many neighbours in a list differ. -/
def countChanges (previous : List (List UInt8 × List UInt8)) :
    List (List UInt8 × List UInt8) → Nat
  | [] => 0
  | x :: xs => (if previous.contains x then 0 else 1) + countChanges (x :: previous.take 3) xs

/-- The room of a state. -/
def stateRoom : Nat := 32

/-- The room of a class of characters. -/
def classRoom (set : CodeSet) : Nat :=
  if set.all fun s => s.hi < 128 then
    match set with
    | [s] => if s.lo = s.hi then stateRoom else 2 * stateRoom + 8
    | _ => 2 * stateRoom + 8 * set.length
  else
    let cut := (set.flatMap cutAtBounds).flatMap (blocks 12)
    match cut with
    | [s] => if s.lo = s.hi then stateRoom * (beginnings s).length
      else 2 * stateRoom + 4 + stateRoom * (beginnings s).length
    | _ => 2 * stateRoom + 4 * cut.length + stateRoom * countChanges [] (cut.flatMap beginnings)

mutual
/-- The room of a pattern. -/
def Pattern.room : Pattern → Nat
  | .empty => stateRoom
  | .oneOf set => classRoom set
  | .look _ => stateRoom
  | .times least most _ p =>
    let one := p.room
    match most with
    | none => max least 1 * one + stateRoom + 8
    | some m => max least 1 * one + (m - least) * (one + stateRoom + 8)
  | .capture _ p => p.room + 2 * stateRoom
  | .sequence ps => roomOfAll ps
  | .choice ps => roomOfAll ps + 2 * stateRoom + 4 * ps.length

/-- The room of several patterns. -/
def Pattern.roomOfAll : List Pattern → Nat
  | [] => 0
  | p :: ps => p.room + roomOfAll ps
end

end HttpProbe.Regex
