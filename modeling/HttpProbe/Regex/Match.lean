/-
**Matching a pattern.**

All ways to match are followed at once, one character at a time, in the order of preference.  Each
way remembers the places where its groups began and ended.  Of two ways that reach the same
instruction at the same place the preferred one goes on, so the work is bounded by the length of
the text times the length of the program.  The match that is reported begins as far to the left as
possible, and among those it is the preferred one.

Main definitions:

* `Regex.Matcher`, `Regex.compile` — a pattern ready to match;
* `Regex.captures?` — the texts of the groups of the first match;
* `Regex.isMatch` — is there a match at all?
-/

import HttpProbe.Regex.Reading
import HttpProbe.Regex.Room
import HttpProbe.Regex.Program

set_option autoImplicit false
set_option relaxedAutoImplicit false

namespace HttpProbe.Regex

open HttpProbe.Unicode

/-! ### Threads -/

/-- The places that a way through the program has marked, last one first. -/
abbrev Trail := List (Nat × Nat)

/-- A way that waits for a character. -/
structure Thread where
  set : CodeSet
  next : Nat
  trail : Trail

/-- What is known at a place of the text: the threads that wait there, last one first, the trail of
a match that ended there, and at which place each instruction was last reached. -/
structure Front where
  threads : List Thread
  found : Option Trail
  reached : Array Nat

/-- Follows the instructions that consume nothing, preferred ones first, until a match is found or
nothing is left.  `place` is one more than the number of characters before. -/
def follow (prog : Program) (place : Nat) (before after : Option Char) :
    Nat → List (Nat × Trail) → Front → Front
  | 0, _, front => front
  | _ + 1, [], front => front
  | fuel + 1, (pc, trail) :: rest, front =>
    if front.reached.getD pc 0 = place then follow prog place before after fuel rest front
    else
      let front := { front with reached := front.reached.setIfInBounds pc place }
      match prog[pc]? with
      | none => follow prog place before after fuel rest front
      | some (.step set next) =>
        follow prog place before after fuel rest
          { front with threads := ⟨set, next, trail⟩ :: front.threads }
      | some (.fork a b) =>
        follow prog place before after fuel ((a, trail) :: (b, trail) :: rest) front
      | some (.mark slot next) =>
        follow prog place before after fuel ((next, (slot, place - 1) :: trail) :: rest) front
      | some (.check l next) =>
        follow prog place before after fuel
          (if l.holds before after then (next, trail) :: rest else rest) front
      | some .accept => { front with found := some trail }

/-- More than the number of instructions that one place can reach. -/
def reachFuel (prog : Program) : Nat := 2 * prog.size + 4

/-- The threads that a character lets through, in order, until one of them completes a match. -/
def advance (prog : Program) (place : Nat) (c : Char) (after : Option Char) :
    List Thread → Front → Front
  | [], front => front
  | t :: ts, front =>
    if CodeSet.contains t.set c.toNat then
      let front := follow prog place (some c) after (reachFuel prog) [(t.next, t.trail)] front
      if front.found.isSome then front else advance prog place c after ts front
    else advance prog place c after ts front

/-- Starts a new way at a place, behind those under way. -/
def launch (prog : Program) (start place : Nat) (before after : Option Char) (front : Front) :
    Front :=
  follow prog place before after (reachFuel prog) [(start, [])] front

/-- Goes on through the text.  Once a match is known no new way is started, and a match found later
belongs to a preferred way. -/
def search (prog : Program) (start : Nat) :
    List Char → Nat → Option Trail → List Thread → Array Nat → Option Trail
  | [], _, best, _, _ => best
  | c :: cs, place, best, threads, reached =>
    if best.isSome && threads.isEmpty then best
    else
      let after := cs.head?
      let front := advance prog (place + 1) c after threads ⟨[], none, reached⟩
      let best := front.found.orElse fun _ => best
      let front :=
        if best.isSome then front
        else launch prog start (place + 1) (some c) after front
      search prog start cs (place + 1) (front.found.orElse fun _ => best)
        front.threads.reverse front.reached

/-- The trail of the first match in a text. -/
def findTrail (prog : Program) (start : Nat) (cs : List Char) : Option Trail :=
  let front := launch prog start 1 none cs.head? ⟨[], none, Array.replicate prog.size 0⟩
  search prog start cs 1 front.found front.threads.reverse front.reached

/-! ### Patterns ready to match -/

/-- A pattern ready to match. -/
structure Matcher where
  groups : Nat
  names : List (Nat × String)
  start : Nat
  program : Program

/-- Reads a pattern and makes it ready. -/
def compile (text : String) : Except Fault Matcher := do
  let source ← read text
  if roomLimit < source.pattern.room then .error .tooLarge
  else
    let (start, program) := Program.ofPattern source.pattern
    .ok ⟨source.groups, source.names, start, program⟩

/-- The characters between two places. -/
def slice (cs : List Char) (lo hi : Nat) : String := String.ofList ((cs.drop lo).take (hi - lo))

/-- The text of a group, if it took part in the match. -/
def groupText (cs : List Char) (trail : Trail) (g : Nat) : Option String :=
  match trail.lookup (2 * g), trail.lookup (2 * g + 1) with
  | some lo, some hi => some (slice cs lo hi)
  | _, _ => none

/-- The texts of the groups of the first match, from group zero on. -/
def Matcher.captures? (r : Matcher) (text : String) : Option (List (Option String)) :=
  let cs := text.toList
  (findTrail r.program r.start cs).map fun trail =>
    (List.range (r.groups + 1)).map (groupText cs trail)

/-- Is there a match in the text? -/
def Matcher.isMatch (r : Matcher) (text : String) : Bool :=
  (findTrail r.program r.start text.toList).isSome

/-- The name of a group. -/
def Matcher.name? (r : Matcher) (group : Nat) : Option String := r.names.lookup group

end HttpProbe.Regex
