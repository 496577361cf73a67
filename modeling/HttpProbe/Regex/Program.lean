/-
**Programs for patterns.**

A pattern becomes a list of instructions that name their successors.  Where there is a choice the
preferred successor comes first.  A part that is repeated is laid down as often as it has to match,
and after that once more for each time that it may.

Main definitions:

* `Regex.Instr`, `Regex.Program` — instructions and programs;
* `Pattern.lay` — lays a pattern down in front of a given successor;
* `Regex.Program.ofPattern` — the program of a whole pattern.
-/

import HttpProbe.Regex.Pattern

set_option autoImplicit false
set_option relaxedAutoImplicit false

namespace HttpProbe.Regex

open HttpProbe.Unicode

/-- An instruction. -/
inductive Instr where
  | step (set : CodeSet) (next : Nat)
  | fork (first second : Nat)
  | mark (slot next : Nat)
  | check (l : Look) (next : Nat)
  | accept

/-- The instructions of a pattern. -/
abbrev Program := Array Instr

/-- Appends an instruction; its number comes first. -/
def Program.append (prog : Program) (i : Instr) : Nat × Program := (prog.size, prog.push i)

/-- A choice between going on with a part and leaving it. -/
def forkOf (greedy : Bool) (inner outer : Nat) : Instr :=
  if greedy then .fork inner outer else .fork outer inner

/-- A part that can be laid down in front of any successor. -/
abbrev Layer := Nat → Program → Nat × Program

/-- The part a number of times. -/
def Layer.copies (part : Layer) : Nat → Layer
  | 0, next, prog => (next, prog)
  | n + 1, next, prog =>
    let (start, prog) := part next prog
    copies part n start prog

/-- The part up to a number of times, each time nested in the one before. -/
def Layer.upTo (part : Layer) (greedy : Bool) (out : Nat) : Nat → Program → Nat × Program
  | 0, prog => (out, prog)
  | n + 1, prog =>
    let (inner, prog) := upTo part greedy out n prog
    let (start, prog) := part inner prog
    prog.append (forkOf greedy start out)

/-- The part at least once. -/
def Layer.onceOrMore (part : Layer) (greedy : Bool) : Layer := fun next prog =>
  let (loop, prog) := prog.append .accept
  let (start, prog) := part loop prog
  (start, prog.set! loop (forkOf greedy start next))

/-- The part any number of times, where it always consumes a character. -/
def Layer.anyTimes (part : Layer) (greedy : Bool) : Layer := fun next prog =>
  let (loop, prog) := prog.append .accept
  let (start, prog) := part loop prog
  (loop, prog.set! loop (forkOf greedy start next))

/-- The part or nothing. -/
def Layer.optional (part : Layer) (greedy : Bool) : Layer := fun next prog =>
  let (start, prog) := part next prog
  prog.append (forkOf greedy start next)

/-- The part between two counts. -/
def Layer.between (part : Layer) (advances greedy : Bool) (least : Nat) (most : Option Nat) :
    Layer := fun next prog =>
  match most, least with
  | none, 0 =>
    if advances then part.anyTimes greedy next prog
    else Layer.optional (part.onceOrMore greedy) greedy next prog
  | none, n + 1 =>
    let (start, prog) := part.onceOrMore greedy next prog
    part.copies n start prog
  | some m, n =>
    let (start, prog) := part.upTo greedy next (m - n) prog
    part.copies n start prog

mutual
/-- Lays a pattern down in front of a successor; the number of its first instruction comes first. -/
def Pattern.lay : Pattern → Layer
  | .empty => fun next prog => (next, prog)
  | .oneOf set => fun next prog => prog.append (.step set next)
  | .look l => fun next prog => prog.append (.check l next)
  | .times least most greedy p => Layer.between p.lay p.advances greedy least most
  | .capture g p => fun next prog =>
    let (stop, prog) := prog.append (.mark (2 * g + 1) next)
    let (start, prog) := p.lay stop prog
    prog.append (.mark (2 * g) start)
  | .sequence ps => layAll ps
  | .choice ps => layChoice ps

/-- Patterns one after the other. -/
def Pattern.layAll : List Pattern → Layer
  | [] => fun next prog => (next, prog)
  | p :: ps => fun next prog =>
    let (start, prog) := layAll ps next prog
    p.lay start prog

/-- One pattern or another. -/
def Pattern.layChoice : List Pattern → Layer
  | [] => fun _ prog => prog.append (.step [] 0)
  | [p] => p.lay
  | p :: q :: ps => fun next prog =>
    let (second, prog) := layChoice (q :: ps) next prog
    let (first, prog) := p.lay next prog
    prog.append (.fork first second)
end

/-- The program of a pattern, and where it starts.  The whole match is group zero. -/
def Program.ofPattern (p : Pattern) : Nat × Program :=
  Pattern.lay (.capture 0 p) 0 #[.accept]

end HttpProbe.Regex
