/-
**Sets of code points.**

A set of code points is a list of spans in ascending order, no two of which touch.  The tables of
this folder are written as texts of hexadecimal spans (`41-5a aa c0-d6`) and read once.

Main definitions:

* `Unicode.Span`, `Unicode.CodeSet` — a run of code points, and an ordered list of runs;
* `CodeSet.contains` — membership;
* `CodeSet.normalize` — any list of spans brought into order;
* `CodeSet.union`, `CodeSet.inter`, `CodeSet.diff`, `CodeSet.complement` — the set operations, the
  complement being taken in the characters (code points without surrogates);
* `CodeSet.ofText` — reading a table.
-/

set_option autoImplicit false
set_option relaxedAutoImplicit false

namespace HttpProbe.Unicode

/-- The code points from `lo` to `hi`, both included. -/
structure Span where
  lo : Nat
  hi : Nat
  deriving DecidableEq, Repr

/-- Spans in ascending order. -/
abbrev CodeSet := List Span

namespace CodeSet

/-- Is the code point in one of the spans?  The search ends at the first span above it. -/
def contains : CodeSet → Nat → Bool
  | [], _ => false
  | s :: rest, n => if n < s.lo then false else n ≤ s.hi || contains rest n

/-- Inserts a span by its lower end. -/
def insertSpan (s : Span) : CodeSet → CodeSet
  | [] => [s]
  | t :: rest => if s.lo ≤ t.lo then s :: t :: rest else t :: insertSpan s rest

/-- Joins the spans of an ordered list that touch or overlap; `cur` is the span in the making. -/
def merge (cur : Span) : CodeSet → CodeSet
  | [] => [cur]
  | t :: rest =>
    if t.lo ≤ cur.hi + 1 then merge ⟨cur.lo, max cur.hi t.hi⟩ rest else cur :: merge t rest

/-- The same code points as an ordered list of spans that do not touch. -/
def normalize (spans : List Span) : CodeSet :=
  match (spans.filter fun s => s.lo ≤ s.hi).mergeSort (fun a b => a.lo ≤ b.lo) with
  | [] => []
  | s :: rest => merge s rest

/-- The code points of either set. -/
def union (a b : CodeSet) : CodeSet := normalize (a ++ b)

/-- The gaps between the spans of an ordered list, from `start` up to the last code point. -/
def gaps (start : Nat) : CodeSet → CodeSet
  | [] => if start ≤ 0x10FFFF then [⟨start, 0x10FFFF⟩] else []
  | s :: rest =>
    if start < s.lo then ⟨start, s.lo - 1⟩ :: gaps (s.hi + 1) rest else gaps (s.hi + 1) rest

/-- The part of a span that is no surrogate. -/
def scalarSpans (s : Span) : List Span :=
  [⟨s.lo, min s.hi 0xD7FF⟩, ⟨max s.lo 0xE000, s.hi⟩].filter fun t => t.lo ≤ t.hi

/-- The characters outside the set. -/
def complement (a : CodeSet) : CodeSet := (gaps 0 a).flatMap scalarSpans

/-- The code points of both sets. -/
def inter (a b : CodeSet) : CodeSet :=
  normalize (a.flatMap fun s => b.filterMap fun t =>
    let lo := max s.lo t.lo
    let hi := min s.hi t.hi
    if lo ≤ hi then some ⟨lo, hi⟩ else none)

/-- The code points of the first set that are not in the second. -/
def diff (a b : CodeSet) : CodeSet := inter a (gaps 0 b)

/-- The set of one code point. -/
def single (n : Nat) : CodeSet := [⟨n, n⟩]

/-- How many code points there are. -/
def size (a : CodeSet) : Nat := a.foldl (fun n s => n + (s.hi + 1 - s.lo)) 0

/-- The value of a hexadecimal digit. -/
def hexDigit? (c : Char) : Option Nat :=
  let n := c.toNat
  if 48 ≤ n && n ≤ 57 then some (n - 48)
  else if 97 ≤ n && n ≤ 102 then some (n - 87)
  else if 65 ≤ n && n ≤ 70 then some (n - 55)
  else none

/-- Where the reader of a table stands: the lower end, once a hyphen was seen, and the number being
read. -/
structure Reading where
  lo : Option Nat
  num : Nat
  digits : Bool
  out : List Span

/-- The span that the reader has in hand, added to those before it. -/
def Reading.close (r : Reading) : Reading :=
  if r.digits then ⟨none, 0, false, ⟨r.lo.getD r.num, r.num⟩ :: r.out⟩ else ⟨none, 0, false, r.out⟩

/-- One character of a table. -/
def Reading.step (r : Reading) (c : Char) : Reading :=
  match hexDigit? c with
  | some d => { r with num := r.num * 16 + d, digits := true }
  | none => if c = '-' then { r with lo := some r.num, num := 0, digits := false } else r.close

/-- The set written in a table such as `41-5a aa`. -/
def ofText (s : String) : CodeSet :=
  (s.toList.foldl Reading.step ⟨none, 0, false, []⟩).close.out.reverse

end CodeSet

end HttpProbe.Unicode
