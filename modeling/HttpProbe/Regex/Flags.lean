/-
**The flags of a pattern.**

Flags say how the places of a pattern are read: whether case counts, whether blanks and comments are
skipped, whether sets are of characters or of octets.

Main definitions:

* `Regex.Flags`, `Regex.Flags.set?` — the flags, and the letters that they are set by;
* `Regex.Flags.resolve` — a set of characters as the flags have it;
* `Regex.Flags.gap` — what follows once blanks and comments are skipped.
-/

import HttpProbe.Regex.Class
import HttpProbe.Text.Blank
import HttpProbe.Unicode.Fold

set_option autoImplicit false
set_option relaxedAutoImplicit false

namespace HttpProbe.Regex

open HttpProbe.Unicode

/-! ### Flags -/

/-- The flags that hold at a place of a pattern. -/
structure Flags where
  ignoreCase : Bool
  multiLine : Bool
  dotAll : Bool
  lazyFirst : Bool
  unicode : Bool
  crlf : Bool
  extended : Bool
  deriving DecidableEq, Repr

/-- The flags at the start of a pattern. -/
def Flags.start : Flags := ⟨false, false, false, false, true, false, false⟩

/-- Sets the flag with this letter. -/
def Flags.set? (f : Flags) (letter : Char) (value : Bool) : Option Flags :=
  match letter with
  | 'i' => some { f with ignoreCase := value }
  | 'm' => some { f with multiLine := value }
  | 's' => some { f with dotAll := value }
  | 'U' => some { f with lazyFirst := value }
  | 'u' => some { f with unicode := value }
  | 'R' => some { f with crlf := value }
  | 'x' => some { f with extended := value }
  | _ => none

/-- The set with the other cases of its members, where case is ignored. -/
def Flags.fold (f : Flags) (s : CodeSet) : CodeSet :=
  if f.ignoreCase then (if f.unicode then foldClosure s else asciiClosure s) else s

/-- The complement of a set; without Unicode it is taken in the octets, and has to stay in ASCII. -/
def Flags.negate? (f : Flags) (s : CodeSet) : Option CodeSet :=
  let s := CodeSet.normalize s
  if f.unicode then some (CodeSet.complement s)
  else
    let octets := CodeSet.inter (CodeSet.gaps 0 s) [⟨0, 255⟩]
    if octets.all fun t => t.hi ≤ 127 then some octets else none

/-- A set of a pattern: other cases added, then the complement taken if asked for. -/
def Flags.resolve (f : Flags) (negated : Bool) (s : CodeSet) : Except Fault CodeSet :=
  let folded := f.fold s
  if negated then
    match f.negate? folded with
    | some t => .ok t
    | none => .error .malformed
  else .ok folded

/-! ### Blanks and comments -/

/-- Skips blanks and comments; a comment runs from `#` to the end of the line. -/
def skipGap (inComment : Bool) : List Char → List Char
  | [] => []
  | c :: cs =>
    if inComment then skipGap (c != '\n') cs
    else if Text.isBlank c then skipGap false cs
    else if c = '#' then skipGap true cs
    else c :: cs

/-- What follows once blanks and comments are skipped, where the flags allow them. -/
def Flags.gap (f : Flags) (cs : List Char) : List Char := if f.extended then skipGap false cs else cs

/-- The first character of a comment, or the first one that is no blank. -/
def firstInk (inComment : Bool) : List Char → Option Char
  | [] => none
  | c :: cs =>
    if Text.isBlank c then firstInk inComment cs
    else if !inComment && c = '#' then firstInk true cs
    else some c

/-- The next character but one, blanks skipped where the flags allow them. -/
def Flags.peek (f : Flags) (cs : List Char) : Option Char :=
  if f.extended then (firstInk false (cs.drop 1)).orElse fun _ => (cs.drop 1).head?
  else (cs.drop 1).head?

end HttpProbe.Regex
