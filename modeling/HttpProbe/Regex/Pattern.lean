/-
**Patterns.**

A pattern is built from single characters out of a set, positions, repetitions, groups that are
captured, sequences and alternatives.  Flags and classes are gone: reading a pattern resolves them.

Main definitions:

* `Regex.Look`, `Look.holds` — the positions, and when the characters on both sides satisfy one;
* `Regex.Pattern` — patterns;
* `Pattern.isBlank` — a pattern that never consumes a character;
* `Pattern.advances` — a pattern that always consumes one;
* `Regex.Fault` — why a text is no pattern.
-/

import HttpProbe.Decimal.Layout
import HttpProbe.Unicode.Property

set_option autoImplicit false
set_option relaxedAutoImplicit false

namespace HttpProbe.Regex

open HttpProbe.Unicode

/-! ### Words -/

/-- The characters of a word: letters, marks, decimal digits, connectors and joiners. -/
def wordSet : CodeSet :=
  CodeSet.normalize
    ((property? "alphabetic").getD [] ++ (category? "m").getD [] ++ (category? "nd").getD [] ++
      (category? "pc").getD [] ++ (property? "joincontrol").getD [])

/-- The characters of a word among those of ASCII. -/
def asciiWordSet : CodeSet := [⟨48, 57⟩, ⟨65, 90⟩, ⟨95, 95⟩, ⟨97, 122⟩]

/-! ### Positions -/

/-- A condition on a position in a text. -/
inductive Look where
  | textStart
  | textEnd
  | lineStart
  | lineEnd
  | crlfStart
  | crlfEnd
  | boundary (unicode : Bool)
  | inside (unicode : Bool)
  | wordStart (unicode : Bool)
  | wordEnd (unicode : Bool)
  | noWordBefore (unicode : Bool)
  | noWordAfter (unicode : Bool)
  deriving DecidableEq, Repr

/-- Is there a character, and does it belong to a word? -/
def isWord (unicode : Bool) : Option Char → Bool
  | none => false
  | some c => CodeSet.contains (if unicode then wordSet else asciiWordSet) c.toNat

/-- Does the position between two characters satisfy the condition?  At an end of the text there is
no character. -/
def Look.holds (before after : Option Char) : Look → Bool
  | .textStart => before.isNone
  | .textEnd => after.isNone
  | .lineStart => before.isNone || before = some '\n'
  | .lineEnd => after.isNone || after = some '\n'
  | .crlfStart =>
    before.isNone || before = some '\n' || (before = some '\r' && after != some '\n')
  | .crlfEnd => after.isNone || after = some '\r' || (after = some '\n' && before != some '\r')
  | .boundary u => isWord u before != isWord u after
  | .inside u => isWord u before == isWord u after
  | .wordStart u => !isWord u before && isWord u after
  | .wordEnd u => isWord u before && !isWord u after
  | .noWordBefore u => !isWord u before
  | .noWordAfter u => !isWord u after

/-! ### Patterns -/

/-- A pattern; captured groups are numbered from one. -/
inductive Pattern where
  | empty
  | oneOf (set : CodeSet)
  | look (l : Look)
  | times (least : Nat) (most : Option Nat) (greedy : Bool) (p : Pattern)
  | capture (group : Nat) (p : Pattern)
  | sequence (ps : List Pattern)
  | choice (ps : List Pattern)

mutual
/-- Does the pattern never consume a character? -/
def Pattern.isBlank : Pattern → Bool
  | .empty => true
  | .oneOf _ => false
  | .look _ => true
  | .times _ _ _ p => p.isBlank
  | .capture _ p => p.isBlank
  | .sequence ps => allBlank ps
  | .choice ps => allBlank ps

/-- Does none of the patterns ever consume a character? -/
def Pattern.allBlank : List Pattern → Bool
  | [] => true
  | p :: ps => p.isBlank && allBlank ps
end

mutual
/-- Does the pattern consume a character whenever it matches? -/
def Pattern.advances : Pattern → Bool
  | .empty => false
  | .oneOf _ => true
  | .look _ => false
  | .times least _ _ p => least != 0 && p.advances
  | .capture _ p => p.advances
  | .sequence ps => anyAdvances ps
  | .choice ps => allAdvance ps

/-- Does one of the patterns always consume a character? -/
def Pattern.anyAdvances : List Pattern → Bool
  | [] => false
  | p :: ps => p.advances || anyAdvances ps

/-- Do all the patterns always consume a character? -/
def Pattern.allAdvance : List Pattern → Bool
  | [] => true
  | p :: ps => p.advances && allAdvance ps
end

/-- A repetition.  What never consumes a character is repeated once at most, nothing is left of a
pattern that is repeated no times, and once is the pattern itself. -/
def Pattern.repeated (least : Nat) (most : Option Nat) (greedy : Bool) (p : Pattern) : Pattern :=
  let least' := if p.isBlank then min least 1 else least
  let most' := if p.isBlank then some (min (most.getD 1) 1) else most
  if least' = 0 && most' = some 0 then .empty
  else if least' = 1 && most' = some 1 then p
  else .times least' most' greedy p

/-- Patterns one after the other. -/
def Pattern.inSequence : List Pattern → Pattern
  | [] => .empty
  | [p] => p
  | ps => .sequence ps

/-- One pattern or another, the earlier ones preferred. -/
def Pattern.oneAmong : List Pattern → Pattern
  | [] => .empty
  | [p] => p
  | ps => .choice ps

/-! ### Faults -/

/-- Why a text is no pattern. -/
inductive Fault where
  | malformed
  | tooLarge
  deriving DecidableEq, Repr

/-- The room that a pattern may take, in octets. -/
def roomLimit : Nat := 10485760

/-- The message of a fault. -/
def Fault.message : Fault → String
  | .malformed => "regex parse error:"
  | .tooLarge =>
    "Compiled regex exceeds size limit of " ++ Decimal.intText roomLimit ++ " bytes."

end HttpProbe.Regex
