/-
**Extraction.**

A rule may search the body of a response with a pattern.  If the pattern matches, the texts of the
groups that took part become variables: a group with a name goes by its name, any other by its
number.

Main definitions:

* `ExtractFault` — why nothing was extracted;
* `Extraction.Patterns` — the patterns compiled so far;
* `Extraction.captures` — the variables that a match gives, in the order of the groups;
* `Extraction.extract` — searching, and writing the variables.
-/

import HttpProbe.Models
import HttpProbe.Regex.Match

set_option autoImplicit false
set_option relaxedAutoImplicit false

namespace HttpProbe

/-- Why nothing was extracted. -/
inductive ExtractFault where
  | noMatch
  | pattern (pattern message : String)
  deriving DecidableEq, Repr

/-- The wording of a fault. -/
def ExtractFault.message : ExtractFault → String
  | .noMatch => "pattern did not match"
  | .pattern p m => "invalid pattern '" ++ p ++ "': " ++ m

namespace Extraction

/-- The patterns compiled so far, by their texts. -/
abbrev Patterns := List (String × Regex.Matcher)

/-- A pattern ready to match, and the patterns compiled by then.  What cannot be compiled is not
kept. -/
def ready (kept : Patterns) (pattern : String) : Except ExtractFault Regex.Matcher × Patterns :=
  match kept.lookup pattern with
  | some r => (.ok r, kept)
  | none =>
    match Regex.compile pattern with
    | .error f => (.error (.pattern pattern f.message), kept)
    | .ok r => (.ok r, (pattern, r) :: kept)

/-- The variable that a group is written to. -/
def key (r : Regex.Matcher) (group : Nat) : String :=
  match r.name? group with
  | some name => name
  | none => "search." ++ String.ofList (Decimal.natText group)

/-- The texts of groups under their variables, the first of the groups being number `group`. -/
def capturesFrom (r : Regex.Matcher) (group : Nat) :
    List (Option String) → List (String × String)
  | [] => []
  | some text :: rest => (key r group, text) :: capturesFrom r (group + 1) rest
  | none :: rest => capturesFrom r (group + 1) rest

/-- The variables that the first match in a text gives. -/
def captures (r : Regex.Matcher) (text : String) : Except ExtractFault (List (String × String)) :=
  match r.captures? text with
  | none => .error .noMatch
  | some groups => .ok (capturesFrom r 1 groups.tail)

/-- Searches a text, and writes what the match gives. -/
def extract (kept : Patterns) (pattern text : String) (s : Scene) :
    Except ExtractFault Unit × Patterns × Scene :=
  match ready kept pattern with
  | (.error f, kept) => (.error f, kept, s)
  | (.ok r, kept) =>
    match captures r text with
    | .error f => (.error f, kept, s)
    | .ok found => (.ok (), kept, s.write found)

end Extraction

end HttpProbe
