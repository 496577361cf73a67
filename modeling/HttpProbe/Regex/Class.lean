/-
**Classes of characters in patterns.**

The names that a class can have in a pattern: the letters `d`, `s`, `w`, the names between `[:` and
`:]`, and the properties between braces.  Property names are compared without regard to case,
spaces, hyphens, underscores and a leading `is`.

Main definitions:

* `Regex.letterSet` — `d`, `s` and `w`;
* `Regex.asciiClass?` — the named classes of ASCII;
* `Regex.plainName` — the form in which property names are compared;
* `Regex.property?`, `Regex.propertyValue?` — the sets of properties.
-/

import HttpProbe.Regex.Pattern
import HttpProbe.Text.Case
import HttpProbe.Unicode.Script

set_option autoImplicit false
set_option relaxedAutoImplicit false

namespace HttpProbe.Regex

open HttpProbe.Unicode

/-- Decimal digits, blanks or the characters of words, by the letter of the class. -/
def letterSet (unicode : Bool) (letter : Char) : CodeSet :=
  if letter = 'd' then (if unicode then (category? "nd").getD [] else [⟨48, 57⟩])
  else if letter = 's' then
    (if unicode then (Unicode.property? "whitespace").getD [] else [⟨9, 13⟩, ⟨32, 32⟩])
  else if unicode then wordSet else asciiWordSet

/-- The class of ASCII with this name. -/
def asciiClass? (name : String) : Option CodeSet :=
  match name with
  | "alnum" => some [⟨48, 57⟩, ⟨65, 90⟩, ⟨97, 122⟩]
  | "alpha" => some [⟨65, 90⟩, ⟨97, 122⟩]
  | "ascii" => some [⟨0, 127⟩]
  | "blank" => some [⟨9, 9⟩, ⟨32, 32⟩]
  | "cntrl" => some [⟨0, 31⟩, ⟨127, 127⟩]
  | "digit" => some [⟨48, 57⟩]
  | "graph" => some [⟨33, 126⟩]
  | "lower" => some [⟨97, 122⟩]
  | "print" => some [⟨32, 126⟩]
  | "punct" => some [⟨33, 47⟩, ⟨58, 64⟩, ⟨91, 96⟩, ⟨123, 126⟩]
  | "space" => some [⟨9, 13⟩, ⟨32, 32⟩]
  | "upper" => some [⟨65, 90⟩]
  | "word" => some asciiWordSet
  | "xdigit" => some [⟨48, 57⟩, ⟨65, 70⟩, ⟨97, 102⟩]
  | _ => none

/-! ### Properties -/

/-- The letters and digits of a property name, in small letters. -/
def bareName (cs : List Char) : List Char :=
  (cs.filter fun c => c != ' ' && c != '_' && c != '-' && c.toNat < 128).map Text.asciiLowerChar

/-- The form in which property names are compared.  A leading `is` does not count, but for the one
name `isc`. -/
def plainName (cs : List Char) : String :=
  match cs with
  | a :: b :: rest =>
    if (a = 'i' || a = 'I') && (b = 's' || b = 'S') then
      let name := bareName rest
      if name = ['c'] then "isc" else String.ofList name
    else String.ofList (bareName cs)
  | _ => String.ofList (bareName cs)

/-- The characters with the property of this name: a binary property, else a category, else a
script. -/
def property? (cs : List Char) : Option CodeSet :=
  let name := plainName cs
  let binary := if name = "cf" || name = "sc" || name = "lc" then none else Unicode.property? name
  (binary.orElse fun _ => category? name).orElse fun _ => script? name

/-- The characters for which a property with several values has the value of this name. -/
def propertyValue? (property value : List Char) : Option CodeSet :=
  let name := plainName property
  if name = "gc" || name = "generalcategory" then category? (plainName value)
  else if name = "sc" || name = "script" then script? (plainName value)
  else if name = "scx" || name = "scriptextensions" then scriptExtension? (plainName value)
  else none

end HttpProbe.Regex
