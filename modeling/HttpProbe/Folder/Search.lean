/-
**Searching a folder.**

A pattern leads from a folder to the entries whose paths fit it.  What is found is listed in the order
of the paths.

Main definitions:

* `Folder.Place` — an entry, and the steps by which it was reached;
* `Folder.candidates`, `Folder.search` — following one part of a pattern, and all of them;
* `Folder.key`, `Folder.sortSteps` — the order of paths;
* `Folder.named` — the entries of a folder whose names end in a text.
-/

import HttpProbe.Folder.Basic
import HttpProbe.Folder.Pattern

set_option autoImplicit false
set_option relaxedAutoImplicit false

namespace HttpProbe.Folder

-- Lists are compared as in the core library, also where Mathlib is in scope.
attribute [local instance (1100)] List.instLE List.decidableLE

/-! ### Following a pattern -/

/-- An entry, and the steps by which it was reached. -/
structure Place where
  steps : List String
  path : Path
  deriving DecidableEq, Repr

/-- The steps after one more, unless it is nothing. -/
def addStep (steps : List String) (step : String) : List String :=
  if step = "" then steps else steps ++ [step]

/-- The place one step further, if there is one. -/
def Place.enter? (f : Folder) (p : Place) (step : String) : Option Place :=
  (f.enter? p.path step).map fun q => ⟨addStep p.steps step, q⟩

/-- The place of an entry below. -/
def Place.down (p : Place) (way : Path) : Place := ⟨p.steps ++ way, p.path ++ way⟩

/-- Does the last name of a way fit? -/
def endMatches (ts : List Token) (way : Path) : Bool :=
  match way.getLast? with
  | some name => matchesName ts name
  | none => false

/-- The steps that are no names, if the pattern begins with a dot and they fit. -/
def dotSteps (ts : List Token) : List String :=
  if ts.head? = some (.char '.') then [up, here].filter (matchesName ts) else []

/-- The places that a part of a pattern leads to.  A name without signs is a step; other patterns look
through the folder. -/
def candidates (f : Folder) (part : Part) (p : Place) : List Place :=
  if part.deep then
    ((f.below p.path).filter (endMatches part.tokens)).mergeSort.map p.down
  else
    match literal? part.tokens with
    | some step => (p.enter? f step).toList
    | none =>
      (dotSteps part.tokens).filterMap (p.enter? f) ++
        ((f.childNames p.path).filter (matchesName part.tokens)).mergeSort.map fun name =>
          p.down [name]

/-- The places that a pattern leads to. -/
def search (f : Folder) : List Part → Place → List Place
  | [], p => [p]
  | part :: rest, p => (f.candidates part p).flatMap (f.search rest)

/-! ### Order -/

/-- The steps of a path that count when paths are compared.  A step up comes before any name, as the
empty text does. -/
def key (steps : List String) : List String :=
  (steps.filter fun s => s ≠ "" && s ≠ here).map fun s => if s = up then "" else s

/-- The paths in order; paths that go the same way stay as they are. -/
def sortSteps (found : List (List String)) : List (List String) :=
  found.mergeSort fun a b => decide (key a ≤ key b)

/-! ### Entries by the ends of their names -/

/-- The steps of a folder's path, without a slash at the end. -/
def folderSteps (text : String) : List String :=
  let ss := steps text
  if ss.getLast? = some "" then ss.dropLast else ss

/-- The steps to the entries in the folder under a path whose names end in `ending`.  The path is
itself read as a pattern, and if it cannot be, nothing is answered. -/
def named? (f : Folder) (text ending : String) : Option (List (List String)) :=
  (parts? (folderSteps text ++ ["*" ++ ending])).map fun parts =>
    (f.search parts ⟨[], []⟩).map Place.steps

/-- The steps to the entries whose names end in one of several texts. -/
def namedAny? (f : Folder) (text : String) (endings : List String) :
    Option (List (List String)) :=
  (endings.mapM (f.named? text)).map List.flatten

end HttpProbe.Folder
