/-
**Folders.**

A folder holds files and other folders under paths.  A path is a list of steps: the name of an entry,
`.` for staying in place, `..` for going up, or nothing.  Whatever the step, it is taken from a folder.
A name is a text: entries whose names are not UTF-8 lie outside.

Main definitions:

* `Folder` — what lies under which path, each path once;
* `Folder.makeFolders`, `Folder.write` — adding entries;
* `Folder.childNames`, `Folder.below` — what lies in a folder, and what lies anywhere below it;
* `Folder.enter?`, `Folder.locate?` — taking one step, and several;
* `Folder.shown` — a path as it is shown.
-/

import HttpProbe.Text.Search

set_option autoImplicit false
set_option relaxedAutoImplicit false

namespace HttpProbe

/-- What lies under a path. -/
inductive Entry where
  | folder
  | file (content : List UInt8)
  deriving DecidableEq, Repr

/-- A path in a folder: the names from the folder down to an entry. -/
abbrev Path := List String

/-- A folder: the name it is shown with, and what lies in it under which path. -/
structure Folder where
  name : String
  entries : List (Path × Entry)
  nodup : (entries.map Prod.fst).Nodup

namespace Folder

/-! ### Building -/

/-- A folder with nothing in it. -/
def empty (name : String) : Folder := ⟨name, [], by simp⟩

/-- What lies under a path. -/
def entry? (f : Folder) (p : Path) : Option Entry :=
  if p = [] then some .folder else f.entries.lookup p

theorem nodup_replace {p : Path} {e : Entry} {entries : List (Path × Entry)}
    (h : (entries.map Prod.fst).Nodup) :
    (((entries.filter fun d => d.1 != p) ++ [(p, e)]).map Prod.fst).Nodup := by
  rw [List.map_append, List.nodup_append]
  refine ⟨h.sublist (List.filter_sublist.map Prod.fst), by simp, fun a ha b hb => ?_⟩
  obtain ⟨d, hd, rfl⟩ := List.mem_map.1 ha
  have hne : d.1 ≠ p := by simpa using (List.mem_filter.1 hd).2
  have hb : b = p := by simpa using hb
  exact hb ▸ hne

/-- Puts an entry under a path, in place of what lay there. -/
def put (f : Folder) (p : Path) (e : Entry) : Folder :=
  ⟨f.name, (f.entries.filter fun d => d.1 != p) ++ [(p, e)], nodup_replace f.nodup⟩

/-- Makes a folder unless something lies there. -/
def makeFolder (f : Folder) (p : Path) : Folder :=
  if (f.entry? p).isSome then f else f.put p .folder

/-- The paths on the way to a path, and itself. -/
def trail : Path → List Path
  | [] => []
  | name :: rest => [name] :: (trail rest).map (name :: ·)

/-- Makes a folder with the folders on the way to it. -/
def makeFolders (f : Folder) (p : Path) : Folder := (trail p).foldl makeFolder f

/-- Writes a file, and makes the folders on the way to it. -/
def write (f : Folder) (p : Path) (content : List UInt8) : Folder :=
  (f.makeFolders p.dropLast).put p (.file content)

/-! ### Looking -/

/-- The name under which an entry lies in a folder, if it lies in that folder. -/
def nameIn? (p : Path) (q : Path) : Option String :=
  match q.getLast? with
  | some name => if q.dropLast = p then some name else none
  | none => none

/-- The names of what lies in a folder. -/
def childNames (f : Folder) (p : Path) : List String :=
  (f.entries.map Prod.fst).filterMap (nameIn? p)

/-- The ways from a folder down to what lies below it. -/
def below (f : Folder) (p : Path) : List Path :=
  (f.entries.map Prod.fst).filterMap fun q =>
    if p.isPrefixOf q && p ≠ q then some (q.drop p.length) else none

/-- Is there a folder under the path? -/
def isFolder (f : Folder) (p : Path) : Bool := f.entry? p = some .folder

/-! ### Walking -/

/-- The step that stays in place. -/
def here : String := "."

/-- The step that goes up. -/
def up : String := ".."

/-- Takes a step from a folder.  What lies around the whole is not seen. -/
def enter? (f : Folder) (p : Path) (step : String) : Option Path :=
  if !f.isFolder p then none
  else if step = "" || step = here then some p
  else if step = up then if p = [] then none else some p.dropLast
  else if (f.entry? (p ++ [step])).isSome then some (p ++ [step])
  else none

/-- Takes several steps. -/
def locate? (f : Folder) (p : Path) : List String → Option Path
  | [] => some p
  | step :: rest =>
    match f.enter? p step with
    | some q => f.locate? q rest
    | none => none

/-! ### Texts -/

/-- The slash between two steps. -/
def separator : String := "/"

/-- The steps written in a text. -/
def steps (text : String) : List String :=
  (Text.splitChars (· = '/') text.toList).map String.ofList

/-- A path as it is shown. -/
def shown (f : Folder) (text : String) : String := f.name ++ separator ++ text

end Folder

end HttpProbe
