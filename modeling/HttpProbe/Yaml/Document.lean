/-
**Documents.**

A text holds one document: directives, a node, and perhaps a mark of its end.

Main definitions:

* `Yaml.Document` — the tree of a document, with the nodes that aliases stand for;
* `Document.read` — the first document of a text.
-/

import HttpProbe.Yaml.Node

set_option autoImplicit false
set_option relaxedAutoImplicit false

namespace HttpProbe.Yaml

/-- The tree of a document, the nodes with anchors, the number of its events, and whether the text
ends well after it. -/
structure Document where
  root : Node
  anchored : List Anchored
  events : Nat
  complete : Bool

namespace Document

/-- The handles of tags that need no directive. -/
def usualHandles : List (String × String) := [("!", "!"), ("!!", "tag:yaml.org,2002:")]

/-- Reads directives: at most one for the version, which must be known, and one for each handle. -/
def directives (versioned : Bool) (handles : List (String × String)) :
    List Token → Option (List (String × String) × List Token)
  | .version major minor :: rest =>
    if versioned || major != 1 || !(minor = 1 || minor = 2) then none
    else directives true handles rest
  | .shorthand handle start :: rest =>
    if handles.any fun h => h.1 = handle then none
    else directives versioned (handles ++ [(handle, start)]) rest
  | ts => some (handles ++ usualHandles, ts)

/-- Does a token show that a document holds nothing? -/
def endsDocument : Token → Bool
  | .version _ _ => true
  | .shorthand _ _ => true
  | .documentStart => true
  | .documentEnd => true
  | .streamEnd => true
  | _ => false

/-- Reads the node of a document. -/
def content (handles : List (String × String)) (ts : List Token) : Option (Node × Reader) :=
  Reader.node true false (4 * ts.length + 8) ⟨ts, handles, 0, [], []⟩

/-- Reads the node of a document that begins with directives or a mark. -/
def marked (ts : List Token) : Option (Node × Reader) :=
  match directives false [] ts with
  | some (handles, .documentStart :: rest) =>
    match rest with
    | t :: _ =>
      if endsDocument t then some (Reader.nothing ⟨rest, handles, 0, [], []⟩ .blank)
      else content handles rest
    | [] => none
  | _ => none

/-- Does a token show that a document begins with directives or a mark? -/
def isMarked : Token → Bool
  | .version _ _ => true
  | .shorthand _ _ => true
  | .documentStart => true
  | _ => false

/-- The first document of tokens.  A text without any is a document that holds nothing. -/
def ofTokens? (ts : List Token) : Option (Node × Reader) :=
  match ts with
  | [] => none
  | .streamEnd :: _ => some (Reader.nothing ⟨ts, [], 0, [], []⟩ .blank)
  | t :: _ => if isMarked t then marked ts else content usualHandles ts

/-- Is there nothing more after a document but marks of its end? -/
def isLast (ts : List Token) : Bool :=
  (ts.dropWhile (· = .documentEnd)).head? = some .streamEnd

/-- The first document of a text. -/
def read (cs : List Char) : Option Document :=
  let cs := if cs.head? = some byteOrderMark then cs.tail else cs
  if !cs.all isAllowed then none
  else
    match ofTokens? (tokens cs) with
    | none => none
    | some (root, r) => some ⟨root, r.anchored, r.events, isLast r.tokens⟩

end Document

end HttpProbe.Yaml
