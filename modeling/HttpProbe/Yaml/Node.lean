/-
**From tokens to trees.**

A document is a tree of scalars, sequences and mappings.  A node may have an anchor, and an alias
stands for the node with its anchor.

Anchors have numbers: a new one gets the number of the names that are known by then.  So an anchor
whose name was used before can share its number with the next new name, and then the number is that of
the node that begins last.

Main definitions:

* `Yaml.Node` — the trees;
* `Yaml.Reader` — the tokens that are left, and the anchors met so far;
* `Reader.node` — reads a node.
-/

import HttpProbe.Yaml.Tokens

set_option autoImplicit false
set_option relaxedAutoImplicit false

namespace HttpProbe.Yaml

/-- A tree. -/
inductive Node where
  | scalar (tag : Option String) (text : String) (style : Style)
  | sequence (tag : Option String) (items : List Node)
  | mapping (tag : Option String) (entries : List (Node × Node))
  | alias (number : Nat)

/-- A node under the number of an anchor, and the number of the event with which it begins. -/
structure Anchored where
  number : Nat
  start : Nat
  node : Node

/-- The tokens that are left, the handles of tags, how many events there were, the numbers of the
known anchors, and their nodes. -/
structure Reader where
  tokens : List Token
  handles : List (String × String)
  events : Nat
  names : List (String × Nat)
  anchored : List Anchored

namespace Reader

/-! ### Tokens -/

/-- Past a token. -/
def next (r : Reader) : Reader := { r with tokens := r.tokens.tail }

/-- Past a number of events. -/
def count (r : Reader) (n : Nat) : Reader := { r with events := r.events + n }

/-- Is the next token one of these? -/
def isAt (r : Reader) (ts : List Token) : Bool := r.tokens.head?.any ts.contains

/-! ### Anchors and tags -/

/-- What stands in front of a node. -/
structure Label where
  anchor : Option String
  tag : Option String

/-- The tag with a handle. -/
def expand? (r : Reader) (handle suffix : String) : Option String :=
  if handle = "" then some suffix
  else (r.handles.lookup handle).map fun start => start ++ suffix

/-- Reads an anchor and a tag, in either order. -/
def label (r : Reader) : Option (Label × Reader) :=
  match r.tokens with
  | .anchor a :: .tag h s :: rest =>
    (r.expand? h s).map fun t => (⟨some a, some t⟩, { r with tokens := rest })
  | .anchor a :: rest => some (⟨some a, none⟩, { r with tokens := rest })
  | .tag h s :: .anchor a :: rest =>
    (r.expand? h s).map fun t => (⟨some a, some t⟩, { r with tokens := rest })
  | .tag h s :: rest => (r.expand? h s).map fun t => (⟨none, some t⟩, { r with tokens := rest })
  | _ => some (⟨none, none⟩, r)

/-- Gives a number to the anchor of a node that begins. -/
def register (r : Reader) (anchor : Option String) : Option Nat × Reader :=
  match anchor with
  | none => (none, r)
  | some a =>
    let n := r.names.length
    (some n, { r with names := (a, n) :: r.names.filter fun e => e.1 != a })

/-- Keeps a node under the number of its anchor. -/
def keep (r : Reader) (number : Option Nat) (start : Nat) (node : Node) : Reader :=
  match number with
  | none => r
  | some n => { r with anchored := ⟨n, start, node⟩ :: r.anchored }

/-- A scalar with its label. -/
def scalar (r : Reader) (l : Label) (text : String) (style : Style) : Node × Reader :=
  let start := r.events
  let (number, r) := r.register l.anchor
  let node := Node.scalar l.tag text style
  (node, (r.keep number start node).count 1)

/-- The label of a scalar that is written out: the tag `!` says nothing about it. -/
def Label.ofWritten (l : Label) : Label :=
  if l.tag = some "!" then { l with tag := none } else l

/-- The scalar that stands for nothing. -/
def nothing (r : Reader) (l : Label) : Node × Reader := r.scalar l "" .plain

/-- No label. -/
def Label.blank : Label := ⟨none, none⟩

/-! ### Nodes -/

mutual
/-- Reads a node.  A block may begin here if `block` holds; a sequence of the block style whose
entries are not indented, if `indentless` holds. -/
def node (block indentless : Bool) : Nat → Reader → Option (Node × Reader)
  | 0, _ => none
  | fuel + 1, r =>
    match r.tokens with
    | .alias a :: _ =>
      match r.names.lookup a with
      | none => none
      | some n => some (.alias n, r.next.count 1)
    | _ =>
      match r.label with
      | none => none
      | some (l, r) =>
        let start := r.events
        match r.tokens with
        | .blockEntry :: _ =>
          if indentless then
            let (number, r) := r.register l.anchor
            match indentlessItems fuel [] (r.count 1) with
            | none => none
            | some (items, r) =>
              let n := Node.sequence l.tag items
              some (n, (r.keep number start n).count 1)
          else if l.anchor.isSome || l.tag.isSome then some (r.nothing l)
          else none
        | .scalar text style :: _ => some (r.next.scalar l.ofWritten text style)
        | .flowSequence :: _ =>
          let (number, r) := r.register l.anchor
          match flowItems fuel true [] (r.next.count 1) with
          | none => none
          | some (items, r) =>
            let n := Node.sequence l.tag items
            some (n, (r.keep number start n).count 1)
        | .flowMapping :: _ =>
          let (number, r) := r.register l.anchor
          match flowEntries fuel true [] (r.next.count 1) with
          | none => none
          | some (entries, r) =>
            let n := Node.mapping l.tag entries
            some (n, (r.keep number start n).count 1)
        | .blockSequence :: _ =>
          if block then
            let (number, r) := r.register l.anchor
            match blockItems fuel [] (r.next.count 1) with
            | none => none
            | some (items, r) =>
              let n := Node.sequence l.tag items
              some (n, (r.keep number start n).count 1)
          else if l.anchor.isSome || l.tag.isSome then some (r.nothing l)
          else none
        | .blockMapping :: _ =>
          if block then
            let (number, r) := r.register l.anchor
            match blockEntries fuel [] (r.next.count 1) with
            | none => none
            | some (entries, r) =>
              let n := Node.mapping l.tag entries
              some (n, (r.keep number start n).count 1)
          else if l.anchor.isSome || l.tag.isSome then some (r.nothing l)
          else none
        | [] => none
        | _ :: _ => if l.anchor.isSome || l.tag.isSome then some (r.nothing l) else none

/-- Reads a node unless one of these tokens comes next: then nothing stands there. -/
def nodeUnless (block indentless : Bool) (ts : List Token) :
    Nat → Reader → Option (Node × Reader)
  | 0, _ => none
  | fuel + 1, r =>
    if r.tokens.isEmpty then none
    else if r.isAt ts then some (r.nothing .blank)
    else node block indentless fuel r

/-- Reads the value after a key: nothing if there is no mark of a value. -/
def valueUnless (block : Bool) (ts : List Token) : Nat → Reader → Option (Node × Reader)
  | 0, _ => none
  | fuel + 1, r =>
    match r.tokens with
    | [] => none
    | .value :: _ => nodeUnless block block ts fuel r.next
    | _ :: _ => some (r.nothing .blank)

/-- Reads the items of a sequence of the block style; `out` holds those before, last one first. -/
def blockItems : Nat → List Node → Reader → Option (List Node × Reader)
  | 0, _, _ => none
  | fuel + 1, out, r =>
    match r.tokens with
    | .blockEntry :: _ =>
      match nodeUnless true false [.blockEntry, .blockEnd] fuel r.next with
      | none => none
      | some (n, r) => blockItems fuel (n :: out) r
    | .blockEnd :: _ => some (out.reverse, r.next)
    | _ => none

/-- Reads the items of a sequence whose entries are not indented. -/
def indentlessItems : Nat → List Node → Reader → Option (List Node × Reader)
  | 0, _, _ => none
  | fuel + 1, out, r =>
    match r.tokens with
    | .blockEntry :: _ =>
      match nodeUnless true false [.blockEntry, .key, .value, .blockEnd] fuel r.next with
      | none => none
      | some (n, r) => indentlessItems fuel (n :: out) r
    | [] => none
    | _ :: _ => some (out.reverse, r)

/-- Reads the entries of a mapping of the block style. -/
def blockEntries : Nat → List (Node × Node) → Reader → Option (List (Node × Node) × Reader)
  | 0, _, _ => none
  | fuel + 1, out, r =>
    match r.tokens with
    | .key :: _ =>
      match nodeUnless true true [.key, .value, .blockEnd] fuel r.next with
      | none => none
      | some (k, r) =>
        match valueUnless true [.key, .value, .blockEnd] fuel r with
        | none => none
        | some (v, r) => blockEntries fuel ((k, v) :: out) r
    | .blockEnd :: _ => some (out.reverse, r.next)
    | _ => none

/-- Reads the items of a sequence in brackets.  An item with a mark of a key is a mapping of one
entry. -/
def flowItems : Nat → Bool → List Node → Reader → Option (List Node × Reader)
  | 0, _, _, _ => none
  | fuel + 1, first, out, r =>
    if r.isAt [.flowSequenceEnd] then some (out.reverse, r.next)
    else if !first && !r.isAt [.flowEntry] then none
    else
      let r := if first then r else r.next
      match r.tokens with
      | [] => none
      | .flowSequenceEnd :: _ => some (out.reverse, r.next)
      | .key :: _ =>
        match pair fuel (r.next.count 1) with
        | none => none
        | some (n, r) => flowItems fuel false (n :: out) r
      | _ :: _ =>
        match node false false fuel r with
        | none => none
        | some (n, r) => flowItems fuel false (n :: out) r

/-- Reads a mapping of one entry between the brackets of a sequence, after the mark of its key.  The
token after a missing key is passed over. -/
def pair : Nat → Reader → Option (Node × Reader)
  | 0, _ => none
  | fuel + 1, r =>
    let missing := r.isAt [.value, .flowEntry, .flowSequenceEnd]
    match nodeUnless false false [.value, .flowEntry, .flowSequenceEnd] fuel r with
    | none => none
    | some (k, r) =>
      match valueUnless false [.flowEntry, .flowSequenceEnd] fuel
          (if missing then r.next else r) with
      | none => none
      | some (v, r) => some (.mapping none [(k, v)], r.count 1)

/-- Reads the entries of a mapping in braces. -/
def flowEntries :
    Nat → Bool → List (Node × Node) → Reader → Option (List (Node × Node) × Reader)
  | 0, _, _, _ => none
  | fuel + 1, first, out, r =>
    if r.isAt [.flowMappingEnd] then some (out.reverse, r.next)
    else if !first && !r.isAt [.flowEntry] then none
    else
      let r := if first then r else r.next
      match r.tokens with
      | [] => none
      | .flowMappingEnd :: _ => some (out.reverse, r.next)
      | .key :: _ =>
        match nodeUnless false false [.value, .flowEntry, .flowMappingEnd] fuel r.next with
        | none => none
        | some (k, r) =>
          match valueUnless false [.flowEntry, .flowMappingEnd] fuel r with
          | none => none
          | some (v, r) => flowEntries fuel false ((k, v) :: out) r
      | _ :: _ =>
        match node false false fuel r with
        | none => none
        | some (k, r) =>
          let (v, r) := r.nothing .blank
          flowEntries fuel false ((k, v) :: out) r
end

end Reader

end HttpProbe.Yaml
