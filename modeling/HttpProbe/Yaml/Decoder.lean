/-
**Decoding trees.**

A decoder makes a value of a node, or finds that the node is not of the right form.  Aliases are
followed where a value is needed; how often that may be done in a document depends on its size.

Main definitions:

* `Yaml.Decoder`, `Decoder.decode`, `Decoder.read` — decoders, and a text decoded by one;
* `Decoder.text`, `Decoder.bool`, `Decoder.natural`, `Decoder.scalar` — decoders of scalars;
* `Decoder.list`, `Decoder.pairs`, `Decoder.optional` — decoders of several nodes or none;
* `Decoder.fields`, `Decoder.field` — decoders of the parts of a mapping with known keys.
-/

import HttpProbe.Fault
import HttpProbe.Scalar
import HttpProbe.Yaml.Document
import HttpProbe.Yaml.Meaning

set_option autoImplicit false
set_option relaxedAutoImplicit false

namespace HttpProbe.Yaml

/-- Decoding knows the nodes with anchors, and counts down how many aliases may still be followed. -/
abbrev Decoder (α : Type) := ReaderT (List Anchored) (StateT Nat (Except DocumentFault)) α

namespace Decoder

variable {α : Type}

/-- The node is not of the right form. -/
def refuse : Decoder α := fun _ _ => .error .undecodable

/-- The document does not hold to a condition. -/
def condition (message : String) : Decoder α := fun _ _ => .error (.condition message)

/-! ### Aliases -/

/-- Of two nodes with one number, the one that begins last. -/
def later (a b : Anchored) : Anchored := if a.start < b.start then b else a

/-- The node under the number of an anchor. -/
def find? (number : Nat) (nodes : List Anchored) : Option Node :=
  match nodes.filter fun a => a.number = number with
  | [] => none
  | a :: rest => some (rest.foldl later a).node

/-- The node that an alias stands for. -/
def resolve (n : Node) : Decoder Node :=
  match n with
  | .alias number => fun nodes left =>
    match left, find? number nodes with
    | left + 1, some n => .ok (n, left)
    | _, _ => .error .undecodable
  | n => pure n

/-! ### Scalars -/

/-- Is the node a plain scalar without characters? -/
def isEmpty : Node → Bool
  | .scalar _ s .plain => s = ""
  | _ => false

/-- The text of a scalar. -/
def text (n : Node) : Decoder String := do
  match ← resolve n with
  | .scalar _ s _ => pure s
  | _ => refuse

/-- May the scalar be a value of the type with the tag?  A plain one may, and a literal one that has
the tag. -/
def mayBe (tag : String) (given : Option String) (style : Style) : Bool :=
  style = .plain || (style = .literal && given = some (coreTag tag))

/-- A truth value. -/
def bool (n : Node) : Decoder Bool := do
  match ← resolve n with
  | .scalar tag s style =>
    match bool? s with
    | some b => if mayBe "bool" tag style then pure b else refuse
    | none => refuse
  | _ => refuse

/-- A natural number of at most 64 bits. -/
def natural (n : Node) : Decoder Nat := do
  match ← resolve n with
  | .scalar tag s style =>
    match unsigned? (bounds 64).1 s.toList with
    | some k => if mayBe "int" tag style then pure k else refuse
    | none => refuse
  | _ => refuse

/-- The scalar that a meaning is.  An integer beyond the signed ones becomes a number of double
precision. -/
def ofMeaning? : Meaning → Option Scalar
  | .null => none
  | .bool b => some (.bool b)
  | .int n =>
    if n ≤ Int64.maxValue.toInt then some (.int (Int64.ofInt n))
    else some (.float (UInt64.ofNat n.toNat).toFloat)
  | .float x => some (.float x)
  | .text s => some (.text s)

/-- A scalar of any kind. -/
def scalar (n : Node) : Decoder Scalar := do
  match ← resolve n with
  | .scalar tag s style =>
    match (meaning? tag s style).bind ofMeaning? with
    | some v => pure v
    | none => refuse
  | _ => refuse

/-! ### Several nodes, or none -/

/-- A sequence; an empty scalar is one without items. -/
def list (d : Node → Decoder α) (n : Node) : Decoder (List α) := do
  match ← resolve n with
  | .sequence _ items => items.mapM d
  | n => if isEmpty n then pure [] else refuse

/-- A key with its value. -/
def pair (d : Node → Decoder α) (e : Node × Node) : Decoder (String × α) := do
  let k ← text e.1
  let v ← d e.2
  pure (k, v)

/-- The entries of a mapping in the order of the document; nothing is a mapping without entries. -/
def pairs (d : Node → Decoder α) (n : Node) : Decoder (List (String × α)) := do
  match ← resolve n with
  | .mapping tag entries => if tag.any isOwnTag then refuse else entries.mapM (pair d)
  | .scalar tag s style =>
    match meaning? tag s style with
    | some .null => pure []
    | _ => refuse
  | _ => refuse

/-- A node that may be nothing. -/
def optional (d : Node → Decoder α) (n : Node) : Decoder (Option α) := do
  let n ← resolve n
  match n with
  | .scalar none s .plain => if s = "" || isNull s then pure none else some <$> d n
  | .scalar (some tag) s .plain =>
    if tag = coreTag "null" then if isNull s then pure none else refuse
    else some <$> d n
  | n => some <$> d n

/-! ### Parts of a mapping -/

/-- The values of the known keys, each of which may appear once; other keys may have any value. -/
def select (known : List String) (found : List (String × Node)) :
    List (Node × Node) → Decoder (List (String × Node))
  | [] => pure found
  | (k, v) :: rest => do
    let name ← text k
    if !known.contains name then select known found rest
    else if found.any fun f => f.1 = name then refuse
    else select known ((name, v) :: found) rest

/-- The parts of a mapping with known keys; an empty scalar is a mapping without entries. -/
def fields (known : List String) (n : Node) : Decoder (List (String × Node)) := do
  match ← resolve n with
  | .mapping _ entries => select known [] entries
  | n => if isEmpty n then pure [] else refuse

/-- One part, or what stands for it if it is missing. -/
def field (found : List (String × Node)) (name : String) (d : Node → Decoder α) (default : α) :
    Decoder α :=
  match found.lookup name with
  | some n => d n
  | none => pure default

/-- One part that must not be missing. -/
def needed (found : List (String × Node)) (name : String) (d : Node → Decoder α) : Decoder α :=
  match found.lookup name with
  | some n => d n
  | none => refuse

/-! ### Texts -/

/-- A document decoded from a text.  What stands after the document is looked at last. -/
def decode (d : Node → Decoder α) (s : String) : Except DocumentFault α :=
  match Document.read s.toList with
  | none => .error .undecodable
  | some doc =>
    match d doc.root doc.anchored (doc.events * 100) with
    | .error f => .error f
    | .ok (a, _) => if doc.complete then .ok a else .error .undecodable

/-- A document decoded from a text, for a check. -/
def read (d : Node → Decoder α) (s : String) : Except Fault α :=
  match decode d s with
  | .ok a => .ok a
  | .error f => .error (.document f)

end Decoder

end HttpProbe.Yaml
