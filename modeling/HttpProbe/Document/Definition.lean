/-
**Rules and definitions as documents.**

A definition is a mapping with a name, perhaps variables and details, and either rules or groups of
rules.  Variables, headers and groups keep the order of the document.

Main definitions:

* `Rule.ofNode`, `Definition.ofNode` — decoding;
* `Rule.read`, `Definition.read` — a rule and a definition from a text;
* `Scalar.readAll` — a list of scalars from a text.
-/

import HttpProbe.Rule
import HttpProbe.Yaml.Decoder

set_option autoImplicit false
set_option relaxedAutoImplicit false

namespace HttpProbe

open Yaml (Decoder Node)

/-- The keys of a rule. -/
def Rule.keys : List String :=
  ["method", "path", "body", "headers", "follow_redirects", "search", "expression", "set"]

/-- A rule from a node. -/
def Rule.ofNode (n : Node) : Decoder Rule := do
  let f ← Decoder.fields Rule.keys n
  let method ← Decoder.field f "method" Decoder.text Rule.default.method
  let path ← Decoder.field f "path" Decoder.text ""
  let body ← Decoder.field f "body" Decoder.text ""
  let headers ← Decoder.field f "headers" (Decoder.pairs Decoder.text) []
  let follow ← Decoder.field f "follow_redirects" Decoder.bool true
  let search ← Decoder.field f "search" (Decoder.optional Decoder.text) none
  let expression ← Decoder.field f "expression" Decoder.text ""
  let set ← Decoder.field f "set" (Decoder.pairs Decoder.scalar) []
  pure ⟨method, path, body, headers, follow, search, expression, set⟩

/-- Details from a node. -/
def Detail.ofNode (n : Node) : Decoder Detail := do
  let f ← Decoder.fields ["author", "description", "links"] n
  let author ← Decoder.field f "author" (Decoder.optional Decoder.text) none
  let description ← Decoder.field f "description" (Decoder.optional Decoder.text) none
  let links ← Decoder.field f "links" (Decoder.list Decoder.text) []
  pure ⟨author, description, links⟩

/-- The rules of a definition, of which there must be either a chain or groups. -/
def RuleSet.ofParts (name : String) (rules : Option (List Rule))
    (groups : Option (List (String × List Rule))) : Except String RuleSet :=
  match rules, groups with
  | some rules, none => .ok (.chain rules)
  | none, some groups => .ok (.groups (groups.map fun g => ⟨g.1, g.2⟩))
  | some _, some _ => .error ("'" ++ name ++ "' declares both rules and groups")
  | none, none => .error ("'" ++ name ++ "' declares neither rules nor groups")

/-- A definition from a node. -/
def Definition.ofNode (n : Node) : Decoder Definition := do
  let f ← Decoder.fields ["name", "set", "rules", "groups", "detail"] n
  let name ← Decoder.needed f "name" Decoder.text
  let set ← Decoder.field f "set" (Decoder.pairs Decoder.text) []
  let rules ← Decoder.field f "rules" (Decoder.optional (Decoder.list Rule.ofNode)) none
  let groups ← Decoder.field f "groups"
    (fun n => some <$> Decoder.pairs (Decoder.list Rule.ofNode) n) none
  let detail ← Decoder.field f "detail" Detail.ofNode Detail.blank
  match RuleSet.ofParts name rules groups with
  | .ok rules => pure ⟨name, set, rules, detail⟩
  | .error m => Decoder.condition m

/-! ### Texts -/

/-- A list of scalars from a text. -/
def Scalar.readAll (text : String) : Except Fault (List Scalar) :=
  Decoder.read (Decoder.list Decoder.scalar) text

/-- A rule from a text. -/
def Rule.read (text : String) : Except Fault Rule := Decoder.read Rule.ofNode text

/-- A definition from a text; it must be valid. -/
def Definition.read (text : String) : Except Fault Definition := do
  let d ← Decoder.read Definition.ofNode text
  d.validate
  .ok d

end HttpProbe
