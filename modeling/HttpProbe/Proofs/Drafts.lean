/-
**Drafts of definitions.**

A definition is read in two steps.  First the fields of a document are decoded, each with the form it must
have; what comes out is a draft.  Then the rules of the draft are settled: there must be either a chain or
groups.  What the fields of a document must be like for a draft is said here field by field, so a draft holds
the entries of its document, in their order and with repeated keys.

Main definitions:

* `Rule.Written`, `Detail.Written` — a node gives a rule, and details;
* `Draft`, `Draft.ofNode` — what the fields of a document give;
* `Draft.Written` — **a node gives a draft**;
* `Draft.settle` — a definition from a draft.

Main results:

* `Draft.written_of_yields` — a decoded draft is given by its node;
* `Definition.ofNode_eq` — a definition is a draft that is settled.
-/

import HttpProbe.Document.Definition
import HttpProbe.Proofs.Decoding

set_option autoImplicit false
set_option relaxedAutoImplicit false

namespace HttpProbe

open Yaml

/-! ### Rules -/

namespace Rule

/-- The entries of a mapping give a rule. -/
structure Given (nodes : List Anchored) (entries : List (Node × Node)) (r : Rule) : Prop where
  method : Field nodes (IsText nodes) entries "method" "GET" r.method
  path : Field nodes (IsText nodes) entries "path" "" r.path
  body : Field nodes (IsText nodes) entries "body" "" r.body
  headers : Field nodes (IsPairs nodes (IsText nodes)) entries "headers" [] r.headers
  followRedirects : Field nodes (IsTruth nodes) entries "follow_redirects" true r.followRedirects
  search : Field nodes (IsOptional nodes (IsText nodes)) entries "search" none r.search
  expression : Field nodes (IsText nodes) entries "expression" "" r.expression
  set : Field nodes (IsPairs nodes (IsScalar nodes)) entries "set" [] r.set

/-- A node gives a rule. -/
def Written (nodes : List Anchored) (n : Node) (r : Rule) : Prop :=
  ∃ entries, IsMapping nodes n entries ∧ Given nodes entries r

theorem written_of_yields {nodes : List Anchored} (n : Node) (r : Rule)
    (h : Decoder.Yields nodes (ofNode n) r) : Written nodes n r := by
  obtain ⟨found, hfound, h⟩ := Decoder.exists_of_yields_bind h
  obtain ⟨method, hmethod, h⟩ := Decoder.exists_of_yields_bind h
  obtain ⟨path, hpath, h⟩ := Decoder.exists_of_yields_bind h
  obtain ⟨body, hbody, h⟩ := Decoder.exists_of_yields_bind h
  obtain ⟨headers, hheaders, h⟩ := Decoder.exists_of_yields_bind h
  obtain ⟨follow, hfollow, h⟩ := Decoder.exists_of_yields_bind h
  obtain ⟨search, hsearch, h⟩ := Decoder.exists_of_yields_bind h
  obtain ⟨expression, hexpression, h⟩ := Decoder.exists_of_yields_bind h
  obtain ⟨set, hset, h⟩ := Decoder.exists_of_yields_bind h
  rw [Decoder.eq_of_yields_pure h]
  obtain ⟨entries, hmapping, hpart⟩ := Decoder.part_of_fields hfound
  have htext : ∀ (n : Node) (s : String), Decoder.Yields nodes (Decoder.text n) s → IsText nodes n s :=
    fun _ _ => Decoder.isText_of_yields
  refine ⟨entries, hmapping, ?_⟩
  exact {
    method := Decoder.field_of_yields (hpart _ (by decide)) htext hmethod
    path := Decoder.field_of_yields (hpart _ (by decide)) htext hpath
    body := Decoder.field_of_yields (hpart _ (by decide)) htext hbody
    headers := Decoder.field_of_yields (hpart _ (by decide))
      (fun _ _ => Decoder.isPairs_of_yields htext) hheaders
    followRedirects := Decoder.field_of_yields (hpart _ (by decide))
      (fun _ _ => Decoder.isTruth_of_yields) hfollow
    search := Decoder.field_of_yields (hpart _ (by decide))
      (fun _ _ => Decoder.isOptional_of_yields htext) hsearch
    expression := Decoder.field_of_yields (hpart _ (by decide)) htext hexpression
    set := Decoder.field_of_yields (hpart _ (by decide))
      (fun _ _ => Decoder.isPairs_of_yields fun _ _ => Decoder.isScalar_of_yields) hset }

end Rule

/-! ### Details -/

namespace Detail

/-- A node gives details. -/
def Written (nodes : List Anchored) (n : Node) (t : Detail) : Prop :=
  ∃ entries, IsMapping nodes n entries ∧
    Field nodes (IsOptional nodes (IsText nodes)) entries "author" none t.author ∧
    Field nodes (IsOptional nodes (IsText nodes)) entries "description" none t.description ∧
    Field nodes (IsList nodes (IsText nodes)) entries "links" [] t.links

theorem written_of_yields {nodes : List Anchored} (n : Node) (t : Detail)
    (h : Decoder.Yields nodes (ofNode n) t) : Written nodes n t := by
  obtain ⟨found, hfound, h⟩ := Decoder.exists_of_yields_bind h
  obtain ⟨author, hauthor, h⟩ := Decoder.exists_of_yields_bind h
  obtain ⟨description, hdescription, h⟩ := Decoder.exists_of_yields_bind h
  obtain ⟨links, hlinks, h⟩ := Decoder.exists_of_yields_bind h
  rw [Decoder.eq_of_yields_pure h]
  obtain ⟨entries, hmapping, hpart⟩ := Decoder.part_of_fields hfound
  have htext : ∀ (n : Node) (s : String), Decoder.Yields nodes (Decoder.text n) s → IsText nodes n s :=
    fun _ _ => Decoder.isText_of_yields
  refine ⟨entries, hmapping, ?_, ?_, ?_⟩
  · exact Decoder.field_of_yields (hpart _ (by decide)) (fun _ _ => Decoder.isOptional_of_yields htext)
      hauthor
  · exact Decoder.field_of_yields (hpart _ (by decide)) (fun _ _ => Decoder.isOptional_of_yields htext)
      hdescription
  · exact Decoder.field_of_yields (hpart _ (by decide)) (fun _ _ => Decoder.isList_of_yields htext) hlinks

end Detail

/-! ### Drafts -/

/-- What the fields of a document give; nothing is asked of it yet. -/
structure Draft where
  name : String
  set : List (String × String)
  rules : Option (List Rule)
  groups : Option (List (String × List Rule))
  detail : Detail
  deriving DecidableEq

namespace Draft

/-- A draft from a node. -/
def ofNode (n : Node) : Decoder Draft := do
  let f ← Decoder.fields ["name", "set", "rules", "groups", "detail"] n
  let name ← Decoder.needed f "name" Decoder.text
  let set ← Decoder.field f "set" (Decoder.pairs Decoder.text) []
  let rules ← Decoder.field f "rules" (Decoder.optional (Decoder.list Rule.ofNode)) none
  let groups ← Decoder.field f "groups"
    (fun n => some <$> Decoder.pairs (Decoder.list Rule.ofNode) n) none
  let detail ← Decoder.field f "detail" Detail.ofNode Detail.blank
  pure ⟨name, set, rules, groups, detail⟩

/-- The entries of a mapping give a draft.  Rules that are nothing are none; groups that are nothing are
groups without entries. -/
structure Given (nodes : List Anchored) (entries : List (Node × Node)) (t : Draft) : Prop where
  name : ∃ n, Part nodes entries "name" (some n) ∧ IsText nodes n t.name
  set : Field nodes (IsPairs nodes (IsText nodes)) entries "set" [] t.set
  rules : Field nodes (IsOptional nodes (IsList nodes (Rule.Written nodes))) entries "rules" none t.rules
  groups : Field nodes
    (fun n groups => ∃ gs, groups = some gs ∧ IsPairs nodes (IsList nodes (Rule.Written nodes)) n gs)
    entries "groups" none t.groups
  detail : Field nodes (Detail.Written nodes) entries "detail" Detail.blank t.detail

/-- **A node gives a draft.** -/
def Written (nodes : List Anchored) (n : Node) (t : Draft) : Prop :=
  ∃ entries, IsMapping nodes n entries ∧ Given nodes entries t

theorem written_of_yields {nodes : List Anchored} {n : Node} {t : Draft}
    (h : Decoder.Yields nodes (ofNode n) t) : Written nodes n t := by
  obtain ⟨found, hfound, h⟩ := Decoder.exists_of_yields_bind h
  obtain ⟨name, hname, h⟩ := Decoder.exists_of_yields_bind h
  obtain ⟨set, hset, h⟩ := Decoder.exists_of_yields_bind h
  obtain ⟨rules, hrules, h⟩ := Decoder.exists_of_yields_bind h
  obtain ⟨groups, hgroups, h⟩ := Decoder.exists_of_yields_bind h
  obtain ⟨detail, hdetail, h⟩ := Decoder.exists_of_yields_bind h
  rw [Decoder.eq_of_yields_pure h]
  obtain ⟨entries, hmapping, hpart⟩ := Decoder.part_of_fields hfound
  have htext : ∀ (n : Node) (s : String), Decoder.Yields nodes (Decoder.text n) s → IsText nodes n s :=
    fun _ _ => Decoder.isText_of_yields
  have hchain : ∀ (n : Node) (rules : List Rule), Decoder.Yields nodes (Decoder.list Rule.ofNode n) rules →
      IsList nodes (Rule.Written nodes) n rules :=
    fun _ _ => Decoder.isList_of_yields Rule.written_of_yields
  refine ⟨entries, hmapping, ?_⟩
  exact {
    name := Decoder.given_of_yields (hpart _ (by decide)) htext hname
    set := Decoder.field_of_yields (hpart _ (by decide)) (fun _ _ => Decoder.isPairs_of_yields htext) hset
    rules := Decoder.field_of_yields (hpart _ (by decide))
      (fun _ _ => Decoder.isOptional_of_yields hchain) hrules
    groups := by
      refine Decoder.field_of_yields (hpart _ (by decide)) (fun n x hx => ?_) hgroups
      obtain ⟨gs, hgs, rfl⟩ := Decoder.exists_of_yields_map hx
      exact ⟨gs, rfl, Decoder.isPairs_of_yields hchain hgs⟩
    detail := Decoder.field_of_yields (hpart _ (by decide)) Detail.written_of_yields hdetail }

/-! ### Settling -/

/-- A definition from a draft, of which there must be either a chain or groups. -/
def settle (t : Draft) : Decoder Definition :=
  match RuleSet.ofParts t.name t.rules t.groups with
  | .ok rules => pure ⟨t.name, t.set, rules, t.detail⟩
  | .error m => Decoder.condition m

end Draft

/-- **A definition is a draft that is settled.** -/
theorem Definition.ofNode_eq (n : Node) : Definition.ofNode n = Draft.ofNode n >>= Draft.settle := by
  have hsteps : Draft.ofNode n >>= Draft.settle = Definition.ofNode n := by
    simp only [Draft.ofNode, bind_assoc, pure_bind]
    rfl
  exact hsteps.symm

/-- Where the fields of a document decode, its definition is what becomes of the draft. -/
theorem Definition.decode_of_draft {text : String} {t : Draft}
    (h : Decoder.decode Draft.ofNode text = .ok t) :
    Decoder.decode Definition.ofNode text =
      match RuleSet.ofParts t.name t.rules t.groups with
      | .ok rules => .ok ⟨t.name, t.set, rules, t.detail⟩
      | .error m => .error (.condition m) := by
  rw [Decoder.decode] at h ⊢
  cases hread : Document.read text.toList with
  | none =>
      rw [hread] at h
      cases h
  | some doc =>
      rw [hread] at h
      have hstep : Definition.ofNode doc.root doc.anchored (doc.events * 100) =
          (Draft.ofNode doc.root doc.anchored (doc.events * 100)).bind fun r =>
            r.1.settle doc.anchored r.2 := by
        rw [Definition.ofNode_eq]
        rfl
      simp only [hstep]
      cases hdraft : Draft.ofNode doc.root doc.anchored (doc.events * 100) with
      | error f =>
          simp only [hdraft] at h
          cases h
      | ok r =>
          simp only [hdraft] at h
          cases hcomplete : doc.complete with
          | false => simp [hcomplete] at h
          | true =>
              obtain rfl : r.1 = t := by simpa [hcomplete] using h
              simp only [Except.bind, Draft.settle]
              cases RuleSet.ofParts r.1.name r.1.rules r.1.groups <;> rfl

end HttpProbe
