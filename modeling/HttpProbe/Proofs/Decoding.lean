/-
**What decoders make of a tree.**

A decoder that succeeds has found in the tree what it made of it.  Here the forms of nodes are described
without decoders: which node is a text, a list, a mapping with known keys.  An alias stands for the node with
its anchor.  The items of a list and the entries of a mapping are described one by one, in their order, so no
entry of the document is lost, none is added, and two entries with one key are two entries.

Main definitions:

* `Decoder.Yields` — a decoder makes a value of a node in a document;
* `Means` — what a node stands for;
* `IsText`, `IsTruth`, `IsScalar`, `IsList`, `IsPairs`, `IsOptional` — the forms of nodes;
* `Part`, `Field` — the value under a key, and what is made of it or stands for it.

Main results:

* `Decoder.isList_of_yields`, `Decoder.isPairs_of_yields` — **items and entries are decoded one by one**;
* `Decoder.part_of_fields` — the values of the known keys are found;
* `Decoder.yields_of_decode` — what is decoded from a text is made of the tree of its document.
-/

import HttpProbe.Yaml.Decoder
import Mathlib.Data.List.Forall2

set_option autoImplicit false
set_option relaxedAutoImplicit false

namespace HttpProbe.Yaml

/-! ### What decoders yield -/

/-- A result without its fault tells what was made. -/
theorem eq_ok_of_toOption {ε α : Type} {r : Except ε α} {a : α} (h : r.toOption = some a) : r = .ok a := by
  cases r with
  | ok b => exact congrArg Except.ok (Option.some.inj h)
  | error e => cases h

namespace Decoder

variable {α β : Type} {nodes : List Anchored}

/-- The decoder makes the value, however many aliases may still be followed. -/
def Yields (nodes : List Anchored) (d : Decoder α) (a : α) : Prop :=
  ∃ left left', d nodes left = .ok (a, left')

theorem eq_of_yields_pure {a b : α} (h : Yields nodes (pure a) b) : b = a := by
  obtain ⟨left, left', h⟩ := h
  cases h
  rfl

theorem not_yields_refuse {a : α} : ¬ Yields nodes refuse a := by
  rintro ⟨left, left', h⟩
  cases h

theorem exists_of_yields_bind {d : Decoder α} {f : α → Decoder β} {b : β}
    (h : Yields nodes (d >>= f) b) : ∃ a, Yields nodes d a ∧ Yields nodes (f a) b := by
  obtain ⟨left, left', h⟩ := h
  have hbind : (d >>= f) nodes left = (d nodes left).bind fun r => f r.1 nodes r.2 := rfl
  rw [hbind] at h
  cases hd : d nodes left with
  | error e =>
      rw [hd] at h
      cases h
  | ok r =>
      rw [hd] at h
      exact ⟨r.1, ⟨left, r.2, hd⟩, r.2, left', h⟩

theorem exists_of_yields_map {d : Decoder α} {g : α → β} {b : β} (h : Yields nodes (g <$> d) b) :
    ∃ a, Yields nodes d a ∧ b = g a := by
  rw [← bind_pure_comp] at h
  obtain ⟨a, hd, hb⟩ := exists_of_yields_bind h
  exact ⟨a, hd, eq_of_yields_pure hb⟩

/-- Several nodes are decoded one by one. -/
theorem forall₂_of_yields_mapM {γ : Type} {f : γ → Decoder α} {ns : List γ} {xs : List α}
    (h : Yields nodes (ns.mapM f) xs) : List.Forall₂ (fun n x => Yields nodes (f n) x) ns xs := by
  induction ns generalizing xs with
  | nil =>
      rw [List.mapM_nil] at h
      rw [eq_of_yields_pure h]
      exact .nil
  | cons n ns ih =>
      rw [List.mapM_cons] at h
      obtain ⟨x, hx, h⟩ := exists_of_yields_bind h
      obtain ⟨rest, hrest, h⟩ := exists_of_yields_bind h
      rw [eq_of_yields_pure h]
      exact .cons hx (ih hrest)

/-- What is decoded from a text is made of the tree of its document. -/
theorem yields_of_decode {d : Node → Decoder α} {s : String} {a : α} (h : decode d s = .ok a) :
    ∃ doc, Document.read s.toList = some doc ∧ doc.complete = true ∧
      Yields doc.anchored (d doc.root) a := by
  rw [decode] at h
  cases hread : Document.read s.toList with
  | none =>
      rw [hread] at h
      cases h
  | some doc =>
      rw [hread] at h
      refine ⟨doc, rfl, ?_⟩
      cases hd : d doc.root doc.anchored (doc.events * 100) with
      | error f =>
          simp only [hd] at h
          cases h
      | ok r =>
          simp only [hd] at h
          cases hcomplete : doc.complete with
          | false => simp [hcomplete] at h
          | true =>
              simp only [hcomplete, if_true, Except.ok.injEq] at h
              exact ⟨rfl, doc.events * 100, r.2, h ▸ hd⟩

end Decoder

/-! ### The forms of nodes -/

section Forms

variable (nodes : List Anchored)

/-- What a node stands for: an alias for the node with its anchor, any other for itself. -/
inductive Means : Node → Node → Prop
  | anchored {number : Nat} {n : Node} (h : Decoder.find? number nodes = some n) :
      Means (.alias number) n
  | scalar (tag : Option String) (s : String) (style : Style) :
      Means (.scalar tag s style) (.scalar tag s style)
  | sequence (tag : Option String) (items : List Node) : Means (.sequence tag items) (.sequence tag items)
  | mapping (tag : Option String) (entries : List (Node × Node)) :
      Means (.mapping tag entries) (.mapping tag entries)

/-- The node is a scalar with this text. -/
def IsText (n : Node) (s : String) : Prop := ∃ tag style, Means nodes n (.scalar tag s style)

/-- The node is a word for a truth value. -/
def IsTruth (n : Node) (b : Bool) : Prop :=
  ∃ tag s style, Means nodes n (.scalar tag s style) ∧ bool? s = some b

/-- The node is a scalar that means this one. -/
def IsScalar (n : Node) (v : Scalar) : Prop :=
  ∃ tag s style, Means nodes n (.scalar tag s style) ∧
    (meaning? tag s style).bind Decoder.ofMeaning? = some v

/-- The node is a plain scalar without characters. -/
def IsEmpty (n : Node) : Prop := ∃ tag, Means nodes n (.scalar tag "" .plain)

/-- The node is a scalar that means nothing. -/
def MeansNull (n : Node) : Prop :=
  ∃ tag s style, Means nodes n (.scalar tag s style) ∧ meaning? tag s style = some .null

variable {α : Type} (form : Node → α → Prop)

/-- **The node is a sequence of these**, one by one; an empty scalar is one of none. -/
inductive IsList (n : Node) : List α → Prop
  | items {tag : Option String} {items : List Node} {xs : List α} (h : Means nodes n (.sequence tag items))
      (hitems : List.Forall₂ form items xs) : IsList n xs
  | empty (h : IsEmpty nodes n) : IsList n []

/-- **The node is a mapping with these entries**, one by one; nothing is one without entries. -/
inductive IsPairs (n : Node) : List (String × α) → Prop
  | entries {tag : Option String} {entries : List (Node × Node)} {xs : List (String × α)}
      (h : Means nodes n (.mapping tag entries))
      (hentries : List.Forall₂ (fun e x => IsText nodes e.1 x.1 ∧ form e.2 x.2) entries xs) : IsPairs n xs
  | null (h : MeansNull nodes n) : IsPairs n []

/-- A node that stands for nothing where something may stand. -/
def IsNothing : Node → Prop
  | .scalar none s .plain => s = "" ∨ isNull s = true
  | .scalar (some tag) s .plain => tag = coreTag "null" ∧ isNull s = true
  | _ => False

/-- The node stands for nothing, or for something of a form. -/
inductive IsOptional (n : Node) : Option α → Prop
  | nothing {m : Node} (h : Means nodes n m) (hm : IsNothing m) : IsOptional n none
  | something {m : Node} {x : α} (h : Means nodes n m) (hm : ¬ IsNothing m) (hx : form m x) :
      IsOptional n (some x)

/-! ### Parts of a mapping -/

/-- The node is a mapping with these entries; an empty scalar is one without entries. -/
inductive IsMapping (n : Node) : List (Node × Node) → Prop
  | entries {tag : Option String} {entries : List (Node × Node)} (h : Means nodes n (.mapping tag entries)) :
      IsMapping n entries
  | empty (h : IsEmpty nodes n) : IsMapping n []

/-- The value under a key that is in a mapping once, or that it is not there. -/
def Part (entries : List (Node × Node)) (name : String) : Option Node → Prop
  | none => ∀ e ∈ entries, ¬ IsText nodes e.1 name
  | some v => ∃ before k after, entries = before ++ (k, v) :: after ∧ IsText nodes k name ∧
      ∀ e ∈ before ++ after, ¬ IsText nodes e.1 name

/-- What is made of the value under a key, or what stands for it if the key is missing. -/
inductive Field (entries : List (Node × Node)) (name : String) (default : α) : α → Prop
  | given {n : Node} {x : α} (h : Part nodes entries name (some n)) (hx : form n x) :
      Field entries name default x
  | missing (h : Part nodes entries name none) : Field entries name default default

end Forms

variable {nodes : List Anchored}

theorem Means.unique {n m m' : Node} (h : Means nodes n m) (h' : Means nodes n m') : m = m' := by
  cases h with
  | anchored hfind =>
      cases h' with
      | anchored hfind' => exact Option.some.inj (hfind.symm.trans hfind')
  | scalar => cases h'; rfl
  | sequence => cases h'; rfl
  | mapping => cases h'; rfl

theorem IsText.unique {n : Node} {s t : String} (h : IsText nodes n s) (h' : IsText nodes n t) : s = t := by
  obtain ⟨_, _, h⟩ := h
  obtain ⟨_, _, h'⟩ := h'
  cases h.unique h'
  rfl

/-! ### What decoders find -/

namespace Decoder

variable {α : Type} {form : Node → α → Prop} {d : Node → Decoder α}

theorem means_of_yields_resolve {n m : Node} (h : Yields nodes (resolve n) m) : Means nodes n m := by
  match n, h with
  | .scalar tag s style, h => rw [eq_of_yields_pure h]; exact .scalar tag s style
  | .sequence tag items, h => rw [eq_of_yields_pure h]; exact .sequence tag items
  | .mapping tag entries, h => rw [eq_of_yields_pure h]; exact .mapping tag entries
  | .alias number, ⟨left, left', h⟩ =>
      cases hfind : find? number nodes with
      | none => simp [resolve, hfind] at h
      | some found =>
          cases left with
          | zero => simp [resolve] at h
          | succ left =>
              simp only [resolve, hfind, Except.ok.injEq, Prod.mk.injEq] at h
              exact .anchored (h.1 ▸ hfind)

theorem isEmpty_of_means {n m : Node} (h : Means nodes n m) (hm : isEmpty m = true) : IsEmpty nodes n := by
  match m, h, hm with
  | .scalar tag s .plain, h, hm =>
      have hs : s = "" := by simpa [isEmpty] using hm
      exact ⟨tag, hs ▸ h⟩

/-- What is made of scalars only. -/
theorem exists_scalar_of_yields {f : Option String → String → Style → Decoder α} {n : Node} {a : α}
    (h : Yields nodes (resolve n >>= fun m => match m with
      | .scalar tag s style => f tag s style
      | _ => refuse) a) :
    ∃ tag s style, Means nodes n (.scalar tag s style) ∧ Yields nodes (f tag s style) a := by
  obtain ⟨m, hm, h⟩ := exists_of_yields_bind h
  have hmeans := means_of_yields_resolve hm
  split at h
  case h_1 tag s style => exact ⟨tag, s, style, hmeans, h⟩
  case h_2 => exact (not_yields_refuse h).elim

theorem isText_of_yields {n : Node} {s : String} (h : Yields nodes (text n) s) : IsText nodes n s := by
  obtain ⟨tag, t, style, hmeans, h⟩ := exists_scalar_of_yields h
  rw [eq_of_yields_pure h]
  exact ⟨tag, style, hmeans⟩

theorem isTruth_of_yields {n : Node} {b : Bool} (h : Yields nodes (bool n) b) : IsTruth nodes n b := by
  obtain ⟨tag, s, style, hmeans, h⟩ := exists_scalar_of_yields h
  cases hword : bool? s with
  | none =>
      simp only [hword] at h
      exact (not_yields_refuse h).elim
  | some word =>
      simp only [hword] at h
      split at h
      case isTrue =>
        rw [eq_of_yields_pure h]
        exact ⟨tag, s, style, hmeans, hword⟩
      case isFalse => exact (not_yields_refuse h).elim

theorem isScalar_of_yields {n : Node} {v : Scalar} (h : Yields nodes (scalar n) v) :
    IsScalar nodes n v := by
  obtain ⟨tag, s, style, hmeans, h⟩ := exists_scalar_of_yields h
  cases hmeaning : (meaning? tag s style).bind ofMeaning? with
  | none =>
      simp only [hmeaning] at h
      exact (not_yields_refuse h).elim
  | some w =>
      simp only [hmeaning] at h
      rw [eq_of_yields_pure h]
      exact ⟨tag, s, style, hmeans, hmeaning⟩

/-- What is made of an empty scalar, and of nothing else. -/
theorem empty_of_yields {n m : Node} {xs : List α} (hmeans : Means nodes n m)
    (h : Yields nodes (if isEmpty m then pure [] else refuse) xs) : IsEmpty nodes n ∧ xs = [] := by
  split at h
  case isTrue hempty => exact ⟨isEmpty_of_means hmeans hempty, eq_of_yields_pure h⟩
  case isFalse => exact (not_yields_refuse h).elim

/-- **The items of a list are decoded one by one.** -/
theorem isList_of_yields (hform : ∀ n x, Yields nodes (d n) x → form n x) {n : Node} {xs : List α}
    (h : Yields nodes (list d n) xs) : IsList nodes form n xs := by
  obtain ⟨m, hm, h⟩ := exists_of_yields_bind h
  have hmeans := means_of_yields_resolve hm
  split at h
  case h_1 => exact .items hmeans ((forall₂_of_yields_mapM h).imp hform)
  case h_2 =>
    obtain ⟨hempty, rfl⟩ := empty_of_yields hmeans h
    exact .empty hempty

/-- **The entries of a mapping are decoded one by one**, also those with one key. -/
theorem isPairs_of_yields (hform : ∀ n x, Yields nodes (d n) x → form n x) {n : Node}
    {xs : List (String × α)} (h : Yields nodes (pairs d n) xs) : IsPairs nodes form n xs := by
  have hpair : ∀ (e : Node × Node) (x : String × α), Yields nodes (pair d e) x →
      IsText nodes e.1 x.1 ∧ form e.2 x.2 := by
    intro e x h
    obtain ⟨k, hk, h⟩ := exists_of_yields_bind h
    obtain ⟨v, hv, h⟩ := exists_of_yields_bind h
    rw [eq_of_yields_pure h]
    exact ⟨isText_of_yields hk, hform _ _ hv⟩
  obtain ⟨m, hm, h⟩ := exists_of_yields_bind h
  have hmeans := means_of_yields_resolve hm
  split at h
  case h_1 tag entries =>
    split at h
    case isTrue => exact (not_yields_refuse h).elim
    case isFalse => exact .entries hmeans ((forall₂_of_yields_mapM h).imp hpair)
  case h_2 tag s style =>
    split at h
    case h_1 hnull =>
      rw [eq_of_yields_pure h]
      exact .null ⟨tag, s, style, hmeans, hnull⟩
    case h_2 => exact (not_yields_refuse h).elim
  case h_3 => exact (not_yields_refuse h).elim

theorem isOptional_of_yields (hform : ∀ n x, Yields nodes (d n) x → form n x) {n : Node}
    {x : Option α} (h : Yields nodes (optional d n) x) : IsOptional nodes form n x := by
  obtain ⟨m, hm, h⟩ := exists_of_yields_bind h
  have hmeans := means_of_yields_resolve hm
  have hsomething : ¬ IsNothing m → Yields nodes (some <$> d m) x → IsOptional nodes form n x := by
    intro hthing h
    obtain ⟨y, hy, rfl⟩ := exists_of_yields_map h
    exact .something hmeans hthing (hform _ _ hy)
  have hnothing : IsNothing m → Yields nodes (pure none) x → IsOptional nodes form n x := by
    intro hthing h
    rw [eq_of_yields_pure h]
    exact .nothing hmeans hthing
  split at h
  case h_1 s =>
    split at h
    case isTrue hnull => exact hnothing (by simpa [IsNothing] using hnull) h
    case isFalse hnull => exact hsomething (by simpa [IsNothing] using hnull) h
  case h_2 tag s =>
    split at h
    case isTrue htag =>
      split at h
      case isTrue hnull => exact hnothing ⟨htag, hnull⟩ h
      case isFalse => exact (not_yields_refuse h).elim
    case isFalse htag => exact hsomething (fun hthing => htag hthing.1) h
  case h_3 huntagged htagged =>
    refine hsomething (fun hthing => ?_) h
    rw [IsNothing.eq_def] at hthing
    split at hthing
    case h_1 s => exact huntagged s rfl
    case h_2 tag s => exact htagged tag s rfl
    case h_3 => exact hthing

/-! ### Parts of a mapping -/

/-- What is found under a known key: what was found there before, or else the value that is there once. -/
def Finds (nodes : List Anchored) (name : String) (found result : List (String × Node))
    (entries : List (Node × Node)) : Prop :=
  (∀ v, found.lookup name = some v →
    result.lookup name = some v ∧ ∀ e ∈ entries, ¬ IsText nodes e.1 name) ∧
  (found.lookup name = none → Part nodes entries name (result.lookup name))

/-- An entry with another key does not matter. -/
theorem Finds.cons {name : String} {found result : List (String × Node)} {entries : List (Node × Node)}
    (h : Finds nodes name found result entries) {e : Node × Node} (he : ¬ IsText nodes e.1 name) :
    Finds nodes name found result (e :: entries) := by
  refine ⟨fun v hv => ⟨(h.1 v hv).1, List.forall_mem_cons.2 ⟨he, (h.1 v hv).2⟩⟩, fun hnone => ?_⟩
  have hpart := h.2 hnone
  cases hlookup : result.lookup name with
  | none =>
      rw [hlookup] at hpart
      exact List.forall_mem_cons.2 ⟨he, hpart⟩
  | some v =>
      rw [hlookup] at hpart
      obtain ⟨before, k, after, rfl, hk, hothers⟩ := hpart
      exact ⟨e :: before, k, after, rfl, hk, List.forall_mem_cons.2 ⟨he, hothers⟩⟩

theorem finds_of_select {known : List String} {found result : List (String × Node)}
    {entries : List (Node × Node)} (h : Yields nodes (select known found entries) result) {name : String}
    (hknown : name ∈ known) : Finds nodes name found result entries := by
  induction entries generalizing found with
  | nil =>
      rw [select] at h
      rw [eq_of_yields_pure h]
      exact ⟨fun v hv => ⟨hv, by simp⟩, fun hnone => by simp [Part, hnone]⟩
  | cons e entries ih =>
      obtain ⟨key, hkey, h⟩ := exists_of_yields_bind h
      have hkey := isText_of_yields hkey
      split at h
      case isTrue hother =>
        have hne : ¬ IsText nodes e.1 name := by
          intro hname
          rw [hkey.unique hname] at hother
          simp [hknown] at hother
        exact (ih h).cons hne
      case isFalse =>
        split at h
        case isTrue => exact (not_yields_refuse h).elim
        case isFalse hnew =>
          have hfinds := ih h
          by_cases hname : key = name
          · subst hname
            have hnone : found.lookup key = none := by
              rw [List.lookup_eq_none_iff]
              intro p hp
              have hne : p.1 ≠ key := fun heq => hnew (List.any_eq_true.2 ⟨p, hp, by simpa using heq⟩)
              simpa using Ne.symm hne
            have hthere : result.lookup key = some e.2 ∧ ∀ d ∈ entries, ¬ IsText nodes d.1 key :=
              hfinds.1 e.2 (by simp)
            refine ⟨fun v hv => ?_, fun _ => ?_⟩
            · rw [hnone] at hv
              cases hv
            · rw [hthere.1]
              exact ⟨[], e.1, entries, rfl, hkey, hthere.2⟩
          · have hlookup : ((key, e.2) :: found).lookup name = found.lookup name := by
              have hbeq : (name == key) = false := by simpa using Ne.symm hname
              rw [List.lookup_cons, hbeq]
            rw [Finds, hlookup] at hfinds
            exact Finds.cons hfinds fun htext => hname (hkey.unique htext)

/-- **The values of the known keys are found**, each of which is there once at most. -/
theorem part_of_fields {known : List String} {n : Node} {found : List (String × Node)}
    (h : Yields nodes (fields known n) found) :
    ∃ entries, IsMapping nodes n entries ∧ ∀ name ∈ known, Part nodes entries name (found.lookup name) := by
  obtain ⟨m, hm, h⟩ := exists_of_yields_bind h
  have hmeans := means_of_yields_resolve hm
  have hempty : Yields nodes (if isEmpty m then pure [] else refuse) found →
      ∃ entries, IsMapping nodes n entries ∧
        ∀ name ∈ known, Part nodes entries name (found.lookup name) := by
    intro h
    obtain ⟨hempty, rfl⟩ := empty_of_yields hmeans h
    exact ⟨[], .empty hempty, fun name _ => by simp [Part]⟩
  split at h
  case h_1 tag entries =>
    exact ⟨entries, .entries hmeans, fun name hknown => (finds_of_select h hknown).2 rfl⟩
  case h_2 => exact hempty h

theorem field_of_yields {entries : List (Node × Node)} {found : List (String × Node)} {name : String}
    (hfound : Part nodes entries name (found.lookup name))
    (hform : ∀ n x, Yields nodes (d n) x → form n x) {default x : α}
    (h : Yields nodes (field found name d default) x) : Field nodes form entries name default x := by
  rw [field] at h
  cases hlookup : found.lookup name with
  | none =>
      rw [hlookup] at hfound
      simp only [hlookup] at h
      rw [eq_of_yields_pure h]
      exact .missing hfound
  | some n =>
      rw [hlookup] at hfound
      simp only [hlookup] at h
      exact .given hfound (hform n x h)

theorem given_of_yields {entries : List (Node × Node)} {found : List (String × Node)} {name : String}
    (hfound : Part nodes entries name (found.lookup name))
    (hform : ∀ n x, Yields nodes (d n) x → form n x) {x : α} (h : Yields nodes (needed found name d) x) :
    ∃ n, Part nodes entries name (some n) ∧ form n x := by
  rw [needed] at h
  cases hlookup : found.lookup name with
  | none =>
      simp only [hlookup] at h
      exact (not_yields_refuse h).elim
  | some n =>
      rw [hlookup] at hfound
      simp only [hlookup] at h
      exact ⟨n, hfound, hform n x h⟩

end Decoder

end HttpProbe.Yaml
