/-
**Compiling a schema, entry by entry.**

A schema is compiled from left to right.  An entry is admitted if its name is free, an identifier and new,
and if its expression has a scalar for a value where the defaults before it are known; otherwise it is
refused, for the first of these that is not so.  A schema is compiled if every entry is admitted after those
before it, and the first entry that is refused says why it is not.  So what follows an entry that is refused
is not looked at, and what precedes an entry is compiled as if it stood alone.

Main definitions:

* `Environment.defaults` — the context of one more entry;
* `Environment.Identifier` — how the name of a variable is written;
* `Environment.Admits`, `Environment.Refuses` — **what becomes of one more entry**;
* `Environment.Declares` — declarations of which each is admitted after those before it;
* `Environment.Orderly` — what holds of such declarations.

Main results:

* `Environment.defaultOf_eq_ok_iff`, `Environment.defaultOf_eq_error_iff` — an entry, as compiled;
* `Environment.declare_append` — a schema in two parts;
* `Environment.Declares.orderly` — the declarations of a schema;
* `Environment.compile_iff_declares` — **a schema, as compiled**.
-/

import Mathlib.Data.List.Induction
import HttpProbe.Proofs.Declarations
import HttpProbe.Proofs.Drawing
import HttpProbe.Proofs.Reading

set_option autoImplicit false
set_option relaxedAutoImplicit false

namespace HttpProbe.Environment

open Expression (Bindings)

/-! ### One entry -/

/-- The defaults of declarations, as variables of expressions. -/
def defaults (ds : List Declaration) : Bindings := ds.map fun d => (d.name, .ofScalar d.default)

theorem defaults_nil : defaults [] = [] := rfl

/-- How the name of a variable is written: a letter of ASCII or an underscore, then letters, digits and
underscores. -/
inductive Identifier : String → Prop
  | intro {first : Char} {rest : List Char} (hfirst : first.isAlpha = true ∨ first = '_')
      (hrest : ∀ c ∈ rest, c.isAlphanum = true ∨ c = '_') :
      Identifier (String.ofList (first :: rest))

theorem isIdentifier_iff {name : String} : isIdentifier name = true ↔ Identifier name := by
  constructor
  · intro h
    rw [isIdentifier] at h
    split at h
    · cases h
    · rename_i first rest hchars
      simp only [Bool.and_eq_true, Bool.or_eq_true, decide_eq_true_eq, List.all_eq_true] at h
      rw [← String.ofList_toList (s := name), hchars]
      exact .intro h.1 h.2
  · rintro ⟨hfirst, hrest⟩
    rw [isIdentifier, String.toList_ofList]
    simp only [Bool.and_eq_true, Bool.or_eq_true, decide_eq_true_eq, List.all_eq_true]
    exact ⟨hfirst, hrest⟩

/-- A name that one more variable may be declared with. -/
structure Nameable (ds : List Declaration) (name : String) : Prop where
  free : name ≠ Variables.requestName ∧ name ≠ Variables.responseName
  identifier : Identifier name
  new : name ∉ ds.map Declaration.name

/-- **An entry is admitted** after the declarations `ds`: its name is free, an identifier and new, and its
expression can be read and has a scalar for a value. -/
structure Admits (chance : Chance) (ds : List Declaration) (name expression : String) (s : Scalar) :
    Prop where
  nameable : Nameable ds name
  value : ∃ node, Expression.parse expression = .ok node ∧
    node.eval chance (defaults ds) = .ok (.ofScalar s)

/-- **An entry is refused** after the declarations `ds`, for the first thing that is wrong with it. -/
inductive Refuses (chance : Chance) (ds : List Declaration) (name expression : String) :
    EntryFault → Prop
  | reserved (h : name = Variables.requestName ∨ name = Variables.responseName) :
      Refuses chance ds name expression .reserved
  | notIdentifier (hfree : name ≠ Variables.requestName ∧ name ≠ Variables.responseName)
      (h : ¬ Identifier name) : Refuses chance ds name expression .notIdentifier
  | duplicate (hfree : name ≠ Variables.requestName ∧ name ≠ Variables.responseName)
      (hidentifier : Identifier name) (h : name ∈ ds.map Declaration.name) :
      Refuses chance ds name expression .duplicate
  | unreadable {f : Expression.Fault} (hname : Nameable ds name)
      (h : Expression.parse expression = .error f) :
      Refuses chance ds name expression (.unreadable f)
  | failed {node : Expression.Node} {f : Expression.Fault} (hname : Nameable ds name)
      (hparse : Expression.parse expression = .ok node)
      (h : node.eval chance (defaults ds) = .error f) :
      Refuses chance ds name expression (.failed f)
  | unsupported {node : Expression.Node} {v : Expression.Value} (hname : Nameable ds name)
      (hparse : Expression.parse expression = .ok node)
      (hvalue : node.eval chance (defaults ds) = .ok v) (h : ∀ s, v ≠ .ofScalar s) :
      Refuses chance ds name expression (.unsupported v)

theorem scalar?_eq_some_iff {v : Expression.Value} {s : Scalar} :
    v.scalar? = some s ↔ v = .ofScalar s := by
  constructor
  · intro h
    cases v <;> cases h <;> rfl
  · rintro rfl
    exact Expression.Value.scalar?_ofScalar s

section

variable {chance : Chance} {ds : List Declaration} {name expression : String}

theorem isReserved_eq_false_iff :
    isReserved name = false ↔ name ≠ Variables.requestName ∧ name ≠ Variables.responseName := by
  simp [isReserved]

theorem any_name_eq_false_iff :
    (ds.any fun d => d.name = name) = false ↔ name ∉ ds.map Declaration.name := by
  simp [List.mem_map]

/-- Under a name that may be declared, the default is what the expression comes to. -/
theorem Nameable.defaultOf_eq (h : Nameable ds name) :
    defaultOf chance (defaults ds) ds name expression =
      match Expression.parse expression with
      | .error f => .error (.unreadable f)
      | .ok node =>
        match node.eval chance (defaults ds) with
        | .error f => .error (.failed f)
        | .ok v =>
          match v.scalar? with
          | none => .error (.unsupported v)
          | some s => .ok s := by
  rw [defaultOf, isReserved_eq_false_iff.2 h.free, isIdentifier_iff.2 h.identifier,
    any_name_eq_false_iff.2 h.new]
  rfl

theorem Admits.defaultOf_eq {s : Scalar} (h : Admits chance ds name expression s) :
    defaultOf chance (defaults ds) ds name expression = .ok s := by
  obtain ⟨hname, node, hparse, hvalue⟩ := h
  simp only [hname.defaultOf_eq, hparse, hvalue, Expression.Value.scalar?_ofScalar]

theorem Refuses.defaultOf_eq {f : EntryFault} (h : Refuses chance ds name expression f) :
    defaultOf chance (defaults ds) ds name expression = .error f := by
  have hidentifier : ¬ Identifier name → isIdentifier name = false := by
    intro hnot
    rw [← Bool.not_eq_true, isIdentifier_iff]
    exact hnot
  cases h with
  | reserved h =>
      have hreserved : isReserved name = true := by simpa [isReserved] using h
      rw [defaultOf, hreserved]
      rfl
  | notIdentifier hfree h =>
      rw [defaultOf, isReserved_eq_false_iff.2 hfree, hidentifier h]
      rfl
  | duplicate hfree hid h =>
      have hold : (ds.any fun d => d.name = name) = true := by simpa [List.mem_map] using h
      rw [defaultOf, isReserved_eq_false_iff.2 hfree, isIdentifier_iff.2 hid, hold]
      rfl
  | unreadable hname h => simp only [hname.defaultOf_eq, h]
  | failed hname hparse h => simp only [hname.defaultOf_eq, hparse, h]
  | @unsupported node v hname hparse hvalue h =>
      have hnone : v.scalar? = none := by
        cases hscalar : v.scalar? with
        | none => rfl
        | some s => exact absurd (scalar?_eq_some_iff.1 hscalar) (h s)
      simp only [hname.defaultOf_eq, hparse, hvalue, hnone]

/-- An entry is admitted or refused. -/
theorem admits_or_refuses (chance : Chance) (ds : List Declaration) (name expression : String) :
    (∃ s, Admits chance ds name expression s) ∨ ∃ f, Refuses chance ds name expression f := by
  by_cases hfree : name ≠ Variables.requestName ∧ name ≠ Variables.responseName
  · by_cases hidentifier : Identifier name
    · by_cases hnew : name ∉ ds.map Declaration.name
      · have hname : Nameable ds name := ⟨hfree, hidentifier, hnew⟩
        cases hparse : Expression.parse expression with
        | error f => exact .inr ⟨_, .unreadable hname hparse⟩
        | ok node =>
            cases hvalue : node.eval chance (defaults ds) with
            | error f => exact .inr ⟨_, .failed hname hparse hvalue⟩
            | ok v =>
                by_cases hscalar : ∃ s, v = .ofScalar s
                · obtain ⟨s, rfl⟩ := hscalar
                  exact .inl ⟨s, hname, node, hparse, hvalue⟩
                · exact .inr ⟨_, .unsupported hname hparse hvalue fun s hs => hscalar ⟨s, hs⟩⟩
      · exact .inr ⟨_, .duplicate hfree hidentifier (Decidable.not_not.1 hnew)⟩
    · exact .inr ⟨_, .notIdentifier hfree hidentifier⟩
  · refine .inr ⟨_, .reserved ?_⟩
    rw [not_and_or, Decidable.not_not, Decidable.not_not] at hfree
    exact hfree

/-- **An entry has a default if it is admitted.** -/
theorem defaultOf_eq_ok_iff {s : Scalar} :
    defaultOf chance (defaults ds) ds name expression = .ok s ↔ Admits chance ds name expression s := by
  refine ⟨fun h => ?_, Admits.defaultOf_eq⟩
  rcases admits_or_refuses chance ds name expression with ⟨s', hs⟩ | ⟨f, hf⟩
  · obtain rfl := Except.ok.inj (h.symm.trans hs.defaultOf_eq)
    exact hs
  · rw [hf.defaultOf_eq] at h
    cases h

/-- **An entry has no default if it is refused**, and the fault is why. -/
theorem defaultOf_eq_error_iff {f : EntryFault} :
    defaultOf chance (defaults ds) ds name expression = .error f ↔ Refuses chance ds name expression f := by
  refine ⟨fun h => ?_, Refuses.defaultOf_eq⟩
  rcases admits_or_refuses chance ds name expression with ⟨s, hs⟩ | ⟨f', hf⟩
  · rw [hs.defaultOf_eq] at h
    cases h
  · obtain rfl := Except.error.inj (h.symm.trans hf.defaultOf_eq)
    exact hf

end

/-! ### Entries in a row -/

/-- **Declarations of which each is admitted after those before it.** -/
inductive Declares (chance : Chance) : List (String × String) → List Declaration → Prop
  | nil : Declares chance [] []
  | snoc {schema : List (String × String)} {ds : List Declaration} {name expression : String}
      {s : Scalar} (h : Declares chance schema ds) (hs : Admits chance ds name expression s) :
      Declares chance (schema ++ [(name, expression)]) (ds ++ [⟨name, s⟩])

/-- The fault of the first entry that is refused. -/
inductive Stops (chance : Chance) (schema : List (String × String)) : Fault → Prop
  | intro {front back : List (String × String)} {name expression : String} {ds : List Declaration}
      {cause : EntryFault} (hschema : schema = front ++ (name, expression) :: back)
      (hfront : Declares chance front ds) (hrefused : Refuses chance ds name expression cause) :
      Stops chance schema (.environment (cause.message name expression))

theorem put_of_none {ctx : Bindings} {name : String} (h : ctx.get? name = none)
    (v : Expression.Value) : ctx.put name v = ctx ++ [(name, v)] := by
  induction ctx with
  | nil => rfl
  | cons f rest ih =>
      obtain ⟨n, w⟩ := f
      rw [Bindings.get?, Variables.lookup_cons_eq] at h
      by_cases hname : name = n
      · rw [if_pos hname] at h
        cases h
      · rw [if_neg hname] at h
        rw [Bindings.put, if_neg (Ne.symm hname), ih h]
        rfl

/-- **The default of one more declaration can be set** in the context of those before it. -/
theorem set_defaults {ds : List Declaration} {name : String} (h : name ∉ ds.map Declaration.name)
    (s : Scalar) :
    (defaults ds).set name (.ofScalar s) = .ok (defaults (ds ++ [⟨name, s⟩])) := by
  have hnone : (defaults ds).get? name = none := by
    refine List.lookup_eq_none_iff.2 fun e he => ?_
    obtain ⟨d, hd, rfl⟩ := List.mem_map.1 he
    rw [bne_iff_ne]
    rintro rfl
    exact h (List.mem_map_of_mem hd)
  rw [Bindings.set_of_none hnone, put_of_none hnone, defaults, defaults, List.map_append]
  rfl

/-- **One more entry is compiled in the context of the defaults before it**: no default fails to be set. -/
theorem declare_cons (chance : Chance) (ds : List Declaration) (name expression : String)
    (rest : List (String × String)) :
    declare chance (defaults ds) ds ((name, expression) :: rest) =
      match defaultOf chance.left (defaults ds) ds name expression with
      | .error f => .error (.environment (f.message name expression))
      | .ok s => declare chance.right (defaults (ds ++ [⟨name, s⟩])) (ds ++ [⟨name, s⟩]) rest := by
  rw [declare]
  cases hdefault : defaultOf chance.left (defaults ds) ds name expression with
  | error f => rfl
  | ok s => simp only [set_defaults (defaultOf_ok hdefault).2 s]

/-- A schema in two parts: the second is compiled after the declarations of the first. -/
theorem declare_append (chance : Chance) (ds : List Declaration) (schema more : List (String × String)) :
    ∃ chance', declare chance (defaults ds) ds (schema ++ more) =
      declare chance (defaults ds) ds schema >>= fun ds' => declare chance' (defaults ds') ds' more := by
  induction schema generalizing chance ds with
  | nil => exact ⟨chance, rfl⟩
  | cons entry rest ih =>
      obtain ⟨name, expression⟩ := entry
      cases hdefault : defaultOf chance.left (defaults ds) ds name expression with
      | error f =>
          refine ⟨chance, ?_⟩
          rw [List.cons_append, declare_cons, declare_cons, hdefault]
          rfl
      | ok s =>
          obtain ⟨chance', hrest⟩ := ih chance.right (ds ++ [⟨name, s⟩])
          refine ⟨chance', ?_⟩
          rw [List.cons_append, declare_cons, declare_cons, hdefault]
          exact hrest

/-- What is declared stays declared, in its place. -/
theorem prefix_of_declare {chance : Chance} {ds ds' : List Declaration}
    {schema : List (String × String)} (h : declare chance (defaults ds) ds schema = .ok ds') :
    ds <+: ds' := by
  induction schema generalizing chance ds with
  | nil =>
      obtain rfl := Except.ok.inj h
      exact List.prefix_refl ds
  | cons entry rest ih =>
      obtain ⟨name, expression⟩ := entry
      rw [declare_cons] at h
      cases hdefault : defaultOf chance.left (defaults ds) ds name expression with
      | error f =>
          rw [hdefault] at h
          cases h
      | ok s =>
          rw [hdefault] at h
          exact (List.prefix_append ds _).trans (ih h)

/-- **A declared name is an identifier.** -/
theorem identifier_of_declare {chance : Chance} {ds ds' : List Declaration}
    {schema : List (String × String)} (h : declare chance (defaults ds) ds schema = .ok ds')
    (hds : ∀ d ∈ ds, Identifier d.name) : ∀ d ∈ ds', Identifier d.name := by
  induction schema generalizing chance ds with
  | nil =>
      obtain rfl := Except.ok.inj h
      exact hds
  | cons entry rest ih =>
      obtain ⟨name, expression⟩ := entry
      rw [declare_cons] at h
      cases hdefault : defaultOf chance.left (defaults ds) ds name expression with
      | error f =>
          rw [hdefault] at h
          cases h
      | ok s =>
          rw [hdefault] at h
          refine ih h fun d hd => ?_
          rcases List.mem_append.1 hd with hd | hd
          · exact hds d hd
          · obtain rfl := List.mem_singleton.1 hd
            exact (defaultOf_eq_ok_iff.1 hdefault).nameable.identifier

theorem identifier_of_compile {chance : Chance} {schema : List (String × String)} {env : Environment}
    (h : compile chance schema = .ok env) : ∀ d ∈ env.declarations, Identifier d.name := by
  obtain ⟨ds, hds, rfl⟩ := declare_of_compile h
  rw [← defaults_nil] at hds
  exact identifier_of_declare hds fun d hd => nomatch hd

theorem draws_append (schema more : List (String × String)) :
    draws (schema ++ more) = (draws schema || draws more) :=
  List.any_append

/-- Whether an entry that does not draw is admitted is not a matter of chance. -/
theorem defaultOf_of_not_draws_cons {name expression : String} {rest : List (String × String)}
    (h : draws ((name, expression) :: rest) = false) (chance chance' : Chance)
    (ds : List Declaration) :
    defaultOf chance (defaults ds) ds name expression =
        defaultOf chance' (defaults ds) ds name expression ∧
      draws rest = false := by
  rw [draws, List.any_cons, Bool.or_eq_false_iff] at h
  refine ⟨defaultOf_of_not_draws (fun n hn => ?_) chance chance' (defaults ds) ds name, h.2⟩
  have hfirst := h.1
  rw [hn] at hfirst
  exact hfirst

/-- What is declared after some entries, and what is refused first. -/
theorem declares_or_stops {schema : List (String × String)} (hdraws : draws schema = false)
    (chance chance' : Chance) {front : List (String × String)} {ds : List Declaration}
    (hfront : Declares chance' front ds) :
    (∃ ds', declare chance (defaults ds) ds schema = .ok ds' ∧
        Declares chance' (front ++ schema) ds') ∨
      ∃ fault, declare chance (defaults ds) ds schema = .error fault ∧
        Stops chance' (front ++ schema) fault := by
  induction schema generalizing chance ds front with
  | nil => exact .inl ⟨ds, rfl, by rwa [List.append_nil]⟩
  | cons entry rest ih =>
      obtain ⟨name, expression⟩ := entry
      obtain ⟨hsame, hrest⟩ := defaultOf_of_not_draws_cons hdraws chance.left chance' ds
      rw [declare_cons, hsame]
      rcases admits_or_refuses chance' ds name expression with ⟨s, hs⟩ | ⟨cause, hcause⟩
      · rw [hs.defaultOf_eq, List.append_cons]
        exact ih hrest chance.right (hfront.snoc hs)
      · rw [hcause.defaultOf_eq]
        exact .inr ⟨_, rfl, .intro rfl hfront hcause⟩

/-- Entries that are admitted one after the other are declared. -/
theorem Declares.declare_eq {chance' : Chance} {schema : List (String × String)}
    {ds : List Declaration} (h : Declares chance' schema ds) (hdraws : draws schema = false)
    (chance : Chance) : declare chance [] [] schema = .ok ds := by
  induction h generalizing chance with
  | nil => rfl
  | @snoc schema ds name expression s _ hs ih =>
      rw [draws_append, Bool.or_eq_false_iff] at hdraws
      obtain ⟨chance'', happend⟩ := declare_append chance [] schema [(name, expression)]
      obtain ⟨hsame, _⟩ := defaultOf_of_not_draws_cons hdraws.2 chance''.left chance' ds
      rw [defaults_nil] at happend
      rw [happend, ih hdraws.1]
      change declare chance'' (defaults ds) ds [(name, expression)] = _
      rw [declare_cons, hsame, hs.defaultOf_eq]
      rfl

/-- An entry that is refused ends the schema. -/
theorem Stops.declare_eq {chance' : Chance} {schema : List (String × String)} {fault : Fault}
    (h : Stops chance' schema fault) (hdraws : draws schema = false) (chance : Chance) :
    declare chance [] [] schema = .error fault := by
  obtain ⟨rfl, hfront, hrefused⟩ := h
  rename_i front back name expression ds cause
  rw [draws_append, Bool.or_eq_false_iff] at hdraws
  obtain ⟨chance'', happend⟩ := declare_append chance [] front ((name, expression) :: back)
  obtain ⟨hsame, _⟩ := defaultOf_of_not_draws_cons hdraws.2 chance''.left chance' ds
  rw [defaults_nil] at happend
  rw [happend, hfront.declare_eq hdraws.1 chance]
  change declare chance'' (defaults ds) ds ((name, expression) :: back) = _
  rw [declare_cons, hsame, hrefused.defaultOf_eq]

/-! ### The declarations of a schema -/

/-- **What holds of declarations that are admitted one after the other.**  They have the names of the schema,
in order, and no name twice, so each has the kind of its default.  The context of one more entry holds their
defaults and nothing else; and it is what comes of setting them one by one, which never fails. -/
structure Orderly (schema : List (String × String)) (ds : List Declaration) : Prop where
  names : ds.map Declaration.name = schema.map Prod.fst
  distinct : (ds.map Declaration.name).Nodup
  kinds : ∀ compiled n k, kindOf? ⟨ds, compiled⟩ n = some k ↔ ∃ d ∈ ds, d.name = n ∧ d.default.kind = k
  context : ∀ n v, (defaults ds).get? n = some v ↔ ∃ d ∈ ds, d.name = n ∧ .ofScalar d.default = v
  settable : ds.foldlM (fun ctx d => Bindings.set ctx d.name (.ofScalar d.default)) [] =
    .ok (defaults ds)

theorem kindOf?_iff {ds : List Declaration} (h : (ds.map Declaration.name).Nodup)
    (compiled : List (String × Expression.Node)) (n : String) (k : Kind) :
    kindOf? ⟨ds, compiled⟩ n = some k ↔ ∃ d ∈ ds, d.name = n ∧ d.default.kind = k := by
  rw [kindOf?, Option.map_eq_some_iff]
  constructor
  · rintro ⟨d, hd, rfl⟩
    exact ⟨d, List.mem_of_find?_eq_some hd, by simpa using List.find?_some hd, rfl⟩
  · rintro ⟨d, hd, rfl, rfl⟩
    exact ⟨d, find?_of_distinct h hd, rfl⟩

theorem get?_defaults_iff {ds : List Declaration} (h : (ds.map Declaration.name).Nodup) (n : String)
    (v : Expression.Value) :
    (defaults ds).get? n = some v ↔ ∃ d ∈ ds, d.name = n ∧ .ofScalar d.default = v := by
  have hdistinct : Slots.Distinct (defaults ds) := by
    rw [Slots.Distinct, defaults, List.map_map]
    exact h
  rw [Bindings.get?, Slots.lookup_eq_some_iff hdistinct, defaults, List.mem_map]
  simp only [Prod.mk.injEq]

theorem foldlM_set_defaults {ds : List Declaration} (h : (ds.map Declaration.name).Nodup) :
    ds.foldlM (fun ctx d => Bindings.set ctx d.name (.ofScalar d.default)) [] =
      .ok (defaults ds) := by
  induction ds using List.reverseRecOn with
  | nil => rfl
  | append_singleton ds d ih =>
      have hfront : (ds.map Declaration.name).Nodup := by
        rw [List.map_append, List.nodup_append] at h
        exact h.1
      have hnew : d.name ∉ ds.map Declaration.name := by
        rw [List.map_append, List.nodup_append] at h
        exact fun hmem => h.2.2 d.name hmem d.name (by simp) rfl
      have hlast := set_defaults hnew d.default
      rw [List.foldlM_append, ih hfront]
      simp only [List.foldlM_cons, List.foldlM_nil]
      change ((defaults ds).set d.name (.ofScalar d.default) >>= fun ctx => pure ctx) = _
      rw [hlast]
      rfl

/-- **Declarations that are admitted one after the other.** -/
theorem Declares.orderly {chance : Chance} {schema : List (String × String)} {ds : List Declaration}
    (h : Declares chance schema ds) : Orderly schema ds := by
  have hboth : ds.map Declaration.name = schema.map Prod.fst ∧ (ds.map Declaration.name).Nodup := by
    induction h with
    | nil => exact ⟨rfl, List.nodup_nil⟩
    | @snoc schema ds name expression s _ hs ih =>
        refine ⟨?_, ?_⟩
        · rw [List.map_append, List.map_append, ih.1]
          rfl
        · rw [List.map_append, List.nodup_append]
          refine ⟨ih.2, List.pairwise_singleton _ name, ?_⟩
          rintro m hm _ hname rfl
          obtain rfl := List.mem_singleton.1 hname
          exact hs.nameable.new hm
  exact ⟨hboth.1, hboth.2, kindOf?_iff hboth.2, get?_defaults_iff hboth.2, foldlM_set_defaults hboth.2⟩

/-! ### Schemas -/

theorem compile_eq_ok_iff {chance : Chance} {schema : List (String × String)} {env : Environment} :
    compile chance schema = .ok env ↔
      env.compiled = [] ∧ declare chance [] [] schema = .ok env.declarations := by
  constructor
  · intro h
    obtain ⟨ds, hds, rfl⟩ := declare_of_compile h
    exact ⟨rfl, hds⟩
  · rintro ⟨hcompiled, hds⟩
    rw [compile, hds, ← hcompiled]
    rfl

theorem compile_eq_error_iff {chance : Chance} {schema : List (String × String)} {fault : Fault} :
    compile chance schema = .error fault ↔ declare chance [] [] schema = .error fault := by
  rw [compile]
  cases declare chance [] [] schema <;> simp [Except.map]

/-- What a schema is compiled to is known from its declarations. -/
theorem compile_of_declarations {chance : Chance} {schema : List (String × String)}
    {ds : List Declaration} (h : (compile chance schema).toOption.map declarations = some ds) :
    compile chance schema = .ok ⟨ds, []⟩ := by
  cases hcompile : compile chance schema with
  | error fault =>
      rw [hcompile] at h
      cases h
  | ok env =>
      obtain ⟨ds', _, rfl⟩ := declare_of_compile hcompile
      rw [hcompile] at h
      obtain rfl : ds' = ds := Option.some.inj h
      rfl

/-- **A schema is compiled from left to right**, whatever the source of chance, if it does not draw.  It has
an environment exactly if every entry is admitted after those before it; otherwise the fault is that of the
first entry that is refused.  What is compiled after it changes neither this fault nor the declarations. -/
theorem compile_iff_declares {schema : List (String × String)} (hdraws : draws schema = false)
    (chance chance' : Chance) :
    (∀ env, compile chance schema = .ok env ↔
        env.compiled = [] ∧ Declares chance' schema env.declarations) ∧
      (∀ fault, compile chance schema = .error fault ↔ Stops chance' schema fault) ∧
      (∀ front ds, Declares chance' front ds → Orderly front ds) ∧
      (∀ more fault, compile chance schema = .error fault →
        compile chance' (schema ++ more) = .error fault) ∧
      ∀ more env', compile chance' (schema ++ more) = .ok env' →
        ∃ env, compile chance schema = .ok env ∧ env.declarations <+: env'.declarations := by
  have hcases := declares_or_stops hdraws chance chance' .nil
  rw [defaults_nil] at hcases
  refine ⟨fun env => ?_, fun fault => ?_, fun front ds h => h.orderly, ?_, ?_⟩
  · rw [compile_eq_ok_iff]
    refine and_congr_right fun _ => ⟨fun h => ?_, fun h => h.declare_eq hdraws chance⟩
    rcases hcases with ⟨ds, hds, hdeclares⟩ | ⟨fault, hfault, _⟩
    · obtain rfl := Except.ok.inj (h.symm.trans hds)
      exact hdeclares
    · rw [hfault] at h
      cases h
  · rw [compile_eq_error_iff]
    refine ⟨fun h => ?_, fun h => h.declare_eq hdraws chance⟩
    rcases hcases with ⟨ds, hds, _⟩ | ⟨fault', hfault, hstops⟩
    · rw [hds] at h
      cases h
    · obtain rfl := Except.error.inj (h.symm.trans hfault)
      exact hstops
  · intro more fault h
    rw [compile_eq_error_iff] at h ⊢
    obtain ⟨_, happend⟩ := declare_append chance' [] schema more
    rw [defaults_nil] at happend
    rw [happend, declare_of_not_draws hdraws chance' chance, h]
    rfl
  · intro more env' h
    obtain ⟨ds', hds', rfl⟩ := declare_of_compile h
    obtain ⟨chance'', happend⟩ := declare_append chance' [] schema more
    rw [defaults_nil] at happend
    rw [happend, declare_of_not_draws hdraws chance' chance] at hds'
    cases hds : declare chance [] [] schema with
    | error fault =>
        rw [hds] at hds'
        cases hds'
    | ok ds =>
        rw [hds] at hds'
        exact ⟨⟨ds, []⟩, compile_eq_ok_iff.2 ⟨rfl, hds⟩, prefix_of_declare hds'⟩

/-- Two entries of which the second reads the first, and a third that is refused for its name. -/
theorem compile_of_two_entries :
    let schema := [("a", "2"), ("b", "a * 21")]
    draws (schema ++ [("a", "(")]) = false ∧
      Declares (.constant 2) schema [⟨"a", .int 2⟩, ⟨"b", .int 42⟩] ∧
      compile (.constant 1) (schema ++ [("a", "(")]) = .error (.environment "Duplicate variable 'a'") := by
  intro schema
  have hdraws : draws schema = false := by decide +kernel
  have hmore : draws (schema ++ [("a", "(")]) = false := by decide +kernel
  have hcompile : compile (.constant 1) schema = .ok ⟨[⟨"a", .int 2⟩, ⟨"b", .int 42⟩], []⟩ :=
    compile_of_declarations (by decide +kernel)
  have hdeclares : Declares (.constant 2) schema [⟨"a", .int 2⟩, ⟨"b", .int 42⟩] :=
    (((compile_iff_declares hdraws (.constant 1) (.constant 2)).1 _).1 hcompile).2
  have hrefused : Refuses (.constant 2) [⟨"a", .int 2⟩, ⟨"b", .int 42⟩] "a" "(" .duplicate :=
    .duplicate (by decide) (isIdentifier_iff.1 (by decide)) (by decide)
  refine ⟨hmore, hdeclares, ?_⟩
  exact ((compile_iff_declares hmore (.constant 1) (.constant 2)).2.1 _).2 (.intro rfl hdeclares hrefused)

end HttpProbe.Environment
