/-
**A session with its defaults.**

A session begins with the defaults of its declarations and with nothing else.  Such variables fit their
declarations, and they go on to fit when a rule adds the two messages of its exchange: the names of these
are not free to be declared, and no identifier has a dot, so none is the name of a part of an exchange.
Therefore every expression that can be read has a context, and fails only in itself.  An identifier can also
stand in a placeholder, so every default can be written into a template by its name.

Main definitions:

* `Variables.beside` — variables with the messages of an exchange.

Main results:

* `Environment.isName_of_identifier`, `Environment.isDerived_of_identifier` — identifiers in templates, and
  beside an exchange;
* `Environment.get?_seed_iff`, `Environment.perm_entries_seed` — the defaults, as variables;
* `Environment.evaluate_of_fitting` — an expression on variables that fit;
* `Environment.render_beside` — a default in a template;
* `Environment.consistent_of_compile` — **a session with its defaults is consistent**.
-/

import Mathlib.Data.List.Nodup
import HttpProbe.Proofs.Compiling
import HttpProbe.Proofs.Placeholders
import HttpProbe.Proofs.Visible

set_option autoImplicit false
set_option relaxedAutoImplicit false

namespace HttpProbe

/-! ### Variables beside an exchange -/

namespace Variables

/-- Variables with a request and a response, each under its own name, as far as there are any. -/
def beside (vars : Variables) (request? : Option (Http.Request × Owner))
    (response? : Option (Http.Response × Owner)) : Variables :=
  let vars := match request? with
    | some (r, owner) => vars.insert requestName (.request r owner)
    | none => vars
  match response? with
  | some (r, owner) => vars.insert responseName (.response r owner)
  | none => vars

variable {vars : Variables} {request? : Option (Http.Request × Owner)}
  {response? : Option (Http.Response × Owner)} {n : String}

/-- Other names are as they were. -/
theorem get?_beside_of_free (h : n ≠ requestName ∧ n ≠ responseName) :
    (vars.beside request? response?).get? n = vars.get? n := by
  rcases request? with _ | ⟨q, qowner⟩ <;> rcases response? with _ | ⟨r, rowner⟩ <;>
    simp only [beside, get?_insert, if_neg h.1, if_neg h.2]

/-- A scalar that is read beside a handle was there before it. -/
theorem get?_of_insert {name : String} {v : Value} (hv : v.scalar? = none) {s : Scalar}
    (h : (vars.insert name v).get? n = some (.scalar s)) : vars.get? n = some (.scalar s) := by
  rw [get?_insert] at h
  split at h
  · obtain rfl := Option.some.inj h
    cases hv
  · exact h

theorem get?_of_beside {s : Scalar}
    (h : (vars.beside request? response?).get? n = some (.scalar s)) :
    vars.get? n = some (.scalar s) := by
  rcases request? with _ | ⟨q, qowner⟩ <;> rcases response? with _ | ⟨r, rowner⟩
  · exact h
  · exact get?_of_insert rfl h
  · exact get?_of_insert rfl h
  · exact get?_of_insert rfl (get?_of_insert rfl h)

end Variables

namespace Environment

/-! ### Identifiers -/

/-- An identifier can stand in a placeholder. -/
theorem isName_of_identifier {name : String} (h : Identifier name) :
    Template.isName name.toList = true := by
  obtain ⟨hfirst, hrest⟩ := h
  rw [String.toList_ofList, Template.isName, Template.startsName, Bool.and_eq_true, Bool.or_eq_true,
    decide_eq_true_eq, List.all_eq_true]
  refine ⟨hfirst, fun c hc => ?_⟩
  rw [Template.continuesName, Bool.or_eq_true, Bool.or_eq_true, decide_eq_true_eq]
  exact .inl (hrest c hc)

/-- An identifier has no dot. -/
theorem dot_not_mem_of_identifier {name : String} (h : Identifier name) : '.' ∉ name.toList := by
  obtain ⟨hfirst, hrest⟩ := h
  rw [String.toList_ofList, List.mem_cons, not_or]
  refine ⟨?_, fun hmem => ?_⟩
  · rintro rfl
    revert hfirst
    decide
  · have hdot := hrest '.' hmem
    revert hdot
    decide

/-- No identifier is the name of a part of an exchange. -/
theorem isDerived_of_identifier {name : String} (h : Identifier name) : isDerived name = false := by
  have hnot : ∀ owner : String, Text.startsWith name (owner ++ ".") = false := by
    intro owner
    rw [← Bool.not_eq_true, Text.startsWith, List.isPrefixOf_iff_prefix]
    intro hstart
    refine dot_not_mem_of_identifier h (hstart.subset ?_)
    rw [String.toList_append]
    exact List.mem_append_right _ List.mem_cons_self
  rw [isDerived, hnot, hnot, Bool.or_self]

/-! ### Defaults as variables -/

/-- **Under a name stands the default of its declaration.** -/
theorem get?_seed_iff {ds : List Declaration} (h : (ds.map Declaration.name).Nodup)
    (compiled : List (String × Expression.Node)) (n : String) (v : Value) :
    ((⟨ds, compiled⟩ : Environment).seed .empty).get? n = some v ↔
      ∃ d ∈ ds, d.name = n ∧ .scalar d.default = v := by
  induction ds using List.reverseRecOn with
  | nil => simp [seed]
  | append_singleton ds d ih =>
      rw [List.map_append, List.nodup_append] at h
      have hnew : ∀ e ∈ ds, e.name ≠ d.name := fun e he =>
        h.2.2 e.name (List.mem_map_of_mem he) d.name List.mem_cons_self
      have hseed : (⟨ds ++ [d], compiled⟩ : Environment).seed .empty =
          ((⟨ds, compiled⟩ : Environment).seed .empty).insert d.name (.scalar d.default) := by
        simp only [seed, List.foldl_append, List.foldl_cons, List.foldl_nil]
      rw [hseed, Variables.get?_insert]
      by_cases hn : n = d.name
      · subst hn
        rw [if_pos rfl, Option.some.injEq]
        constructor
        · exact fun hv => ⟨d, by simp, rfl, hv⟩
        · rintro ⟨e, he, hname, hv⟩
          rcases List.mem_append.1 he with he | he
          · exact absurd hname (hnew e he)
          · obtain rfl := List.mem_singleton.1 he
            exact hv
      · rw [if_neg hn, ih h.1]
        constructor
        · rintro ⟨e, he, hname, hv⟩
          exact ⟨e, List.mem_append_left _ he, hname, hv⟩
        · rintro ⟨e, he, hname, hv⟩
          rcases List.mem_append.1 he with he | he
          · exact ⟨e, he, hname, hv⟩
          · obtain rfl := List.mem_singleton.1 he
            exact absurd hname.symm hn

variable {env : Environment}

/-- **There is one variable for each declaration**, with its default. -/
theorem perm_entries_seed (h : env.WellDeclared) :
    (env.seed .empty).entries.Perm (env.declarations.map fun d => (d.name, .scalar d.default)) := by
  have hentries : (env.seed .empty).entries.Nodup :=
    List.Nodup.of_map Prod.fst (Variables.distinct_entries _)
  have hdefaults : (env.declarations.map fun d => (d.name, Value.scalar d.default)).Nodup := by
    refine List.Nodup.of_map Prod.fst ?_
    rw [List.map_map]
    exact h.distinct
  refine (List.perm_ext_iff_of_nodup hentries hdefaults).2 fun ⟨n, v⟩ => ?_
  rw [← Variables.get?_eq_some_iff, get?_seed_iff h.distinct, List.mem_map]
  simp only [Prod.mk.injEq]

/-! ### Variables that fit -/

/-- **On variables that fit an expression fails only in itself.** -/
theorem evaluate_of_fitting (h : env.Faithful) {vars : Variables} (hplain : vars.Plain)
    (hfits : ∀ name expected found, ¬ env.Misfits vars name expected found)
    {entries : List (String × Value)} (horder : entries.Perm vars.entries) {expression : String}
    {node : Expression.Node} (hparse : Expression.parse expression = .ok node) {chance : Chance}
    {fault : EvalFault} (hfault : (env.evaluateOn chance expression entries).1 = .error fault) :
    ∃ f, fault = .evaluate f := by
  have hnode : (env.node expression).1 = .ok node := by
    rw [node_of_faithful h, hparse]
    rfl
  have hdeclared := env.declarations_node expression
  cases hready : env.node expression with
  | mk result env' =>
      rw [hready] at hnode hdeclared
      obtain rfl : result = .ok node := hnode
      rw [evaluateOn, hready] at hfault
      dsimp only at hfault
      rw [truth_congr hdeclared, truth] at hfault
      cases hbind : env.bind entries with
      | error f =>
          obtain ⟨name, expected, found, hmisfits, _⟩ :=
            misfits_of_bind horder (coherent_of_plain hplain horder) hbind
          exact absurd hmisfits (hfits name expected found)
      | ok ctx =>
          rw [hbind] at hfault
          dsimp only at hfault
          split at hfault
          · rename_i f _
            exact ⟨f, (Except.error.inj hfault).symm⟩
          · cases hfault

/-- The defaults go by no name of the exchange, also beside an exchange. -/
theorem plain_beside (h : env.WellDeclared) (hnames : ∀ d ∈ env.declarations, Identifier d.name)
    (request? : Option (Http.Request × Owner)) (response? : Option (Http.Response × Owner)) :
    ((env.seed .empty).beside request? response?).Plain := by
  intro n s hs
  obtain ⟨d, hd, rfl, _⟩ := (get?_seed_iff h.distinct env.compiled n _).1 (Variables.get?_of_beside hs)
  exact isDerived_of_identifier (hnames d hd)

/-- The defaults have the kinds that their names are declared with, also beside an exchange. -/
theorem fits_beside (h : env.WellDeclared) (request? : Option (Http.Request × Owner))
    (response? : Option (Http.Response × Owner)) (name : String) (expected found : Kind) :
    ¬ env.Misfits ((env.seed .empty).beside request? response?) name expected found := by
  rintro ⟨hkind, hne, s, hs, rfl⟩
  obtain ⟨d, hd, rfl, hvalue⟩ :=
    (get?_seed_iff h.distinct env.compiled name _).1 (Variables.get?_of_beside hs)
  obtain rfl := Value.scalar.inj hvalue
  rw [h.kindOf? hd] at hkind
  exact hne (Option.some.inj hkind)

/-- **A default stands for its name in a template**, also beside an exchange. -/
theorem render_beside (h : env.WellDeclared) {d : Declaration} (hd : d ∈ env.declarations)
    (hname : Identifier d.name) (request? : Option (Http.Request × Owner))
    (response? : Option (Http.Response × Owner)) {before after : List Char}
    (hbefore : ∀ c ∈ before, Text.isBlank c = true) (hafter : ∀ c ∈ after, Text.isBlank c = true) :
    ((env.seed .empty).beside request? response?).render (String.ofList
      (Template.opening ++ before ++ d.name.toList ++ after ++ Template.closing)) =
        d.default.shown := by
  have hvalue : ((env.seed .empty).beside request? response?).get? d.name =
      some (.scalar d.default) := by
    rw [Variables.get?_beside_of_free (isReserved_eq_false_iff.1 (h.free d hd))]
    exact (get?_seed_iff h.distinct env.compiled d.name _).2 ⟨d, hd, rfl, rfl⟩
  have hplaceholder := Template.Placeholder.intro hbefore (isName_of_identifier hname) hafter
  have hrender := Variables.render_placeholder
    ((env.seed .empty).beside request? response?) hplaceholder "" ""
  have hempty : ∀ vars : Variables, vars.render "" = "" := fun vars => rfl
  rw [hempty, String.empty_append, String.append_empty, String.empty_append, String.append_empty] at hrender
  rw [hrender, Variables.fill, String.ofList_toList, hvalue]
  exact String.ofList_toList

/-! ### Sessions with their defaults -/

/-- **A session with its defaults is consistent.**  It begins with one variable for each declaration, which
holds its default.  On these variables, with or without the messages of an exchange and in any order, no
expression that can be read fails because of a variable, whatever has been evaluated before; and a
placeholder with a declared name, with any blanks in it, gives way to the text of the default.  For an
identifier is a name that a placeholder may hold, and is never the name of a part of an exchange. -/
theorem consistent_of_compile {chance : Chance} {schema : List (String × String)}
    (h : compile chance schema = .ok env) :
    (env.seed .empty).entries.Perm (env.declarations.map fun d => (d.name, .scalar d.default)) ∧
      (∀ request? response?,
        let vars := (env.seed .empty).beside request? response?
        (∀ env' : Environment, env'.declarations = env.declarations → env'.Faithful →
          ∀ entries, entries.Perm vars.entries → ∀ chance' expression node fault,
            Expression.parse expression = .ok node →
              (env'.evaluateOn chance' expression entries).1 = .error fault →
                ∃ f, fault = .evaluate f) ∧
        ∀ d ∈ env.declarations, ∀ before after, (∀ c ∈ before, Text.isBlank c = true) →
          (∀ c ∈ after, Text.isBlank c = true) →
            vars.render (String.ofList
              (Template.opening ++ before ++ d.name.toList ++ after ++ Template.closing)) =
                d.default.shown) ∧
      ∀ name, isIdentifier name = true →
        Template.isName name.toList = true ∧
          (∀ (r : Http.Request), ∀ f ∈ requestFields r, f.1 ≠ name) ∧
          ∀ (r : Http.Response), ∀ f ∈ responseFields r, f.1 ≠ name := by
  have hdeclared := wellDeclared_of_compile h
  have hnames := identifier_of_compile h
  refine ⟨perm_entries_seed hdeclared, fun request? response? => ⟨?_, ?_⟩, fun name hname => ?_⟩
  · intro env' hsame hfaithful entries horder chance' expression node fault hparse hfault
    have hkinds : ∀ name, env'.kindOf? name = env.kindOf? name := by
      intro name
      rw [kindOf?, kindOf?, hsame]
    refine evaluate_of_fitting hfaithful (plain_beside hdeclared hnames request? response?) ?_ horder
      hparse hfault
    rintro name expected found ⟨hkind, hmisfits⟩
    rw [hkinds] at hkind
    exact fits_beside hdeclared request? response? name expected found ⟨hkind, hmisfits⟩
  · intro d hd before after hbefore hafter
    exact render_beside hdeclared hd (hnames d hd) request? response? hbefore hafter
  · have hid := isIdentifier_iff.1 hname
    refine ⟨isName_of_identifier hid, fun r f hf heq => ?_, fun r f hf heq => ?_⟩
    · have hderived := isDerived_requestFields r f hf
      rw [heq, isDerived_of_identifier hid] at hderived
      cases hderived
    · have hderived := isDerived_responseFields r f hf
      rw [heq, isDerived_of_identifier hid] at hderived
      cases hderived

/-- Two defaults of which the second reads the first, in a template and beside a request. -/
theorem consistent_of_two_entries :
    ∃ env, compile (.constant 1) [("a", "2"), ("b", "a * 21")] = .ok env ∧
      (env.seed .empty).entries.Perm [("a", .scalar (.int 2)), ("b", .scalar (.int 42))] ∧
      ((env.seed .empty).beside (some (.blank, .pools)) none).render "\x7b\x7b b\x7d\x7d" = "42" := by
  have hcompile : compile (.constant 1) [("a", "2"), ("b", "a * 21")] =
      .ok ⟨[⟨"a", .int 2⟩, ⟨"b", .int 42⟩], []⟩ :=
    compile_of_declarations (by decide +kernel)
  obtain ⟨hentries, hbeside, _⟩ := consistent_of_compile hcompile
  have hrender := (hbeside (some (.blank, .pools)) none).2 ⟨"b", .int 42⟩ (by simp) [' '] []
    (List.forall_mem_singleton.2 (by decide)) (fun c hc => nomatch hc)
  refine ⟨_, hcompile, hentries, hrender.trans ?_⟩
  decide +kernel

end Environment

end HttpProbe
