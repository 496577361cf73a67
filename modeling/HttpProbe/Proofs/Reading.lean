/-
**What templates and expressions read.**

A template depends on the variables that it mentions.  An expression depends on those that it reads,
and on there being a context at all: a variable that is not of its declared kind, or that goes by a name
of the exchange, can prevent one although nobody reads it.  Apart from this, variables that an
expression does not read may be anything.

Main definitions:

* `Template.mentions`, `Rule.mentions` — the names that a template, and the request of a rule, mention;
* `Expression.reads` — the names that an expression reads;
* `Environment.isDerived` — names of parts of an exchange;
* `Environment.admits` — values that do not prevent a context.

Main results:

* `Rule.template_congr` — **the request depends on what is mentioned**;
* `Environment.bindFrom_restrict` — a context without some of the variables;
* `Environment.judged_of_agree` — **the truth value depends on what is read**.
-/

import HttpProbe.Proofs.Entries
import HttpProbe.Proofs.Keeping
import HttpProbe.Rule

set_option autoImplicit false
set_option relaxedAutoImplicit false

namespace HttpProbe

/-! ### Templates -/

namespace Template

/-- The name in a placeholder. -/
def Piece.name? : Piece → Option String
  | .plain _ => none
  | .slot _ name => some (String.ofList name)

/-- Is there a placeholder with the name? -/
def mentions (template name : String) : Bool :=
  (pieces template.toList).any fun p => p.name? = some name

theorem Piece.render_congr {text? text?' : String → Option String} {p : Piece}
    (h : ∀ name, p.name? = some name → text? name = text?' name) :
    p.render text? = p.render text?' := by
  cases p with
  | plain c => rfl
  | slot written name => rw [render, render, h (String.ofList name) rfl]

/-- A template depends on the texts of the names that it mentions. -/
theorem render_congr {text? text?' : String → Option String} {template : String}
    (h : ∀ name, mentions template name = true → text? name = text?' name) :
    render text? template = render text?' template := by
  have hpieces : (pieces template.toList).flatMap (Piece.render text?) =
      (pieces template.toList).flatMap (Piece.render text?') := by
    rw [List.flatMap_def, List.flatMap_def]
    refine congrArg List.flatten (List.map_congr_left fun p hp => ?_)
    refine Piece.render_congr fun name hname => h name ?_
    exact List.any_eq_true.2 ⟨p, hp, decide_eq_true hname⟩
  rw [render, render, hpieces]

end Template

namespace Variables

/-- A template depends on the variables that it mentions. -/
theorem render_congr {vars vars' : Variables} {template : String}
    (h : ∀ name, Template.mentions template name = true → vars.get? name = vars'.get? name) :
    vars.render template = vars'.render template := by
  refine Template.render_congr fun name hname => ?_
  rw [shown?, shown?, h name hname]

end Variables

/-- Does a binding mention the name?  Only a text is a template. -/
def Scalar.mentions (s : Scalar) (name : String) : Bool :=
  match s with
  | .text t => Template.mentions t name
  | _ => false

/-- What a binding gives to its name depends on the variables that it mentions. -/
theorem Variables.bound_congr {vars vars' : Variables} {s : Scalar}
    (h : ∀ name, s.mentions name = true → vars.get? name = vars'.get? name) :
    vars.bound s = vars'.bound s := by
  cases s with
  | text t => rw [bound, bound, render_congr h]
  | int n => rfl
  | float x => rfl
  | bool b => rfl

namespace Rule

/-- Does the request of a rule mention the name? -/
def mentions (rule : Rule) (name : String) : Bool :=
  Template.mentions rule.path name || Template.mentions rule.body name ||
    rule.headers.any fun h => Template.mentions h.2 name

/-- **The request of a rule depends on the variables that it mentions.** -/
theorem template_congr {rule : Rule} {vars vars' : Variables}
    (h : ∀ name, rule.mentions name = true → vars.get? name = vars'.get? name) (target : String) :
    rule.template target vars = rule.template target vars' := by
  have hpath : vars.render rule.path = vars'.render rule.path :=
    Variables.render_congr fun name hname => h name (by simp [mentions, hname])
  have hbody : vars.render rule.body = vars'.render rule.body :=
    Variables.render_congr fun name hname => h name (by simp [mentions, hname])
  have hheaders : (rule.headers.map fun h => (h.1, vars.render h.2)) =
      rule.headers.map fun h => (h.1, vars'.render h.2) := by
    refine List.map_congr_left fun header hheader => ?_
    have hvalue : vars.render header.2 = vars'.render header.2 := by
      refine Variables.render_congr fun name hname => h name ?_
      rw [mentions, Bool.or_eq_true]
      exact .inr (List.any_eq_true.2 ⟨header, hheader, hname⟩)
    rw [hvalue]
  rw [template, template, hpath, hbody, hheaders]

end Rule

/-! ### Trees of expressions -/

namespace Expression

/-- Does an operator read the variable? -/
def Operator.reads (name : String) : Operator → Bool
  | .read n => n = name
  | _ => false

mutual
/-- Does a tree read the variable? -/
def Node.reads (name : String) : Node → Bool
  | .mk op args => op.reads name || anyReads name args

/-- Does one of several trees read the variable? -/
def Node.anyReads (name : String) : List Node → Bool
  | [] => false
  | n :: rest => n.reads name || anyReads name rest
end

/-- Does an expression read the variable?  What cannot be compiled reads nothing. -/
def reads (expression name : String) : Bool :=
  match parse expression with
  | .error _ => false
  | .ok n => n.reads name

/-- An operator depends on the variable that it reads. -/
theorem operate_congr {op : Operator} {vars vars' : Bindings}
    (h : ∀ name, op.reads name = true → vars.get? name = vars'.get? name) (chance : Chance)
    (args : List Value) : operate chance vars op args = operate chance vars' op args := by
  cases op with
  | read name =>
      have hread := h name (decide_eq_true rfl)
      simp only [operate, hread]
  | _ => rfl

mutual
/-- A tree depends on the variables that it reads. -/
theorem Node.eval_congr (n : Node) {vars vars' : Bindings}
    (h : ∀ name, n.reads name = true → vars.get? name = vars'.get? name) (chance : Chance) :
    n.eval chance vars = n.eval chance vars' := by
  cases n with
  | mk op args =>
      have hargs := Node.evalAll_congr args
        (fun name hname => h name (by rw [reads, hname, Bool.or_true])) chance.left
      have hop := operate_congr (fun name hname => h name (by rw [reads, hname, Bool.true_or]))
        chance.right
      rw [Node.eval, Node.eval, hargs]
      exact bind_congr fun vs => hop vs.reverse

theorem Node.evalAll_congr (args : List Node) {vars vars' : Bindings}
    (h : ∀ name, Node.anyReads name args = true → vars.get? name = vars'.get? name)
    (chance : Chance) : Node.evalAll chance vars args = Node.evalAll chance vars' args := by
  cases args with
  | nil => rfl
  | cons last earlier =>
      have hearlier := Node.evalAll_congr earlier
        (fun name hname => h name (by rw [anyReads, hname, Bool.or_true])) chance.left
      have hlast := Node.eval_congr last
        (fun name hname => h name (by rw [anyReads, hname, Bool.true_or])) chance.right
      rw [Node.evalAll, Node.evalAll, hearlier, hlast]
end

/-! ### Setting variables of a context -/

namespace Bindings

theorem get?_put (name : String) (v : Value) (ctx : Bindings) (m : String) :
    (ctx.put name v).get? m = if m = name then some v else ctx.get? m := by
  induction ctx with
  | nil => exact Variables.lookup_cons_eq m name v []
  | cons e rest ih =>
      obtain ⟨n, u⟩ := e
      simp only [get?, put] at ih ⊢
      by_cases hn : n = name
      · rw [if_pos hn, hn, Variables.lookup_cons_eq, Variables.lookup_cons_eq]
        by_cases hm : m = name
        · rw [if_pos hm, if_pos hm]
        · rw [if_neg hm, if_neg hm, if_neg hm]
      · rw [if_neg hn, Variables.lookup_cons_eq, Variables.lookup_cons_eq, ih]
        by_cases hm : m = name
        · rw [if_neg (hm ▸ Ne.symm hn), if_pos hm, if_pos hm]
        · rw [if_neg hm, if_neg hm]

theorem get?_set {ctx ctx' : Bindings} {name : String} {v : Value}
    (h : ctx.set name v = .ok ctx') (m : String) :
    ctx'.get? m = if m = name then some v else ctx.get? m := by
  have hput : ctx' = ctx.put name v := by
    rw [set] at h
    split at h
    · split at h
      · exact (Except.ok.inj h).symm
      · cases h
    · exact (Except.ok.inj h).symm
  rw [hput, get?_put]

/-- A variable that is not there yet can be set. -/
theorem set_of_none {ctx : Bindings} {name : String} (h : ctx.get? name = none) (v : Value) :
    ctx.set name v = .ok (ctx.put name v) := by
  rw [set, h]

end Bindings

end Expression

/-! ### Contexts without some of the variables -/

open Expression (Bindings)

/-- The variables of a context whose names are kept. -/
def Expression.Bindings.restrict (keep : String → Bool) (ctx : Bindings) : Bindings :=
  ctx.filter fun e => keep e.1

namespace Expression.Bindings

variable {keep : String → Bool}

theorem get?_restrict (ctx : Bindings) (m : String) :
    (restrict keep ctx).get? m = if keep m = true then ctx.get? m else none :=
  Variables.lookup_filter keep m ctx

/-- Setting a variable that is kept. -/
theorem restrict_put {name : String} (hkeep : keep name = true) (v : Value) (ctx : Bindings) :
    restrict keep (ctx.put name v) = (restrict keep ctx).put name v := by
  induction ctx with
  | nil => exact List.filter_cons_of_pos (by exact hkeep)
  | cons e rest ih =>
      obtain ⟨n, u⟩ := e
      simp only [put, restrict, List.filter_cons] at ih ⊢
      by_cases hn : n = name
      · simp [hn, hkeep, put]
      · by_cases hk : keep n = true
        · simp [hn, hk, put, ih]
        · simp [hn, hk, ih]

/-- Setting a variable that is not kept. -/
theorem restrict_put_of_not {name : String} (hkeep : keep name = false) (v : Value)
    (ctx : Bindings) : restrict keep (ctx.put name v) = restrict keep ctx := by
  induction ctx with
  | nil => exact List.filter_cons_of_neg (by simp [hkeep])
  | cons e rest ih =>
      obtain ⟨n, u⟩ := e
      simp only [put, restrict, List.filter_cons] at ih ⊢
      by_cases hn : n = name
      · simp [hn, hkeep]
      · simp [hn, List.filter_cons, ih]

theorem restrict_set {name : String} (hkeep : keep name = true) (v : Value) (ctx : Bindings) :
    (ctx.set name v).map (restrict keep) = (restrict keep ctx).set name v := by
  rw [set, set, get?_restrict, if_pos hkeep]
  cases ctx.get? name with
  | none => exact congrArg Except.ok (restrict_put hkeep v ctx)
  | some u =>
      dsimp only
      split
      · exact congrArg Except.ok (restrict_put hkeep v ctx)
      · rfl

end Expression.Bindings

namespace Environment

variable {keep : String → Bool}

/-! ### Names of the exchange -/

/-- A name that an expression knows a part of the exchange by. -/
def isDerived (name : String) : Bool :=
  Text.startsWith name (Variables.requestName ++ ".") ||
    Text.startsWith name (Variables.responseName ++ ".")

/-- The headers of a message go by names that begin with its own. -/
theorem startsWith_owner_headers (owner : String) (h : Http.Headers) :
    ∀ f ∈ headerFields owner h, Text.startsWith f.1 (owner ++ ".") = true := by
  intro f hf
  obtain ⟨g, _, rfl⟩ := List.mem_map.1 hf
  simp [headerKey, Text.startsWith]

/-- So do all parts of a request. -/
theorem startsWith_requestFields (r : Http.Request) :
    ∀ f ∈ requestFields r, Text.startsWith f.1 (Variables.requestName ++ ".") = true := by
  intro f hf
  rcases List.mem_append.1 hf with hf | hf
  · simp only [List.mem_cons, List.not_mem_nil, or_false] at hf
    rcases hf with rfl | rfl | rfl | rfl <;> dsimp only <;> decide
  · exact startsWith_owner_headers _ r.headers f hf

theorem startsWith_responseFields (r : Http.Response) :
    ∀ f ∈ responseFields r, Text.startsWith f.1 (Variables.responseName ++ ".") = true := by
  intro f hf
  rcases List.mem_append.1 hf with hf | hf
  · simp only [List.mem_cons, List.not_mem_nil, or_false] at hf
    rcases hf with rfl | rfl | rfl | rfl | rfl <;> dsimp only <;> decide
  · exact startsWith_owner_headers _ r.headers f hf

theorem isDerived_requestFields (r : Http.Request) :
    ∀ f ∈ requestFields r, isDerived f.1 = true := by
  intro f hf
  rw [isDerived, startsWith_requestFields r f hf, Bool.true_or]

theorem isDerived_responseFields (r : Http.Response) :
    ∀ f ∈ responseFields r, isDerived f.1 = true := by
  intro f hf
  rw [isDerived, startsWith_responseFields r f hf, Bool.or_true]

/-! ### Contexts without some of the variables -/

/-- Setting variables that are kept. -/
theorem setField_restrict {name : String} (hkeep : keep name = true) (v : Expression.Value)
    (ctx : Bindings) :
    (setField ctx name v).map (Bindings.restrict keep) =
      setField (Bindings.restrict keep ctx) name v := by
  rw [setField, setField, ← Bindings.restrict_set hkeep]
  cases ctx.set name v <;> rfl

theorem setFields_restrict {fields : Bindings} (hkeep : ∀ f ∈ fields, keep f.1 = true)
    (ctx : Bindings) :
    (setFields ctx fields).map (Bindings.restrict keep) =
      setFields (Bindings.restrict keep ctx) fields := by
  induction fields generalizing ctx with
  | nil => rfl
  | cons f rest ih =>
      obtain ⟨name, v⟩ := f
      have hrest := fun f hf => hkeep f (List.mem_cons_of_mem _ hf)
      rw [setFields, setFields, ← setField_restrict (hkeep _ List.mem_cons_self)]
      cases setField ctx name v with
      | error f => rfl
      | ok ctx => exact ih hrest ctx

/-- What is kept is added alike. -/
theorem bindEntry_restrict (env : Environment) (hderived : ∀ n, isDerived n = true → keep n = true)
    {name : String} (hkeep : keep name = true) (v : Value) (ctx : Bindings) :
    (env.bindEntry ctx name v).map (Bindings.restrict keep) =
      env.bindEntry (Bindings.restrict keep ctx) name v := by
  have hrequest := fun r f hf => hderived _ (isDerived_requestFields r f hf)
  have hresponse := fun r f hf => hderived _ (isDerived_responseFields r f hf)
  cases v with
  | request r owner =>
      simp only [bindEntry]
      split
      · exact setFields_restrict (hrequest r) ctx
      · rfl
  | response r owner =>
      simp only [bindEntry]
      split
      · exact setFields_restrict (hresponse r) ctx
      · rfl
  | scalar s =>
      simp only [bindEntry]
      split
      · split
        · exact setField_restrict hkeep _ ctx
        · rfl
      · exact setField_restrict hkeep _ ctx

theorem get?_setField {ctx ctx' : Bindings} {name : String} {v : Expression.Value}
    (h : setField ctx name v = .ok ctx') {m : String} (hm : m ≠ name) :
    ctx'.get? m = ctx.get? m := by
  rw [setField] at h
  cases hset : ctx.set name v with
  | error f =>
      rw [hset] at h
      cases h
  | ok after =>
      rw [hset] at h
      obtain rfl := Except.ok.inj h
      rw [Bindings.get?_set hset, if_neg hm]

theorem get?_setFields {ctx ctx' fields : Bindings} (h : setFields ctx fields = .ok ctx')
    {m : String} (hm : ∀ f ∈ fields, m ≠ f.1) : ctx'.get? m = ctx.get? m := by
  induction fields generalizing ctx with
  | nil =>
      obtain rfl := Except.ok.inj h
      rfl
  | cons f rest ih =>
      obtain ⟨name, v⟩ := f
      rw [setFields] at h
      cases hfirst : setField ctx name v with
      | error f =>
          rw [hfirst] at h
          cases h
      | ok after =>
          rw [hfirst] at h
          rw [ih h fun f hf => hm f (List.mem_cons_of_mem _ hf),
            get?_setField hfirst (hm _ List.mem_cons_self)]

/-- A variable adds its own name to the context, or names of the exchange. -/
theorem get?_bindEntry {env : Environment} {ctx ctx' : Bindings} {name : String} {v : Value}
    (h : env.bindEntry ctx name v = .ok ctx') {m : String} (hm : m ≠ name)
    (hnot : isDerived m = false) : ctx'.get? m = ctx.get? m := by
  have hother : ∀ {n}, isDerived n = true → m ≠ n := by
    rintro n hn rfl
    rw [hnot] at hn
    cases hn
  cases v with
  | request r owner =>
      simp only [bindEntry] at h
      split at h
      · exact get?_setFields h fun f hf => hother (isDerived_requestFields r f hf)
      · rw [Except.ok.inj h]
  | response r owner =>
      simp only [bindEntry] at h
      split at h
      · exact get?_setFields h fun f hf => hother (isDerived_responseFields r f hf)
      · rw [Except.ok.inj h]
  | scalar s =>
      simp only [bindEntry] at h
      split at h
      · split at h
        · exact get?_setField h hm
        · cases h
      · exact get?_setField h hm

/-- Can the value stand among the variables without preventing a context?  It is a scalar of the kind
that its name is declared with. -/
def admits (env : Environment) (name : String) (v : Value) : Bool :=
  match v with
  | .scalar s => (env.kindOf? name).all fun k => s.kind = k
  | _ => false

/-- What is not kept is added without a fault. -/
theorem bindEntry_of_admits {env : Environment} {name : String} {v : Value}
    (h : env.admits name v = true) {ctx : Bindings} (hfree : ctx.get? name = none) :
    ∃ u, env.bindEntry ctx name v = .ok (ctx.put name u) := by
  cases v with
  | request r owner => cases h
  | response r owner => cases h
  | scalar s =>
      have hset : setField ctx name (.ofScalar s) = .ok (ctx.put name (.ofScalar s)) := by
        rw [setField, Bindings.set_of_none hfree]
      refine ⟨.ofScalar s, ?_⟩
      simp only [bindEntry]
      cases hdeclared : env.kindOf? name with
      | none => exact hset
      | some k =>
          rw [admits, hdeclared] at h
          have hkind : s.kind = k := of_decide_eq_true h
          dsimp only
          rw [if_pos hkind]
          exact hset

/-- **A context without some of the variables** is that of the others, if none of those left out
prevents a context. -/
theorem bindFrom_restrict (env : Environment) (hderived : ∀ n, isDerived n = true → keep n = true)
    {entries : List (String × Value)} (hd : Slots.Distinct entries)
    (hadmits : ∀ e ∈ entries, keep e.1 = false → env.admits e.1 e.2 = true) {ctx : Bindings}
    (hfree : ∀ e ∈ entries, keep e.1 = false → ctx.get? e.1 = none) :
    (env.bindFrom ctx entries).map (Bindings.restrict keep) =
      env.bindFrom (Bindings.restrict keep ctx) (entries.filter fun e => keep e.1) := by
  induction entries generalizing ctx with
  | nil => rfl
  | cons e rest ih =>
      obtain ⟨name, v⟩ := e
      simp only [Slots.Distinct, List.map_cons, List.nodup_cons] at hd
      have hrest := fun e he => hadmits e (List.mem_cons_of_mem _ he)
      have hlater : ∀ e ∈ rest, keep e.1 = false → ctx.get? e.1 = none :=
        fun e he => hfree e (List.mem_cons_of_mem _ he)
      rw [bindFrom]
      cases hkeep : keep name with
      | true =>
          rw [List.filter_cons_of_pos (by exact hkeep), bindFrom,
            ← bindEntry_restrict env hderived hkeep]
          cases hentry : env.bindEntry ctx name v with
          | error f => rfl
          | ok ctx' =>
              refine ih hd.2 hrest fun e he hnot => ?_
              have hname : e.1 ≠ name := by
                intro heq
                rw [heq, hkeep] at hnot
                cases hnot
              have hpart : isDerived e.1 = false := by
                cases hpart : isDerived e.1 with
                | false => rfl
                | true => exact absurd (hderived _ hpart) (by rw [hnot]; decide)
              rw [get?_bindEntry hentry hname hpart]
              exact hlater e he hnot
      | false =>
          obtain ⟨u, hentry⟩ := bindEntry_of_admits
            (hadmits _ List.mem_cons_self hkeep) (hfree _ List.mem_cons_self hkeep)
          rw [List.filter_cons_of_neg (by simp [hkeep]), hentry,
            ← Bindings.restrict_put_of_not hkeep u]
          refine ih hd.2 hrest fun e he hnot => ?_
          have hname : e.1 ≠ name := fun heq => hd.1 (List.mem_map.2 ⟨e, he, heq⟩)
          rw [Bindings.get?_put, if_neg hname]
          exact hlater e he hnot

/-! ### Truth values -/

/-- Variables that are the same under the names that are kept. -/
theorem filter_entries_eq {vars vars' : Variables}
    (hsame : ∀ n, keep n = true → vars.get? n = vars'.get? n) :
    (vars.entries.filter fun e => keep e.1) = vars'.entries.filter fun e => keep e.1 := by
  have hvars : (⟨_, vars.sorted.filter fun e => keep e.1⟩ : Variables) =
      ⟨_, vars'.sorted.filter fun e => keep e.1⟩ := by
    refine Variables.ext_get? fun n => ?_
    have hleft := Variables.lookup_filter keep n vars.entries
    have hright := Variables.lookup_filter keep n vars'.entries
    refine hleft.trans (Eq.trans ?_ hright.symm)
    cases hn : keep n with
    | true => exact hsame n hn
    | false => rfl
  exact congrArg Variables.entries hvars

/-- A tree has one truth value on contexts that are the same under the names that it reads. -/
theorem truth_of_restrict (env : Environment) {entries entries' : List (String × Value)}
    (hbind : (env.bind entries).map (Bindings.restrict keep) =
      (env.bind entries').map (Bindings.restrict keep))
    {node : Expression.Node} (hreads : ∀ n, node.reads n = true → keep n = true)
    (chance : Chance) : env.truth chance node entries = env.truth chance node entries' := by
  simp only [truth]
  generalize env.bind entries = context, env.bind entries' = context' at hbind ⊢
  cases context with
  | error f =>
      cases context' with
      | error f' => rw [Except.error.inj hbind]
      | ok ctx' => cases hbind
  | ok ctx =>
      cases context' with
      | error f' => cases hbind
      | ok ctx' =>
          have hread : ∀ n, node.reads n = true → ctx.get? n = ctx'.get? n := by
            intro n hn
            have hsame := congrArg (fun ctx : Bindings => ctx.get? n) (Except.ok.inj hbind)
            simp only [Bindings.get?_restrict, if_pos (hreads n hn)] at hsame
            exact hsame
          dsimp only
          rw [Expression.truth, Expression.truth, node.eval_congr hread chance]

/-- **The truth value of an expression depends on the variables that it reads**, and on those that
prevent a context. -/
theorem judged_of_agree (env : Environment) {vars vars' : Variables} {expression : String}
    (h : ∀ n, vars.get? n ≠ vars'.get? n →
      Expression.reads expression n = false ∧ isDerived n = false ∧
        (∀ v, vars.get? n = some v → env.admits n v = true) ∧
        ∀ v, vars'.get? n = some v → env.admits n v = true)
    (chance : Chance) :
    env.judged chance expression vars.entries = env.judged chance expression vars'.entries := by
  let keep : String → Bool := fun n => vars.get? n = vars'.get? n
  have hkept : ∀ {n p}, p = true → (vars.get? n ≠ vars'.get? n → p = false) → keep n = true := by
    intro n p hp hnot
    refine decide_eq_true (Decidable.byContradiction fun hne => ?_)
    rw [hnot hne] at hp
    cases hp
  -- either side has the context of what is the same on both
  have hcontext : ∀ vars : Variables,
      (∀ n v, keep n = false → vars.get? n = some v → env.admits n v = true) →
        (env.bind vars.entries).map (Bindings.restrict keep) =
          env.bindFrom [] (vars.entries.filter fun e => keep e.1) := by
    intro vars hadmits
    refine bindFrom_restrict env (fun n hn => hkept hn fun hne => (h n hne).2.1)
      vars.distinct_entries ?_ fun _ _ _ => rfl
    intro e he hnot
    exact hadmits e.1 e.2 hnot (Variables.get?_eq_some_iff.2 he)
  have hleft := hcontext vars fun n v hn => (h n (of_decide_eq_false hn)).2.2.1 v
  have hright := hcontext vars' fun n v hn => (h n (of_decide_eq_false hn)).2.2.2 v
  rw [← filter_entries_eq fun n hn => of_decide_eq_true hn] at hright
  rw [judged, judged]
  cases hparse : Expression.parse expression with
  | error f => rfl
  | ok node =>
      refine env.truth_of_restrict (hleft.trans hright.symm) (fun n hn => ?_) chance
      refine hkept hn fun hne => ?_
      have hnot := (h n hne).1
      rw [Expression.reads, hparse] at hnot
      exact hnot

end Environment

end HttpProbe
