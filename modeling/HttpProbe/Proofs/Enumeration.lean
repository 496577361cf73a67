/-
**The order in which variables are listed.**

The context of an expression is put together from the variables one by one, and a value that is set later
takes the place of an earlier one of the same shape.  A scalar goes by its own name, and the exchange adds
names of its own, such as `request.method`.  So if a scalar has a name that the exchange adds as well,
the one that is listed last is seen.  In all other cases the order in which the variables are listed makes
no difference: whether there is a context never depends on it, and neither does what is read under a name
for which no two variables have different values.

Main definitions:

* `Environment.fieldsOf`, `Environment.added` — what a variable adds to the context;
* `Environment.Coherent` — nothing is set to values of two shapes;
* `Environment.Contested` — **two variables add different values under one name**;
* `Environment.OrderFree` — the truth value of a tree is the same in every order.

Main results:

* `Environment.toOption_bindFrom` — the context, as one list of settings;
* `Environment.bind_of_perm` — **contexts of the same variables in two orders**;
* `Environment.order_free_iff_uncontested` — the order makes no difference exactly if nothing is contested;
* `Environment.evaluateOn_ne_of_contested` — an expression that has two truth values.
-/

import Mathlib.Data.List.Induction
import HttpProbe.Proofs.Reading

set_option autoImplicit false
set_option relaxedAutoImplicit false

namespace HttpProbe.Environment

open Expression (Bindings)

/-! ### What variables add -/

/-- What a variable adds to the context, if nothing prevents it. -/
def fieldsOf (e : String × Value) : Bindings :=
  match e.2 with
  | .scalar s => [(e.1, .ofScalar s)]
  | .request r _ => if e.1 = Variables.requestName then requestFields r else []
  | .response r _ => if e.1 = Variables.responseName then responseFields r else []

/-- Is the variable a scalar of another kind than its name is declared with? -/
def mistyped (env : Environment) (e : String × Value) : Bool :=
  match e.2 with
  | .scalar s => (env.kindOf? e.1).any fun k => s.kind ≠ k
  | _ => false

theorem setFields_append (ctx fields more : Bindings) :
    setFields ctx (fields ++ more) = setFields ctx fields >>= (setFields · more) := by
  induction fields generalizing ctx with
  | nil => rfl
  | cons f rest ih =>
      obtain ⟨name, v⟩ := f
      rw [List.cons_append, setFields, setFields]
      cases setField ctx name v with
      | error fault => rfl
      | ok ctx => exact ih ctx

theorem setFields_singleton (ctx : Bindings) (name : String) (v : Expression.Value) :
    setFields ctx [(name, v)] = setField ctx name v := by
  rw [setFields]
  cases setField ctx name v <;> rfl

/-- A variable of the declared kind is set with all that it adds. -/
theorem bindEntry_of_typed {env : Environment} {e : String × Value} (h : env.mistyped e = false)
    (ctx : Bindings) : env.bindEntry ctx e.1 e.2 = setFields ctx (fieldsOf e) := by
  obtain ⟨name, v⟩ := e
  cases v with
  | request r owner =>
      simp only [bindEntry, fieldsOf]
      split <;> rfl
  | response r owner =>
      simp only [bindEntry, fieldsOf]
      split <;> rfl
  | scalar s =>
      simp only [bindEntry, fieldsOf, setFields_singleton]
      cases hkind : env.kindOf? name with
      | none => rfl
      | some k =>
          simp only [mistyped, hkind, Option.any_some, decide_eq_false_iff_not, not_not] at h
          exact if_pos h

/-- Any other variable prevents a context. -/
theorem bindEntry_of_mistyped {env : Environment} {e : String × Value} (h : env.mistyped e = true)
    (ctx : Bindings) : (env.bindEntry ctx e.1 e.2).toOption = none := by
  obtain ⟨name, v⟩ := e
  cases v with
  | request r owner => cases h
  | response r owner => cases h
  | scalar s =>
      simp only [bindEntry]
      cases hkind : env.kindOf? name with
      | none => simp [mistyped, hkind] at h
      | some k =>
          simp only [mistyped, hkind, Option.any_some, decide_eq_true_eq] at h
          dsimp only
          rw [if_neg h]
          rfl

/-- **The context, as one list of settings**, unless a variable is not of its declared kind. -/
theorem toOption_bindFrom (env : Environment) (ctx : Bindings) (entries : List (String × Value)) :
    (env.bindFrom ctx entries).toOption =
      if entries.any env.mistyped then none
      else (setFields ctx (entries.flatMap fieldsOf)).toOption := by
  induction entries generalizing ctx with
  | nil => rfl
  | cons e rest ih =>
      rw [bindFrom, List.any_cons, List.flatMap_cons]
      cases htyped : env.mistyped e with
      | true =>
          have hnone := bindEntry_of_mistyped htyped ctx
          cases hentry : env.bindEntry ctx e.1 e.2 with
          | error f => rfl
          | ok ctx' =>
              rw [hentry] at hnone
              cases hnone
      | false =>
          rw [bindEntry_of_typed htyped, setFields_append, Bool.false_or]
          cases setFields ctx (fieldsOf e) with
          | error f =>
              split
              · rfl
              · rfl
          | ok ctx' => exact ih ctx'

/-! ### Settings in a row -/

/-- Nothing is set to values of two shapes. -/
def Coherent (fields : Bindings) : Prop :=
  ∀ f ∈ fields, ∀ g ∈ fields, f.1 = g.1 → f.2.shape = g.2.shape

theorem Coherent.of_append {fields more : Bindings} (h : Coherent (fields ++ more)) :
    Coherent fields :=
  fun f hf g hg => h f (List.mem_append_left _ hf) g (List.mem_append_left _ hg)

theorem lookup_reverse_snoc (fields : Bindings) (name n : String) (v : Expression.Value) :
    (fields ++ [(name, v)]).reverse.lookup n =
      if n = name then some v else fields.reverse.lookup n := by
  rw [List.reverse_append, List.reverse_singleton, List.singleton_append, Variables.lookup_cons_eq]

theorem mem_of_lookup_reverse {fields : Bindings} {n : String} {v : Expression.Value}
    (h : fields.reverse.lookup n = some v) : (n, v) ∈ fields := by
  obtain ⟨front, back, hsplit, _⟩ := List.lookup_eq_some_iff.1 h
  have hmem : (n, v) ∈ fields.reverse := by simp [hsplit]
  exact List.mem_reverse.1 hmem

/-- **Settings that go together are all made**, and the last one under each name is seen. -/
theorem setFields_of_coherent {fields : Bindings} (h : Coherent fields) :
    ∃ ctx, setFields [] fields = .ok ctx ∧ ∀ n, ctx.get? n = fields.reverse.lookup n := by
  induction fields using List.reverseRecOn with
  | nil => exact ⟨[], rfl, fun n => rfl⟩
  | append_singleton fields f ih =>
      obtain ⟨name, v⟩ := f
      obtain ⟨ctx, hctx, hget⟩ := ih h.of_append
      have hset : ctx.set name v = .ok (ctx.put name v) := by
        rw [Expression.Bindings.set, hget]
        cases hbefore : fields.reverse.lookup name with
        | none => rfl
        | some w =>
            have hmem := List.mem_append_left [(name, v)] (mem_of_lookup_reverse hbefore)
            exact if_pos (h _ hmem (name, v) (by simp) rfl)
      refine ⟨ctx.put name v, ?_, fun n => ?_⟩
      · rw [setFields_append, hctx]
        change setFields ctx [(name, v)] = _
        rw [setFields_singleton, setField, hset]
      · rw [Expression.Bindings.get?_put, lookup_reverse_snoc, hget]

/-- Settings that are all made go together. -/
theorem coherent_of_setFields {fields ctx : Bindings} (h : setFields [] fields = .ok ctx) :
    Coherent fields := by
  induction fields using List.reverseRecOn generalizing ctx with
  | nil => exact fun f hf => absurd hf List.not_mem_nil
  | append_singleton fields f ih =>
      obtain ⟨name, v⟩ := f
      rw [setFields_append] at h
      cases hbefore : setFields [] fields with
      | error fault =>
          rw [hbefore] at h
          cases h
      | ok ctx₀ =>
          rw [hbefore] at h
          have hcoherent := ih hbefore
          obtain ⟨_, hctx, hget⟩ := setFields_of_coherent hcoherent
          obtain rfl := Except.ok.inj (hbefore.symm.trans hctx)
          have hset : setField ctx₀ name v = .ok ctx := (setFields_singleton ctx₀ name v).symm.trans h
          -- what was set before under the name has the shape of the last value
          have hlast : ∀ g ∈ fields, g.1 = name → g.2.shape = v.shape := by
            rintro ⟨n, w⟩ hg rfl
            cases hlookup : fields.reverse.lookup n with
            | none =>
                have hnot := List.lookup_eq_none_iff.1 hlookup (n, w) (List.mem_reverse.2 hg)
                simp at hnot
            | some u =>
                rw [setField, Expression.Bindings.set, hget, hlookup] at hset
                have hshape : u.shape = v.shape := by
                  refine Decidable.byContradiction fun hne => ?_
                  simp [hne] at hset
                rw [← hshape]
                exact hcoherent (n, w) hg (n, u) (mem_of_lookup_reverse hlookup) rfl
          intro f hf g hg hname
          rcases List.mem_append.1 hf with hf | hf <;> rcases List.mem_append.1 hg with hg | hg
          · exact hcoherent f hf g hg hname
          · obtain rfl := List.mem_singleton.1 hg
            exact hlast f hf hname
          · obtain rfl := List.mem_singleton.1 hf
            exact (hlast g hg hname.symm).symm
          · obtain rfl := List.mem_singleton.1 hf
            obtain rfl := List.mem_singleton.1 hg
            rfl

/-! ### Names that two variables add -/

/-- The value that a variable adds under a name: the last one, if it adds several. -/
def added (e : String × Value) (n : String) : Option Expression.Value := (fieldsOf e).reverse.lookup n

/-- **Two variables add different values under the name.** -/
def Contested (entries : List (String × Value)) (n : String) : Prop :=
  ∃ e ∈ entries, ∃ e' ∈ entries, ∃ v v', added e n = some v ∧ added e' n = some v' ∧ v ≠ v'

/-- What is seen under a name is what the last variable adds that adds anything. -/
theorem lookup_fields_cons (e : String × Value) (rest : List (String × Value)) (n : String) :
    ((e :: rest).flatMap fieldsOf).reverse.lookup n =
      ((rest.flatMap fieldsOf).reverse.lookup n).or (added e n) := by
  rw [List.flatMap_cons, List.reverse_append, List.lookup_append, added]

theorem lookup_fields_snoc (front : List (String × Value)) {e : String × Value} {n : String}
    {v : Expression.Value} (h : added e n = some v) :
    ((front ++ [e]).flatMap fieldsOf).reverse.lookup n = some v := by
  rw [List.flatMap_append, List.reverse_append, List.lookup_append, List.flatMap_singleton, ← added, h,
    Option.some_or]

/-- Something is seen under a name if a variable adds something. -/
theorem exists_added_iff {entries : List (String × Value)} {n : String} :
    (∃ v, (entries.flatMap fieldsOf).reverse.lookup n = some v) ↔
      ∃ e ∈ entries, ∃ v, added e n = some v := by
  induction entries with
  | nil => simp
  | cons e rest ih =>
      simp only [lookup_fields_cons, List.mem_cons, exists_eq_or_imp, ← ih]
      cases (rest.flatMap fieldsOf).reverse.lookup n with
      | none => simp
      | some v => simp

theorem exists_added_of_lookup {entries : List (String × Value)} {n : String}
    {v : Expression.Value} (h : (entries.flatMap fieldsOf).reverse.lookup n = some v) :
    ∃ e ∈ entries, added e n = some v := by
  induction entries with
  | nil => cases h
  | cons e rest ih =>
      rw [lookup_fields_cons] at h
      cases hrest : (rest.flatMap fieldsOf).reverse.lookup n with
      | none =>
          rw [hrest, Option.none_or] at h
          exact ⟨e, List.mem_cons_self, h⟩
      | some w =>
          rw [hrest, Option.some_or] at h
          obtain ⟨e', he', hadded⟩ := ih (hrest.trans h)
          exact ⟨e', List.mem_cons_of_mem e he', hadded⟩

/-- **What is seen under a name that is not contested does not depend on the order.** -/
theorem lookup_fields_of_perm {l l' : List (String × Value)} (h : l.Perm l') {n : String}
    (hn : ¬ Contested l n) :
    (l.flatMap fieldsOf).reverse.lookup n = (l'.flatMap fieldsOf).reverse.lookup n := by
  cases hleft : (l.flatMap fieldsOf).reverse.lookup n with
  | some v =>
      obtain ⟨e, he, hv⟩ := exists_added_of_lookup hleft
      obtain ⟨w, hright⟩ := exists_added_iff.2 ⟨e, h.subset he, v, hv⟩
      obtain ⟨e', he', hw⟩ := exists_added_of_lookup hright
      have hsame : v = w := Classical.byContradiction fun hne =>
        hn ⟨e, he, e', h.symm.subset he', v, w, hv, hw, hne⟩
      rw [hright, hsame]
  | none =>
      cases hright : (l'.flatMap fieldsOf).reverse.lookup n with
      | none => rfl
      | some w =>
          obtain ⟨e, he, hw⟩ := exists_added_of_lookup hright
          obtain ⟨v, hv⟩ := exists_added_iff.2 ⟨e, h.symm.subset he, w, hw⟩
          rw [hleft] at hv
          cases hv

/-! ### Two orders -/

/-- When there is a context, and what is read in it. -/
theorem bind_eq_ok_iff (env : Environment) (entries : List (String × Value)) :
    (∃ ctx, env.bind entries = .ok ctx) ↔
      entries.any env.mistyped = false ∧ Coherent (entries.flatMap fieldsOf) := by
  have hbind := env.toOption_bindFrom [] entries
  change (env.bind entries).toOption = _ at hbind
  constructor
  · rintro ⟨ctx, hctx⟩
    rw [hctx] at hbind
    split at hbind
    · cases hbind
    · rename_i htyped
      refine ⟨by simpa using htyped, ?_⟩
      cases hset : setFields [] (entries.flatMap fieldsOf) with
      | ok ctx' => exact coherent_of_setFields hset
      | error f =>
          rw [hset] at hbind
          cases hbind
  · rintro ⟨htyped, hcoherent⟩
    obtain ⟨ctx, hctx, _⟩ := setFields_of_coherent hcoherent
    rw [htyped, hctx] at hbind
    cases hbound : env.bind entries with
    | ok ctx' => exact ⟨ctx', rfl⟩
    | error f =>
        rw [hbound] at hbind
        cases hbind

/-- What is read in a context is what was set last. -/
theorem get?_of_bind {env : Environment} {entries : List (String × Value)} {ctx : Bindings}
    (h : env.bind entries = .ok ctx) (n : String) :
    ctx.get? n = (entries.flatMap fieldsOf).reverse.lookup n := by
  obtain ⟨htyped, hcoherent⟩ := (env.bind_eq_ok_iff entries).1 ⟨ctx, h⟩
  have hbind := env.toOption_bindFrom [] entries
  obtain ⟨ctx', hctx', hget⟩ := setFields_of_coherent hcoherent
  change (env.bind entries).toOption = _ at hbind
  rw [h, htyped, hctx'] at hbind
  obtain rfl : ctx = ctx' := Option.some.inj hbind
  exact hget n

theorem Coherent.perm {fields fields' : Bindings} (h : Coherent fields) (hperm : fields.Perm fields') :
    Coherent fields' :=
  fun f hf g hg => h f (hperm.symm.subset hf) g (hperm.symm.subset hg)

/-- **Contexts of the same variables in two orders.**  There is one for both orders or for neither, and the
same is read in both under every name that is not contested. -/
theorem bind_of_perm (env : Environment) {l l' : List (String × Value)} (h : l.Perm l') :
    (env.bind l).toOption = none ∧ (env.bind l').toOption = none ∨
      ∃ ctx ctx', env.bind l = .ok ctx ∧ env.bind l' = .ok ctx' ∧
        ∀ n, ¬ Contested l n → ctx.get? n = ctx'.get? n := by
  have hfields : (l.flatMap fieldsOf).Perm (l'.flatMap fieldsOf) := h.flatMap_right fieldsOf
  have hboth : (∃ ctx, env.bind l = .ok ctx) ↔ ∃ ctx, env.bind l' = .ok ctx := by
    rw [bind_eq_ok_iff, bind_eq_ok_iff, h.any_eq]
    exact and_congr_right fun _ => ⟨fun hc => hc.perm hfields, fun hc => hc.perm hfields.symm⟩
  cases hleft : env.bind l with
  | ok ctx =>
      obtain ⟨ctx', hright⟩ := hboth.1 ⟨ctx, hleft⟩
      refine .inr ⟨ctx, ctx', rfl, hright, fun n hn => ?_⟩
      rw [get?_of_bind hleft, get?_of_bind hright, lookup_fields_of_perm h hn]
  | error f =>
      refine .inl ⟨rfl, ?_⟩
      cases hright : env.bind l' with
      | error f' => rfl
      | ok ctx' =>
          obtain ⟨ctx, hctx⟩ := hboth.2 ⟨ctx', hright⟩
          rw [hleft] at hctx
          cases hctx

/-- Without a context there is no truth value. -/
theorem toOption_truth_of_none {env : Environment} {entries : List (String × Value)}
    (h : (env.bind entries).toOption = none) (chance : Chance) (node : Expression.Node) :
    (env.truth chance node entries).toOption = none := by
  rw [truth]
  cases hbind : env.bind entries with
  | error f => rfl
  | ok ctx =>
      rw [hbind] at h
      cases h

/-- A tree that reads nothing contested has one truth value, or none, whatever the order. -/
theorem toOption_truth_of_perm (env : Environment) {l l' : List (String × Value)} (h : l.Perm l')
    {node : Expression.Node} (hreads : ∀ n, node.reads n = true → ¬ Contested l n) (chance : Chance) :
    (env.truth chance node l).toOption = (env.truth chance node l').toOption := by
  rcases env.bind_of_perm h with ⟨hleft, hright⟩ | ⟨ctx, ctx', hleft, hright, hget⟩
  · rw [toOption_truth_of_none hleft, toOption_truth_of_none hright]
  · have heval := node.eval_congr (fun n hn => hget n (hreads n hn)) chance
    simp only [truth, hleft, hright, Expression.truth, heval]

/-- **An expression that reads nothing contested** comes to the same whatever the order. -/
theorem toOption_evaluateOn_of_perm (env : Environment) {l l' : List (String × Value)}
    (h : l.Perm l') {expression : String}
    (hreads : ∀ node, (env.node expression).1 = .ok node →
      ∀ n, node.reads n = true → ¬ Contested l n) (chance : Chance) :
    (env.evaluateOn chance expression l).1.toOption =
      (env.evaluateOn chance expression l').1.toOption := by
  simp only [evaluateOn]
  cases hnode : env.node expression with
  | mk result env' =>
      cases result with
      | error f => rfl
      | ok node => exact env'.toOption_truth_of_perm h (hreads node (by rw [hnode])) chance

/-! ### What is contested makes a difference -/

/-- What the exchange adds is a text or an integer. -/
theorem shape_of_handle {e : String × Value} (h : e.2.scalar? = none) :
    ∀ f ∈ fieldsOf e, f.2.shape = .text ∨ f.2.shape = .int := by
  have hheaders : ∀ owner headers, ∀ f ∈ headerFields owner headers, f.2.shape = .text := by
    intro owner headers f hf
    obtain ⟨g, _, rfl⟩ := List.mem_map.1 hf
    rfl
  obtain ⟨name, v⟩ := e
  intro f hf
  cases v with
  | scalar s => cases h
  | request r owner =>
      simp only [fieldsOf] at hf
      split at hf
      · rcases List.mem_append.1 hf with hf | hf
        · simp only [List.mem_cons, List.not_mem_nil, or_false] at hf
          rcases hf with rfl | rfl | rfl | rfl <;> exact .inl rfl
        · exact .inl (hheaders _ _ f hf)
      · cases hf
  | response r owner =>
      simp only [fieldsOf] at hf
      split at hf
      · rcases List.mem_append.1 hf with hf | hf
        · simp only [List.mem_cons, List.not_mem_nil, or_false] at hf
          rcases hf with rfl | rfl | rfl | rfl | rfl <;> first | exact .inl rfl | exact .inr rfl
        · exact .inl (hheaders _ _ f hf)
      · cases hf

/-- Texts and integers are equal if they are the same. -/
theorem same_iff {v w : Expression.Value} (hv : v.shape = .text ∨ v.shape = .int) :
    w.same v = true ↔ w = v := by
  cases v <;> cases w <;> simp [Expression.Value.shape, Expression.Value.same] at hv ⊢

/-- What is no handle is a scalar. -/
theorem exists_scalar {v : Value} (h : v.scalar? ≠ none) : ∃ s, v = .scalar s := by
  cases v with
  | scalar s => exact ⟨s, rfl⟩
  | request r owner => exact absurd rfl h
  | response r owner => exact absurd rfl h

/-- A scalar adds itself under its own name, and nothing else. -/
theorem fst_eq_of_added {e : String × Value} {s : Scalar} (hs : e.2 = .scalar s) {n : String}
    {v : Expression.Value} (h : added e n = some v) : e.1 = n := by
  have hmem := mem_of_lookup_reverse h
  rw [fieldsOf, hs] at hmem
  exact (congrArg Prod.fst (List.mem_singleton.1 hmem)).symm

/-- Of two variables that contest a name, one is a handle. -/
theorem exists_handle_of_contested {vars : Variables} {e e' : String × Value}
    (he : e ∈ vars.entries) (he' : e' ∈ vars.entries) {n : String} {v v' : Expression.Value}
    (hv : added e n = some v) (hv' : added e' n = some v') (hne : v ≠ v') :
    e.2.scalar? = none ∨ e'.2.scalar? = none := by
  refine Decidable.byContradiction fun hno => ?_
  rw [not_or] at hno
  obtain ⟨s, hs⟩ := exists_scalar hno.1
  obtain ⟨s', hs'⟩ := exists_scalar hno.2
  have hname : e.1 = e'.1 := (fst_eq_of_added hs hv).trans (fst_eq_of_added hs' hv').symm
  have hentry := Variables.get?_eq_some_iff.2 he
  have hentry' := Variables.get?_eq_some_iff.2 he'
  rw [hname, hentry'] at hentry
  have hsame : e = e' := Prod.ext hname (Option.some.inj hentry).symm
  rw [hsame, hv'] at hv
  exact hne (Option.some.inj hv).symm

/-- The truth value of a comparison of a variable with a given value. -/
theorem truth_compare {env : Environment} {entries : List (String × Value)} {ctx : Bindings}
    (h : env.bind entries = .ok ctx) {n : String} {w : Expression.Value} (hw : ctx.get? n = some w)
    (v : Expression.Value) (chance : Chance) :
    env.truth chance (.mk .equal [.mk (.literal v) [], .mk (.read n) []]) entries =
      .ok (w.same v) := by
  have heval : Expression.Node.eval chance ctx (.mk .equal [.mk (.literal v) [], .mk (.read n) []]) =
      .ok (.bool (w.same v)) := by
    simp only [Expression.Node.eval, Expression.Node.evalAll, Expression.operate, hw]
    rfl
  simp only [truth, h, Expression.truth, heval]
  rfl

/-- The tree has the same truth value, or none, in every order of the variables. -/
def OrderFree (env : Environment) (chance : Chance) (node : Expression.Node)
    (entries : List (String × Value)) : Prop :=
  ∀ l, l.Perm entries →
    (env.truth chance node l).toOption = (env.truth chance node entries).toOption

/-- **A name that is contested makes a difference** to a tree that reads it. -/
theorem not_orderFree_of_contested {env : Environment} {vars : Variables} {ctx : Bindings}
    (hctx : env.bind vars.entries = .ok ctx) {n : String} (hn : Contested vars.entries n)
    (chance : Chance) : ∃ node, ¬ env.OrderFree chance node vars.entries := by
  obtain ⟨e, he, e', he', v, v', hv, hv', hne⟩ := hn
  have hcoherent := ((env.bind_eq_ok_iff vars.entries).1 ⟨ctx, hctx⟩).2
  have hmem : ∀ {d w}, d ∈ vars.entries → added d n = some w →
      (n, w) ∈ vars.entries.flatMap fieldsOf :=
    fun hd hw => List.mem_flatMap.2 ⟨_, hd, mem_of_lookup_reverse hw⟩
  have hshape : v.shape = v'.shape := hcoherent _ (hmem he hv) _ (hmem he' hv') rfl
  have hplain : v.shape = .text ∨ v.shape = .int := by
    rcases exists_handle_of_contested he he' hv hv' hne with hhandle | hhandle
    · exact shape_of_handle hhandle _ (mem_of_lookup_reverse hv)
    · rw [hshape]
      exact shape_of_handle hhandle _ (mem_of_lookup_reverse hv')
  let node : Expression.Node := .mk .equal [.mk (.literal v) [], .mk (.read n) []]
  -- the variable that is listed last is the one that is seen
  have hlast : ∀ {d w}, d ∈ vars.entries → added d n = some w →
      ∃ l, l.Perm vars.entries ∧ env.truth chance node l = .ok (w.same v) := by
    intro d w hd hw
    obtain ⟨front, back, hsplit⟩ := List.append_of_mem hd
    have hperm : (front ++ back ++ [d]).Perm vars.entries := by
      rw [hsplit]
      exact List.perm_append_singleton d (front ++ back) |>.trans List.perm_middle.symm
    rcases env.bind_of_perm hperm with ⟨_, hnone⟩ | ⟨ctx', _, hbind, _⟩
    · rw [hctx] at hnone
      cases hnone
    · have hseen : ctx'.get? n = some w := (get?_of_bind hbind n).trans (lookup_fields_snoc _ hw)
      exact ⟨_, hperm, truth_compare hbind hseen v chance⟩
  refine ⟨node, fun hfree => ?_⟩
  obtain ⟨l, hl, htrue⟩ := hlast he hv
  obtain ⟨l', hl', hfalse⟩ := hlast he' hv'
  have hother : v'.same v = false := Bool.eq_false_iff.2 fun hsame =>
    hne ((same_iff hplain).1 hsame).symm
  rw [(same_iff hplain).2 rfl] at htrue
  rw [hother] at hfalse
  have hboth := (hfree l hl).trans (hfree l' hl').symm
  rw [htrue, hfalse] at hboth
  cases hboth

/-- **The order makes no difference exactly if nothing is contested**, unless there is no context at all.
Even if something is, it makes none to an expression that does not read it. -/
theorem order_free_iff_uncontested (env : Environment) (vars : Variables) (chance : Chance) :
    ((∀ node, env.OrderFree chance node vars.entries) ↔
      ∀ ctx, env.bind vars.entries = .ok ctx → ∀ n, ¬ Contested vars.entries n) ∧
    ∀ expression, (∀ node, (env.node expression).1 = .ok node →
        ∀ n, node.reads n = true → ¬ Contested vars.entries n) →
      ∀ l l', l.Perm vars.entries → l'.Perm vars.entries →
        (env.evaluateOn chance expression l).1.toOption =
          (env.evaluateOn chance expression l').1.toOption := by
  refine ⟨⟨fun hfree ctx hctx n hn => ?_, fun hnone node l hl => ?_⟩, ?_⟩
  · obtain ⟨node, hnode⟩ := not_orderFree_of_contested hctx hn chance
    exact hnode (hfree node)
  · cases hctx : env.bind vars.entries with
    | ok ctx => exact (env.toOption_truth_of_perm hl.symm (fun n _ => hnone ctx hctx n) chance).symm
    | error f =>
        rcases env.bind_of_perm hl with ⟨hleft, hright⟩ | ⟨_, ctx', _, hright, _⟩
        · rw [toOption_truth_of_none hleft, toOption_truth_of_none hright]
        · rw [hright] at hctx
          cases hctx
  · intro expression hreads l l' hl hl'
    have hleft := env.toOption_evaluateOn_of_perm hl.symm hreads chance
    have hright := env.toOption_evaluateOn_of_perm hl'.symm hreads chance
    exact hleft.symm.trans hright

/-- **A name that two variables contest**: a comparison holds or fails with the order of the two. -/
theorem evaluateOn_ne_of_contested :
    let env : Environment := ⟨[], []⟩
    let request : Http.Request :=
      ⟨"GET", some ⟨"http", "", "", some (.ipv6 [0, 0, 0, 0, 0, 0, 0, 1]), none, .segments [""], none,
        none⟩, Http.Headers.empty, []⟩
    let vars := (Variables.empty.insert "request" (.request request .pools)).insert "request.method"
      (.scalar (.text "POST"))
    let check := fun entries => (env.evaluateOn (.constant 7) "request.method == \"GET\"" entries).1.toOption
    vars.entries.reverse.Perm vars.entries ∧
      check vars.entries = some false ∧ check vars.entries.reverse = some true := by
  refine ⟨List.reverse_perm _, ?_, ?_⟩
  · decide +kernel
  · decide +kernel

end HttpProbe.Environment
