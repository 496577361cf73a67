/-
**What is not a matter of chance.**

Whenever the expression of a rule is evaluated, it draws anew, and the variables are listed in a new order.
So the same expression can be true and then false of the same variables.  It cannot if it is settled: if it
does not draw, and reads no name that two of the variables contest.  A name is contested only if it is one of
those that the exchange adds, such as `request.method`, and a scalar goes by it as well.

Main definitions:

* `Expression.plain` — does an expression neither draw nor read a name that could be contested?
* `Environment.Settled` — **an expression whose truth value is not a matter of chance**;
* `Variables.withExchange` — the variables that the expression of a rule is evaluated on;
* `Run.Settled`, `Moment.Settled`, `Fleet.Settled` — the same of what a rule is judged by, of a rule about to
  be performed, and of all that happens to a session.

Main results:

* `Chance.shuffle_perm`, `Chance.exists_shuffle` — an order of chance is an order, and every order is one;
* `Environment.isDerived_of_contested` — **what is contested**;
* `Environment.settled_of_plain` — a plain expression is settled;
* `Environment.verdict_of_settled` — **a settled expression has one verdict**;
* `Environment.exists_evaluate` — what any expression can come to.
-/

import HttpProbe.Proofs.Course
import HttpProbe.Proofs.Drawing
import HttpProbe.Proofs.Enumeration
import HttpProbe.Proofs.Keeping

set_option autoImplicit false
set_option relaxedAutoImplicit false

namespace HttpProbe

/-! ### Orders of chance -/

namespace Chance

variable {α : Type}

theorem insertIdx_length_append (front back : List α) (a : α) :
    (front ++ back).insertIdx front.length a = front ++ a :: back := by
  induction front with
  | nil => simp
  | cons b front ih => simp [ih]

/-- An order of chance is an order. -/
theorem shuffle_perm (c : Chance) (l : List α) : (c.shuffle l).Perm l := by
  induction l generalizing c with
  | nil => exact .refl _
  | cons a rest ih =>
      have hrest := ih c.left
      have hplace : c.below (rest.length + 1) ≤ (c.left.shuffle rest).length := by
        rw [hrest.length_eq]
        exact Nat.le_of_lt_succ (c.below_lt (Nat.succ_pos _))
      exact (List.perm_insertIdx a _ hplace).trans (hrest.cons a)

/-- Every order is one of chance. -/
theorem exists_shuffle {l l' : List α} (h : l'.Perm l) : ∃ c : Chance, c.shuffle l = l' := by
  induction l generalizing l' with
  | nil =>
      obtain rfl := h.eq_nil
      exact ⟨.constant 0, rfl⟩
  | cons a rest ih =>
      obtain ⟨front, back, rfl⟩ := List.append_of_mem (h.mem_iff.2 List.mem_cons_self)
      have hrest : (front ++ back).Perm rest := (List.perm_middle.symm.trans h).cons_inv
      obtain ⟨c, hc⟩ := ih hrest
      have hplace : front.length < rest.length + 1 := by
        rw [← hrest.length_eq, List.length_append]
        omega
      refine ⟨join front.length c c, ?_⟩
      rw [shuffle, left_join, hc, below_join hplace, insertIdx_length_append]

end Chance

/-! ### What is contested -/

namespace Environment

/-- The exchange adds names that begin with the name of the message. -/
theorem startsWith_of_added {e : String × Value} (he : e.2.scalar? = none) {n : String}
    {v : Expression.Value} (h : added e n = some v) :
    (e.1 = Variables.requestName ∨ e.1 = Variables.responseName) ∧
      Text.startsWith n (e.1 ++ ".") = true := by
  have hmem := mem_of_lookup_reverse h
  obtain ⟨name, value⟩ := e
  cases value with
  | scalar s => cases he
  | request r owner =>
      simp only [fieldsOf] at hmem
      split at hmem
      · rename_i hname
        obtain rfl : name = Variables.requestName := hname
        exact ⟨.inl rfl, startsWith_requestFields r _ hmem⟩
      · cases hmem
  | response r owner =>
      simp only [fieldsOf] at hmem
      split at hmem
      · rename_i hname
        obtain rfl : name = Variables.responseName := hname
        exact ⟨.inr rfl, startsWith_responseFields r _ hmem⟩
      · cases hmem

/-- No name begins with the names of both messages. -/
theorem not_startsWith_both (n : String) :
    ¬ (Text.startsWith n (Variables.requestName ++ ".") = true ∧
      Text.startsWith n (Variables.responseName ++ ".") = true) := by
  rintro ⟨hrequest, hresponse⟩
  have heq := List.prefix_or_prefix_of_prefix (List.isPrefixOf_iff_prefix.1 hrequest)
    (List.isPrefixOf_iff_prefix.1 hresponse)
  revert heq
  decide

/-- **What is contested**: a name that the exchange adds, by which a scalar goes as well. -/
theorem isDerived_of_contested {vars : Variables} {n : String} (h : Contested vars.entries n) :
    isDerived n = true ∧ ∃ s, vars.get? n = some (.scalar s) := by
  obtain ⟨e, he, e', he', v, v', hv, hv', hne⟩ := h
  have hderived : ∀ {e : String × Value} {v : Expression.Value}, e.2.scalar? = none →
      added e n = some v → isDerived n = true := by
    intro e v hhandle hv
    rw [isDerived]
    rcases startsWith_of_added hhandle hv with ⟨hname | hname, hstart⟩
    · rw [← hname, hstart, Bool.true_or]
    · rw [← hname, hstart, Bool.or_true]
  have hscalar : ∀ {e : String × Value} {v : Expression.Value}, e ∈ vars.entries →
      added e n = some v → e.2.scalar? ≠ none → ∃ s, vars.get? n = some (.scalar s) := by
    intro e v he hv hscalar
    obtain ⟨s, hs⟩ := exists_scalar hscalar
    rw [← fst_eq_of_added hs hv, Variables.get?_eq_some_iff.2 he, hs]
    exact ⟨s, rfl⟩
  by_cases hfirst : e.2.scalar? = none
  · refine ⟨hderived hfirst hv, hscalar he' hv' fun hsecond => ?_⟩
    -- two handles add no name in common, and one handle contests nothing with itself
    obtain ⟨hname, hstart⟩ := startsWith_of_added hfirst hv
    obtain ⟨hname', hstart'⟩ := startsWith_of_added hsecond hv'
    have hsame : e.1 = e'.1 := by
      rcases hname with hname | hname <;> rcases hname' with hname' | hname'
      · rw [hname, hname']
      · exact absurd ⟨hname ▸ hstart, hname' ▸ hstart'⟩ (not_startsWith_both n)
      · exact absurd ⟨hname' ▸ hstart', hname ▸ hstart⟩ (not_startsWith_both n)
      · rw [hname, hname']
    have hentry := Variables.get?_eq_some_iff.2 he
    rw [hsame, Variables.get?_eq_some_iff.2 he'] at hentry
    obtain rfl : e = e' := Prod.ext hsame (Option.some.inj hentry).symm
    exact hne (Option.some.inj (hv.symm.trans hv'))
  · refine ⟨?_, hscalar he hv hfirst⟩
    exact hderived ((exists_handle_of_contested he he' hv hv' hne).resolve_left hfirst) hv'

/-- What is contested depends on the exchange and on what goes by the same name. -/
theorem Contested.congr {vars vars' : Variables} {n : String} (h : Contested vars.entries n)
    (hname : vars.get? n = vars'.get? n)
    (hrequest : vars.get? Variables.requestName = vars'.get? Variables.requestName)
    (hresponse : vars.get? Variables.responseName = vars'.get? Variables.responseName) :
    Contested vars'.entries n := by
  have hmem : ∀ {e : String × Value} {v : Expression.Value}, e ∈ vars.entries →
      added e n = some v → e ∈ vars'.entries := by
    intro e v he hv
    have hsame : vars.get? e.1 = vars'.get? e.1 := by
      by_cases hhandle : e.2.scalar? = none
      · rcases (startsWith_of_added hhandle hv).1 with heq | heq
        · rwa [heq]
        · rwa [heq]
      · obtain ⟨s, hs⟩ := exists_scalar hhandle
        rwa [fst_eq_of_added hs hv]
    exact Variables.get?_eq_some_iff.1 (hsame.symm.trans (Variables.get?_eq_some_iff.2 he))
  obtain ⟨e, he, e', he', v, v', hv, hv', hne⟩ := h
  exact ⟨e, hmem he hv, e', hmem he' hv', v, v', hv, hv', hne⟩

/-- A name that the exchange does not add is not contested. -/
theorem not_contested_of_not_derived {vars : Variables} {n : String} (h : isDerived n = false) :
    ¬ Contested vars.entries n := by
  intro hn
  rw [(isDerived_of_contested hn).1] at h
  cases h

end Environment

/-! ### Plain expressions -/

namespace Expression

/-- The name that an operator reads, if it reads one. -/
def Operator.name? : Operator → Option String
  | .read n => some n
  | _ => none

mutual
/-- The names that a tree reads. -/
def Node.names : Node → List String
  | .mk op args => op.name?.toList ++ anyNames args

/-- The names that several trees read. -/
def Node.anyNames : List Node → List String
  | [] => []
  | n :: rest => n.names ++ anyNames rest
end

mutual
/-- What a tree reads is among its names. -/
theorem Node.mem_names_of_reads (n : Node) {name : String} (h : n.reads name = true) :
    name ∈ n.names := by
  cases n with
  | mk op args =>
      rw [Node.reads, Bool.or_eq_true] at h
      rw [Node.names, List.mem_append]
      refine h.imp (fun hop => ?_) (Node.mem_anyNames_of_reads args)
      cases op with
      | read m =>
          obtain rfl : m = name := of_decide_eq_true hop
          exact List.mem_singleton_self m
      | _ => cases hop

theorem Node.mem_anyNames_of_reads (args : List Node) {name : String}
    (h : Node.anyReads name args = true) : name ∈ Node.anyNames args := by
  cases args with
  | nil => cases h
  | cons n rest =>
      rw [Node.anyReads, Bool.or_eq_true] at h
      rw [Node.anyNames, List.mem_append]
      exact h.imp n.mem_names_of_reads (Node.mem_anyNames_of_reads rest)
end

/-- Does an expression neither draw nor read a name that the exchange could add?  This can be told without
variables. -/
def plain (expression : String) : Bool :=
  match parse expression with
  | .error _ => true
  | .ok n => !n.draws && n.names.all fun name => !Environment.isDerived name

end Expression

/-! ### Settled expressions -/

namespace Environment

/-- **The truth value of an expression is not a matter of chance**: the expression does not draw, and reads
no name that two of the variables contest. -/
def Settled (env : Environment) (expression : String) (vars : Variables) : Prop :=
  ∀ node, (env.node expression).1 = .ok node →
    node.draws = false ∧ ∀ n, node.reads n = true → ¬ Contested vars.entries n

/-- Whether an expression is settled does not depend on what is kept. -/
theorem Settled.congr {env env' : Environment} {expression : String} {vars : Variables}
    (hs : env.Settled expression vars) (h : env.Faithful) (h' : env'.Faithful) :
    env'.Settled expression vars := by
  intro node hnode
  rw [node_of_faithful h', ← node_of_faithful h] at hnode
  exact hs node hnode

/-- Whether an expression is settled depends on the exchange and on the names that it could add. -/
theorem Settled.of_agree {env : Environment} {expression : String} {vars vars' : Variables}
    (hs : env.Settled expression vars)
    (hderived : ∀ n, isDerived n = true → vars.get? n = vars'.get? n)
    (hrequest : vars.get? Variables.requestName = vars'.get? Variables.requestName)
    (hresponse : vars.get? Variables.responseName = vars'.get? Variables.responseName) :
    env.Settled expression vars' := by
  intro node hnode
  refine ⟨(hs node hnode).1, fun n hn hcontested => (hs node hnode).2 n hn ?_⟩
  have hname := hderived n (isDerived_of_contested hcontested).1
  exact hcontested.congr hname.symm hrequest.symm hresponse.symm

/-- A plain expression is settled. -/
theorem settled_of_plain {env : Environment} (h : env.Faithful) {expression : String}
    (hplain : Expression.plain expression = true) (vars : Variables) :
    env.Settled expression vars := by
  intro node hnode
  rw [node_of_faithful h] at hnode
  rw [Expression.plain] at hplain
  cases hparse : Expression.parse expression with
  | error f =>
      rw [hparse] at hnode
      cases hnode
  | ok n =>
      rw [hparse] at hnode hplain
      obtain rfl := Except.ok.inj hnode
      rw [Bool.and_eq_true, Bool.not_eq_true', List.all_eq_true] at hplain
      refine ⟨hplain.1, fun name hname => not_contested_of_not_derived ?_⟩
      simpa using hplain.2 name (n.mem_names_of_reads hname)

/-- What is kept afterwards depends on what was kept before. -/
theorem snd_evaluateOn (env : Environment) (chance : Chance) (expression : String)
    (entries : List (String × Value)) :
    (env.evaluateOn chance expression entries).2 = (env.node expression).2 := by
  rw [evaluateOn]
  rcases env.node expression with ⟨_ | node, env'⟩ <;> rfl

variable {env : Environment} {expression : String} {vars : Variables}

/-- A settled expression has one truth value, or none, in every order of the variables. -/
theorem toOption_evaluateOn_of_settled (h : env.Settled expression vars)
    {l l' : List (String × Value)} (hl : l.Perm vars.entries) (hl' : l'.Perm vars.entries)
    (chance chance' : Chance) :
    (env.evaluateOn chance expression l).1.toOption =
      (env.evaluateOn chance' expression l').1.toOption := by
  have hreads := fun node hnode => (h node hnode).2
  have hchance : env.evaluateOn chance expression vars.entries =
      env.evaluateOn chance' expression vars.entries := by
    simp only [evaluateOn]
    rcases hnode : env.node expression with ⟨f | node, env'⟩
    · rfl
    · have hdraws := (h node (congrArg Prod.fst hnode)).1
      simp only [truth, Expression.truth, node.eval_of_not_draws hdraws chance chance']
  have hleft := env.toOption_evaluateOn_of_perm hl.symm hreads chance
  have hright := env.toOption_evaluateOn_of_perm hl'.symm hreads chance'
  rw [← hleft, hchance, hright]

theorem expressionVerdict_congr {x y : Except EvalFault Bool} (h : x.toOption = y.toOption) :
    Run.expressionVerdict x = Run.expressionVerdict y := by
  cases x <;> cases y <;> cases h <;> rfl

/-- **A settled expression has one verdict.** -/
theorem verdict_of_settled (h : env.Settled expression vars) (chance chance' : Chance)
    {l : List (String × Value)} (hl : l.Perm vars.entries) :
    Run.expressionVerdict (env.evaluate chance expression vars).1 =
      Run.expressionVerdict (env.evaluateOn chance' expression l).1 :=
  expressionVerdict_congr
    (toOption_evaluateOn_of_settled h (chance.right.shuffle_perm vars.entries) hl chance.left chance')

/-- It is the one that is reached if nothing is kept, by any chance. -/
theorem verdict_eq_judged (h : env.Settled expression vars) (hkept : env.Faithful)
    (chance chance' : Chance) :
    Run.expressionVerdict (env.evaluate chance expression vars).1 =
      Run.expressionVerdict (env.judged chance' expression vars.entries) := by
  obtain ⟨_, _, _, heq⟩ := evaluateOn_of_faithful hkept chance' expression vars.entries
  rw [verdict_of_settled h chance chance' (.refl _), heq]

/-- By the same chance an expression has one verdict, and if it is settled, by any.  What is kept afterwards
is the same. -/
theorem evaluate_of_settled {chance chance' : Chance}
    (h : chance = chance' ∨ env.Settled expression vars) :
    Run.expressionVerdict (env.evaluate chance expression vars).1 =
        Run.expressionVerdict (env.evaluate chance' expression vars).1 ∧
      (env.evaluate chance expression vars).2 = (env.evaluate chance' expression vars).2 := by
  refine ⟨?_, (env.snd_evaluateOn _ expression _).trans (env.snd_evaluateOn _ expression _).symm⟩
  rcases h with rfl | h
  · rfl
  · exact verdict_of_settled h _ _ (Chance.shuffle_perm _ _)

/-- **What an expression can come to** is what it comes to in some order, and with some draws. -/
theorem exists_evaluate (env : Environment) (chance : Chance) (expression : String)
    {l : List (String × Value)} (hl : l.Perm vars.entries) :
    ∃ chance', env.evaluate chance' expression vars = env.evaluateOn chance expression l := by
  obtain ⟨order, horder⟩ := Chance.exists_shuffle hl
  refine ⟨.join 0 chance order, ?_⟩
  rw [evaluate, Chance.left_join, Chance.right_join, horder]

end Environment

/-! ### Settled rules -/

/-- The variables with an exchange among them. -/
def Variables.withExchange (vars : Variables) (q : Http.Request) (raw : Http.RawResponse) :
    Variables :=
  (vars.insert requestName (.request q .pools)).insert responseName (.response (.ofRaw raw q) .pools)

variable {σ : Type} (c : Collaborators σ)

/-- **What a rule is judged by is settled**, if it is judged by its expression.  The bindings of the rule are
among the variables. -/
def Run.Settled (target : String) (rule : Rule) (run : Run σ) : Prop :=
  ∀ q raw, rule.pattern? = none → (rule.template target run.scene.vars).request = .ok q →
    (c.exchange q rule.followRedirects run.outside).1 = .ok raw →
      run.env.Settled rule.expression (run.scene.vars.withExchange q raw)

/-- What a rule about to be performed is judged by is settled. -/
def Moment.Settled (m : Moment σ) : Prop :=
  (m.run.merge m.rule.set).Settled c m.target m.rule

/-- **All that a session is judged by in operations in a row is settled.** -/
def Fleet.Settled (who : Option String) (ops : List Operation) (f : Fleet σ) : Prop :=
  ∀ m, .performed m ∈ f.life c who ops → m.Settled c

variable {c}

/-- A session that is judged by plain expressions only, before anything is compiled, is judged by what is
settled. -/
theorem Fleet.settled_of_plain {who : Option String} {ops : List Operation} {f : Fleet σ}
    (hlife : ((f.life c who ops).all fun
      | .performed m => m.run.env.compiled.isEmpty && Expression.plain m.rule.expression
      | _ => true) = true) : f.Settled c who ops := by
  intro m hm q raw _ _ _
  have hperformed := List.all_eq_true.1 hlife _ hm
  rw [Bool.and_eq_true, List.isEmpty_iff] at hperformed
  have hfaithful : m.run.env.Faithful := by
    rw [Environment.Faithful, hperformed.1]
    exact faithful_nil _
  exact Environment.settled_of_plain hfaithful hperformed.2 _

/-- What the session of the first operation is judged by in it is settled. -/
theorem Fleet.Settled.first {op : Operation} {rest : List Operation} {f : Fleet σ}
    (h : f.Settled c op.slot? (op :: rest)) :
    ∀ m, .performed m ∈ f.eventsOf c op → m.Settled c := by
  intro m hm
  refine h m (List.mem_append_left _ ?_)
  rw [events, if_pos rfl]
  exact hm

/-- What a session is judged by in the operations after the first is settled. -/
theorem Fleet.Settled.rest {who : Option String} {op : Operation} {rest : List Operation}
    {f : Fleet σ} (h : f.Settled c who (op :: rest)) : (f.perform c op).2.Settled c who rest :=
  fun m hm => h m (List.mem_append_right _ hm)

end HttpProbe
