/-
**What rules write.**

A rule writes its bindings, then what its search captured, and in the end the exchange is gone.  Set
beside the run is a replay that knows nothing of requests, pools and verdicts: it writes these things
into the variables rule after rule.  A run leaves what the replay over the rules it got to leaves.  So a
name that none of these rules binds or captures keeps its value, and a rule that ends without holding
leaves its bindings and nothing else.

Main definitions:

* `Variables.afterRule`, `Variables.replay` — what a rule makes of the variables, and rules in a row;
* `Variables.AlikeBut` — variables that differ only in a given way;
* `Environment.drawing` — evaluating expressions, as the standard collaborators do;
* `Collaborators.searching` — collaborators that search with regular expressions;
* `Rule.captured`, `Run.captured` — what the search of a rule captures in a response, and in a run;
* `Run.performed` — rules with what each of them captured.

Main results:

* `Variables.get?_inserts` — what is read after several writings;
* `Run.vars_perform`, `Run.vars_through` — **a run writes what the replay writes**;
* `Session.vars_start` — the same, seen from a session.
-/

import HttpProbe.Proofs.Chain
import HttpProbe.Proofs.Entries
import HttpProbe.Proofs.Keeping

set_option autoImplicit false
set_option relaxedAutoImplicit false

namespace HttpProbe

/-! ### Writing variables -/

namespace Variables

/-- Puts bindings in, one after the other; each text is a template that sees those before it. -/
def merge (vars : Variables) (bindings : List (String × Scalar)) : Variables :=
  bindings.foldl (fun vars b => vars.insert b.1 (vars.bound b.2)) vars

/-- Puts texts in, one after the other. -/
def write (vars : Variables) (captured : List (String × String)) : Variables :=
  captured.foldl (fun vars w => vars.insert w.1 (.scalar (.text w.2))) vars

/-- Removes the exchange. -/
def dropExchange (vars : Variables) : Variables := (vars.erase requestName).erase responseName

/-- What a rule makes of the variables, if its search captures these texts. -/
def afterRule (vars : Variables) (rule : Rule) (captured : List (String × String)) : Variables :=
  ((vars.merge rule.set).write captured).dropExchange

/-- What rules in a row make of the variables. -/
def replay (vars : Variables) (performed : List (Rule × List (String × String))) : Variables :=
  performed.foldl (fun vars p => vars.afterRule p.1 p.2) vars

/-- The names that a rule writes, if its search captures these texts. -/
def writtenBy (performed : Rule × List (String × String)) : List String :=
  performed.1.set.map Prod.fst ++ performed.2.map Prod.fst

/-- What is read after several writings: what was there before, or what one of them wrote. -/
theorem get?_inserts {β : Type} (name : β → String) (value : Variables → β → Value) (l : List β)
    (vars : Variables) (m : String) :
    let after := l.foldl (fun vars b => vars.insert (name b) (value vars b)) vars
    after.get? m = vars.get? m ∨
      ∃ b ∈ l, name b = m ∧ ∃ before, after.get? m = some (value before b) := by
  induction l generalizing vars with
  | nil => exact .inl rfl
  | cons b rest ih =>
      rcases ih (vars.insert (name b) (value vars b)) with hkept | ⟨d, hd, hname, before, hvalue⟩
      · rw [get?_insert] at hkept
        by_cases hm : m = name b
        · rw [if_pos hm] at hkept
          exact .inr ⟨b, List.mem_cons_self, hm.symm, vars, hkept⟩
        · rw [if_neg hm] at hkept
          exact .inl hkept
      · exact .inr ⟨d, List.mem_cons_of_mem b hd, hname, before, hvalue⟩

theorem get?_merge (vars : Variables) (bindings : List (String × Scalar)) (m : String) :
    (vars.merge bindings).get? m = vars.get? m ∨
      ∃ b ∈ bindings, b.1 = m ∧
        ∃ before : Variables, (vars.merge bindings).get? m = some (before.bound b.2) :=
  get?_inserts Prod.fst (fun vars b => vars.bound b.2) bindings vars m

theorem get?_write (vars : Variables) (captured : List (String × String)) (m : String) :
    (vars.write captured).get? m = vars.get? m ∨
      ∃ w ∈ captured, w.1 = m ∧ (vars.write captured).get? m = some (.scalar (.text w.2)) := by
  rcases get?_inserts Prod.fst (fun _ w => .scalar (.text w.2)) captured vars m with
    hkept | ⟨w, hw, hname, _, hvalue⟩
  · exact .inl hkept
  · exact .inr ⟨w, hw, hname, hvalue⟩

theorem get?_dropExchange (vars : Variables) (m : String) :
    vars.dropExchange.get? m =
      if m = requestName ∨ m = responseName then none else vars.get? m := by
  rw [dropExchange, get?_erase, get?_erase]
  by_cases hresponse : m = responseName
  · rw [if_pos hresponse, if_pos (.inr hresponse)]
  · by_cases hrequest : m = requestName
    · rw [if_neg hresponse, if_pos hrequest, if_pos (.inl hrequest)]
    · rw [if_neg hresponse, if_neg hrequest, if_neg (not_or.2 ⟨hrequest, hresponse⟩)]

/-- A name that a rule does not write keeps its value, unless it is a name of the exchange. -/
theorem get?_afterRule (vars : Variables) {performed : Rule × List (String × String)} {m : String}
    (hm : m ≠ requestName ∧ m ≠ responseName) (hnot : m ∉ writtenBy performed) :
    (vars.afterRule performed.1 performed.2).get? m = vars.get? m := by
  rw [writtenBy, List.mem_append, not_or] at hnot
  rw [afterRule, get?_dropExchange, if_neg (not_or.2 hm)]
  have hwritten := get?_write (vars.merge performed.1.set) performed.2 m
  have hmerged := get?_merge vars performed.1.set m
  rcases hwritten with hwritten | ⟨w, hw, rfl, _⟩
  · rcases hmerged with hmerged | ⟨b, hb, rfl, _⟩
    · exact hwritten.trans hmerged
    · exact absurd (List.mem_map_of_mem hb) hnot.1
  · exact absurd (List.mem_map_of_mem hw) hnot.2

/-- After a rule the exchange is gone. -/
theorem get?_exchange_afterRule (vars : Variables) (rule : Rule)
    (captured : List (String × String)) :
    (vars.afterRule rule captured).get? requestName = none ∧
      (vars.afterRule rule captured).get? responseName = none := by
  rw [afterRule, get?_dropExchange, get?_dropExchange]
  exact ⟨if_pos (.inl rfl), if_pos (.inr rfl)⟩

/-- A name that no rule writes keeps its value, unless it is a name of the exchange. -/
theorem get?_replay {performed : List (Rule × List (String × String))} (vars : Variables)
    {m : String} (hm : m ≠ requestName ∧ m ≠ responseName)
    (hnot : ∀ p ∈ performed, m ∉ writtenBy p) :
    (vars.replay performed).get? m = vars.get? m := by
  induction performed generalizing vars with
  | nil => rfl
  | cons p rest ih =>
      have hrest : ∀ p ∈ rest, m ∉ writtenBy p := fun q hq => hnot q (List.mem_cons_of_mem p hq)
      have hfirst := get?_afterRule vars hm (hnot p List.mem_cons_self)
      exact (ih (vars.afterRule p.1 p.2) hrest).trans hfirst

/-- After rules, if there are any, the exchange is gone. -/
theorem get?_exchange_replay {performed : List (Rule × List (String × String))} (vars : Variables)
    (hne : performed ≠ []) :
    (vars.replay performed).get? requestName = none ∧
      (vars.replay performed).get? responseName = none := by
  induction performed generalizing vars with
  | nil => exact absurd rfl hne
  | cons p rest ih =>
      cases rest with
      | nil => exact get?_exchange_afterRule vars p.1 p.2
      | cons q rest => exact ih (vars.afterRule p.1 p.2) (by simp)

/-! ### Variables that differ in a given way -/

/-- Variables that differ only in a given way: `R n a b` allows `a` on the one side and `b` on the other
under the name `n`. -/
def AlikeBut (R : String → Option Value → Option Value → Prop) (vars vars' : Variables) : Prop :=
  ∀ n, vars.get? n = vars'.get? n ∨ R n (vars.get? n) (vars'.get? n)

namespace AlikeBut

variable {R S : String → Option Value → Option Value → Prop} {vars vars' : Variables}

theorem imp (h : AlikeBut R vars vars') (hRS : ∀ n a b, R n a b → S n a b) :
    AlikeBut S vars vars' :=
  fun n => (h n).imp_right (hRS n _ _)

/-- Under a name that is written on both sides nothing differs. -/
theorem insert (h : AlikeBut R vars vars') (name : String) (v : Value) :
    AlikeBut (fun n a b => R n a b ∧ n ≠ name) (vars.insert name v) (vars'.insert name v) := by
  intro n
  rw [get?_insert, get?_insert]
  by_cases hn : n = name
  · rw [if_pos hn, if_pos hn]
    exact .inl rfl
  · rw [if_neg hn, if_neg hn]
    exact (h n).imp_right fun hR => ⟨hR, hn⟩

theorem write (h : AlikeBut R vars vars') (captured : List (String × String)) :
    AlikeBut (fun n a b => R n a b ∧ n ∉ captured.map Prod.fst) (vars.write captured)
      (vars'.write captured) := by
  induction captured generalizing R vars vars' with
  | nil => exact h.imp fun n a b hR => ⟨hR, List.not_mem_nil⟩
  | cons c rest ih =>
      refine (ih (h.insert c.1 (.scalar (.text c.2)))).imp fun n x y hR => ⟨hR.1.1, ?_⟩
      rw [List.map_cons, List.mem_cons, not_or]
      exact ⟨hR.1.2, hR.2⟩

theorem dropExchange (h : AlikeBut R vars vars') :
    AlikeBut (fun n a b => R n a b ∧ ¬(n = requestName ∨ n = responseName)) vars.dropExchange
      vars'.dropExchange := by
  intro n
  rw [get?_dropExchange, get?_dropExchange]
  by_cases hn : n = requestName ∨ n = responseName
  · rw [if_pos hn, if_pos hn]
    exact .inl rfl
  · rw [if_neg hn, if_neg hn]
    exact (h n).imp_right fun hR => ⟨hR, hn⟩

end AlikeBut

/-- Variables that differ at most in the exchange. -/
def AlikeButExchange (vars vars' : Variables) : Prop :=
  AlikeBut (fun n _ _ => n = requestName ∨ n = responseName) vars vars'

theorem AlikeButExchange.write {vars vars' : Variables} (h : vars.AlikeButExchange vars')
    (captured : List (String × String)) :
    (vars.write captured).AlikeButExchange (vars'.write captured) :=
  (AlikeBut.write h captured).imp fun _ _ _ => And.left

/-- The exchange makes no lasting difference. -/
theorem AlikeButExchange.dropExchange {vars vars' : Variables} (h : vars.AlikeButExchange vars') :
    vars.dropExchange = vars'.dropExchange :=
  ext_get? fun n => (AlikeBut.dropExchange h n).resolve_right fun hn => hn.2 hn.1

theorem alikeButExchange_insert (vars : Variables) {name : String}
    (hname : name = requestName ∨ name = responseName) (v : Value) :
    (vars.insert name v).AlikeButExchange vars := by
  intro n
  rw [get?_insert]
  by_cases hn : n = name
  · exact .inr (hn ▸ hname)
  · exact .inl (if_neg hn)

theorem AlikeButExchange.trans {vars vars' vars'' : Variables} (h : vars.AlikeButExchange vars')
    (h' : vars'.AlikeButExchange vars'') : vars.AlikeButExchange vars'' := by
  intro n
  rcases h n with hsame | hexchange
  · rw [hsame]
    exact h' n
  · exact .inr hexchange

end Variables

namespace Scene

/-! ### Variables of a scene -/

theorem vars_merge (s : Scene) (bindings : List (String × Scalar)) :
    (s.merge bindings).vars = s.vars.merge bindings := by
  induction bindings generalizing s with
  | nil => rfl
  | cons b rest ih => exact ih (s.insert b.1 (s.vars.bound b.2))

theorem vars_write (s : Scene) (captured : List (String × String)) :
    (s.write captured).vars = s.vars.write captured := by
  induction captured generalizing s with
  | nil => rfl
  | cons w rest ih => exact ih (s.insert w.1 (.scalar (.text w.2)))

@[simp] theorem vars_dropExchange (s : Scene) : s.dropExchange.vars = s.vars.dropExchange := rfl

end Scene

/-! ### One rule -/

/-- Evaluating an expression beside a transport, with a part of the chance that is left. -/
def Environment.drawing {τ : Type} (env : Environment) (expression : String) (vars : Variables)
    (transport : τ) (chance : Chance) : Except EvalFault Bool × Environment × τ × Chance :=
  let (holds, env) := env.evaluate chance.left expression vars
  (holds, env, transport, chance.right)

/-- Collaborators that search with regular expressions.  The messages are exchanged, and the
expressions evaluated, by somebody with a state of their own. -/
def Collaborators.searching {τ : Type}
    (exchange : Http.Request → Bool → τ → Except TransportFault Http.RawResponse × τ)
    (evaluate : Environment → String → Variables → τ → Chance →
      Except EvalFault Bool × Environment × τ × Chance) :
    Collaborators (Outside τ) where
  exchange := exchangeBy exchange
  extract := search
  evaluate := fun env expression vars o =>
    let (holds, env, transport, chance) := evaluate env expression vars o.transport o.chance
    (holds, env, { o with transport := transport, chance := chance })

/-- The standard collaborators search with regular expressions. -/
theorem Collaborators.standard_eq_searching {τ : Type}
    (exchange : Http.Request → Bool → τ → Except TransportFault Http.RawResponse × τ) :
    standard exchange = searching exchange Environment.drawing := rfl

/-- What the search of a rule captures in the body of a response.  It captures nothing if there is no
search, if the pattern does not compile, and if it does not match. -/
def Rule.captured (rule : Rule) (raw : Http.RawResponse) : List (String × String) :=
  match rule.pattern? with
  | none => []
  | some pattern => Extraction.texts pattern (Text.lossy raw.body)

namespace Run

/-- What the search of a rule captures in a run.  It captures nothing if its request is malformed, and
if nothing comes back. -/
def captured {σ : Type} (c : Collaborators σ) (target : String) (rule : Rule) (run : Run σ) :
    List (String × String) :=
  match (rule.template target (run.merge rule.set).scene.vars).request with
  | .error _ => []
  | .ok q =>
    match (c.exchange q rule.followRedirects run.outside).1 with
    | .error _ => []
    | .ok raw => rule.captured raw

/-- Rules with what each of them captures, once those before it were performed. -/
def performed {σ : Type} (c : Collaborators σ) (target : String) :
    List Rule → Run σ → List (Rule × List (String × String))
  | [], _ => []
  | rule :: rest, run =>
    (rule, run.captured c target rule) :: performed c target rest (run.perform c target rule).2

section Captured

variable {σ : Type} {c : Collaborators σ} {target : String} {rule : Rule} {run : Run σ} {o : σ}
  {q : Http.Request}

theorem captured_of_malformed {f : Fault}
    (hrequest : (rule.template target (run.merge rule.set).scene.vars).request = .error f) :
    run.captured c target rule = [] := by
  rw [captured, hrequest]

theorem captured_of_unanswered {f : TransportFault}
    (hrequest : (rule.template target (run.merge rule.set).scene.vars).request = .ok q)
    (hanswer : c.exchange q rule.followRedirects run.outside = (.error f, o)) :
    run.captured c target rule = [] := by
  simp only [captured, hrequest, hanswer]

theorem captured_of_answer {raw : Http.RawResponse}
    (hrequest : (rule.template target (run.merge rule.set).scene.vars).request = .ok q)
    (hanswer : c.exchange q rule.followRedirects run.outside = (.ok raw, o)) :
    run.captured c target rule = rule.captured raw := by
  simp only [captured, hrequest, hanswer]

end Captured

variable {τ : Type}
  {exchange : Http.Request → Bool → τ → Except TransportFault Http.RawResponse × τ}
  {evaluate : Environment → String → Variables → τ → Chance →
    Except EvalFault Bool × Environment × τ × Chance}

variable (exchange evaluate) in
/-- Searching the body of a response writes what is found. -/
theorem searchBody_of_faithful {run : Run (Outside τ)}
    (h : Extraction.Faithful run.outside.patterns) (pattern : String) (r : Http.Response) :
    ∃ kept, Extraction.Faithful kept ∧
      run.searchBody (.searching exchange evaluate) pattern r =
        (searchVerdict ((Extraction.found pattern r.bodyText).map fun _ => ()),
          giveBack { run with
            scene := run.scene.write (Extraction.texts pattern r.bodyText)
            outside := { run.outside with patterns := kept } } (.response r .pools)) := by
  obtain ⟨kept, hkept, hextract⟩ :=
    Extraction.extract_of_faithful h pattern r.bodyText run.scene
  refine ⟨kept, hkept, ?_⟩
  simp only [searchBody, Collaborators.searching, Collaborators.search, hextract]

/-- A rule whose search does not match does not hold. -/
theorem texts_eq_nil {pattern text : String}
    (h : searchVerdict ((Extraction.found pattern text).map fun _ => ()) ≠ .ok true) :
    Extraction.texts pattern text = [] := by
  rw [Extraction.texts]
  cases hfound : Extraction.found pattern text with
  | error f => rfl
  | ok written =>
      rw [hfound] at h
      exact absurd rfl h

/-- Exchanging messages leaves the patterns that are kept as they are. -/
theorem faithful_of_exchange {q : Http.Request} {follow : Bool} {o o' : Outside τ}
    {answer : Except TransportFault Http.RawResponse} (h : Extraction.Faithful o.patterns)
    (hanswer : (Collaborators.searching exchange evaluate).exchange q follow o = (answer, o')) :
    Extraction.Faithful o'.patterns := by
  have hkept : o.patterns = o'.patterns := congrArg (fun x => x.2.patterns) hanswer
  rw [← hkept]
  exact h

variable (exchange evaluate) in
/-- **A rule writes its bindings and what its search captured**, and the exchange is gone.  If it does
not hold, its search captured nothing. -/
theorem vars_perform {run : Run (Outside τ)} (h : Extraction.Faithful run.outside.patterns)
    (target : String) (rule : Rule) :
    let c := Collaborators.searching exchange evaluate
    let result := run.perform c target rule
    result.2.scene.vars = run.scene.vars.afterRule rule (run.captured c target rule) ∧
      (result.1 ≠ .ok true → run.captured c target rule = []) ∧
      Extraction.Faithful result.2.outside.patterns := by
  intro c result
  have hresult : result = (((run.merge rule.set).step c target rule).1,
      ((run.merge rule.set).step c target rule).2.dropExchange) := perform_eq c target rule run
  have hmerged : (run.merge rule.set).scene.vars = run.scene.vars.merge rule.set :=
    Scene.vars_merge run.scene rule.set
  have hexit := exit_step c target rule (run.merge rule.set)
  rw [hresult, Variables.afterRule, ← hmerged]
  generalize (run.merge rule.set).step c target rule = out at hexit
  cases hexit with
  | malformed hrequest =>
      rw [captured_of_malformed hrequest]
      exact ⟨rfl, fun _ => rfl, h⟩
  | unanswered hrequest hanswer =>
      rw [captured_of_unanswered hrequest hanswer]
      exact ⟨rfl, fun _ => rfl, faithful_of_exchange h hanswer⟩
  | @searched q raw o pattern hrequest hanswer hpattern =>
      have hasked := Variables.alikeButExchange_insert (run.merge rule.set).scene.vars (.inl rfl)
        (.request q .pools)
      have hpatterns : Extraction.Faithful
          (((run.merge rule.set).sent rule q o).received q).outside.patterns :=
        faithful_of_exchange h hanswer
      obtain ⟨kept, hkept, hsearch⟩ :=
        searchBody_of_faithful exchange evaluate hpatterns pattern (.ofRaw raw q)
      rw [captured_of_answer hrequest hanswer, Rule.captured, hpattern, hsearch]
      refine ⟨?_, texts_eq_nil, hkept⟩
      rw [← (hasked.write (Extraction.texts pattern (Text.lossy raw.body))).dropExchange]
      exact congrArg Variables.dropExchange (Scene.vars_write _ _)
  | @evaluated q raw o hrequest hanswer hpattern =>
      have hasked := Variables.alikeButExchange_insert (run.merge rule.set).scene.vars (.inl rfl)
        (.request q .pools)
      have hseen := (Variables.alikeButExchange_insert _ (.inr rfl)
        (.response (.ofRaw raw q) .pools)).trans hasked
      have hpatterns : Extraction.Faithful o.patterns := faithful_of_exchange h hanswer
      rw [captured_of_answer hrequest hanswer, Rule.captured, hpattern]
      exact ⟨hseen.dropExchange, fun _ => rfl, hpatterns⟩

/-! ### Rules in a row -/

/-- A rule is listed with what it captures once those before it were performed. -/
theorem getElem?_performed {σ : Type} (c : Collaborators σ) (target : String) (rules : List Rule)
    (run : Run σ) (i : Nat) :
    (run.performed c target rules)[i]? = rules[i]?.map fun rule =>
      (rule, (run.through c target (rules.take i)).captured c target rule) := by
  induction rules generalizing run i with
  | nil => rfl
  | cons rule rest ih =>
      cases i with
      | zero => rfl
      | succ i =>
          rw [performed, List.getElem?_cons_succ, List.getElem?_cons_succ, List.take_succ_cons,
            through_cons]
          exact ih (run.perform c target rule).2 i

variable (exchange evaluate) in
/-- **Rules in a row write what the replay writes.** -/
theorem vars_through {run : Run (Outside τ)} (h : Extraction.Faithful run.outside.patterns)
    (target : String) (rules : List Rule) :
    let c := Collaborators.searching exchange evaluate
    (run.through c target rules).scene.vars =
        run.scene.vars.replay (run.performed c target rules) ∧
      Extraction.Faithful (run.through c target rules).outside.patterns := by
  intro c
  induction rules generalizing run with
  | nil => exact ⟨rfl, h⟩
  | cons rule rest ih =>
      obtain ⟨hvars, _, hpatterns⟩ := vars_perform exchange evaluate h target rule
      obtain ⟨hrest, hpatterns'⟩ := ih hpatterns
      rw [through_cons]
      refine ⟨?_, hpatterns'⟩
      rw [hrest, hvars]
      rfl

end Run

/-- **What a check may write.**  Whatever it comes to, a check leaves the variables as the replay over
the rules it got to: each writes its bindings, then what its search captured, and the exchange is
gone.  A rule that did not hold captured nothing.  So a name that none of these rules binds or captures
keeps its value, unless it is a name of the exchange; and without rules nothing changes. -/
theorem Session.vars_start {τ : Type}
    (exchange : Http.Request → Bool → τ → Except TransportFault Http.RawResponse × τ)
    (evaluate : Environment → String → Variables → τ → Chance →
      Except EvalFault Bool × Environment × τ × Chance)
    (target : String) (rules : List Rule) (name : String) (env : Environment) (vars : Variables)
    (models : Models) (transport : τ) (searched : List String) (luck : Chance) (journal : List Call) :
    let c := Collaborators.searching exchange evaluate
    let s : Session := ⟨name, some env, vars⟩
    let a : Surroundings (Outside τ) := ⟨models, ⟨transport, Extraction.keep searched, luck⟩, journal⟩
    let run := s.run env a
    let result := s.start c target rules a
    ∃ count calls, run.Chained c target false rules count result.1 calls ∧
      let performed := run.performed c target (rules.take count)
      result.2.1.vars = vars.replay performed ∧
        (∀ i rule captured, performed[i]? = some (rule, captured) →
          rules[i]? = some rule ∧
            captured = (run.through c target (rules.take i)).captured c target rule ∧
            (run.outcome c target rules i ≠ some (.ok true) → captured = [])) ∧
        (∀ m, m ≠ Variables.requestName ∧ m ≠ Variables.responseName →
          (∀ p ∈ performed, m ∉ Variables.writtenBy p) →
            result.2.1.vars.get? m = vars.get? m) ∧
        (rules ≠ [] → result.2.1.vars.get? Variables.requestName = none ∧
          result.2.1.vars.get? Variables.responseName = none) ∧
        (rules = [] → result.2.1.vars = vars) := by
  intro c s a run result
  have hkept : Extraction.Faithful run.outside.patterns := Extraction.faithful_keep searched
  obtain ⟨count, calls, hchained, hthrough, _⟩ := run.chained c target false rules
  have hresult : result = _ := start_of_env c target rules rfl a
  have hvars : result.2.1.vars = vars.replay (run.performed c target (rules.take count)) := by
    rw [hresult]
    exact (congrArg (fun r => r.scene.vars) hthrough).trans
      (Run.vars_through exchange evaluate hkept target (rules.take count)).1
  refine ⟨count, calls, ?_, hvars, ?_, ?_, ?_, ?_⟩
  · rw [hresult]
    exact hchained
  · intro i rule captured hi
    rw [Run.getElem?_performed] at hi
    obtain ⟨r, hr, heq⟩ := Option.map_eq_some_iff.1 hi
    rw [List.getElem?_take] at hr
    split at hr
    · rename_i hlt
      have htake : (rules.take count).take i = rules.take i := by
        rw [List.take_take, Nat.min_eq_left (Nat.le_of_lt hlt)]
      rw [htake] at heq
      cases heq
      have hbefore := (Run.vars_through exchange evaluate hkept target (rules.take i)).2
      have hrule := (Run.vars_perform exchange evaluate hbefore target rule).2.1
      refine ⟨hr, rfl, fun hfails => hrule fun hholds => hfails ?_⟩
      rw [Run.outcome, hr]
      exact congrArg some hholds
    · cases hr
  · intro m hm hnot
    rw [hvars, Variables.get?_replay vars hm hnot]
  · intro hne
    rw [hvars]
    refine Variables.get?_exchange_replay vars ?_
    obtain ⟨last, rfl, _⟩ := hchained.last.resolve_left fun hnil => hne hnil.1
    cases rules with
    | nil => exact absurd rfl hne
    | cons rule rest => exact List.cons_ne_nil _ _
  · rintro rfl
    rw [hvars, List.take_nil]
    rfl

end HttpProbe
