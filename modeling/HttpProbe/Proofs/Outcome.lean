/-
**What a check comes to is decided by the variables.**

The standard collaborators around a transport without a state have nothing of their own that a check
depends on, but chance.  So what rules come to, and what they make of the variables, is a function of the
variables they start from, as long as what they are judged by is settled.  This module writes that function
down, without pools, journals, chance and what is kept compiled, and shows that a session comes to it.

Main definitions:

* `Setting` — the declarations, the transport and the target;
* `Setting.verdict`, `Setting.after` — what a rule comes to, and what it makes of the variables;
* `Setting.chainFrom`, `Setting.groups` — the same of rules, and of groups of rules;
* `Setting.Settled`, `Setting.AllSettled`, `Setting.GroupsSettled` — **what is no matter of chance there**;
* `Setting.Fits` — a run in the setting, with nothing wrong kept.

Main results:

* `Setting.Fits.perform` — **performing a rule comes to what the variables decide**;
* `Setting.Fits.startByGroups` — the same of groups, seen from a session.
-/

import HttpProbe.Proofs.Isolation
import HttpProbe.Proofs.Writing

set_option autoImplicit false
set_option relaxedAutoImplicit false

namespace HttpProbe

/-- What a check depends on besides the variables. -/
structure Setting where
  env : Environment
  answer : Http.Request → Bool → Except TransportFault Http.RawResponse
  target : String

namespace Setting

/-! ### What the variables decide -/

section Decided

variable (w : Setting)

/-- The standard collaborators around the transport. -/
def collaborators : Collaborators (Outside Unit) := .answering w.answer

/-- What a rule sends and gets back, once its bindings are in. -/
def exchange (rule : Rule) (vars : Variables) : Except Fault (Http.Request × Http.RawResponse) :=
  match (rule.template w.target vars).request with
  | .error f => .error f
  | .ok q =>
    match w.answer q rule.followRedirects with
    | .error f => .error (.transport f)
    | .ok raw => .ok (q, raw)

/-- How a response is judged.  An expression is judged by one source of chance and in one order of the
variables; if it is settled, any others would do. -/
def judge (rule : Rule) (vars : Variables) (q : Http.Request) (raw : Http.RawResponse) : Verdict :=
  match rule.pattern? with
  | some pattern =>
    Run.searchVerdict ((Extraction.found pattern (Text.lossy raw.body)).map fun _ => ())
  | none =>
    Run.expressionVerdict
      (w.env.judged (.constant 0) rule.expression (vars.withExchange q raw).entries)

/-- What a rule comes to. -/
def verdict (rule : Rule) (vars : Variables) : Verdict :=
  match w.exchange rule (vars.merge rule.set) with
  | .error f => .error f
  | .ok (q, raw) => w.judge rule (vars.merge rule.set) q raw

/-- What the search of a rule captures. -/
def captured (rule : Rule) (vars : Variables) : List (String × String) :=
  match w.exchange rule (vars.merge rule.set) with
  | .error _ => []
  | .ok (_, raw) => rule.captured raw

/-- What a rule makes of the variables. -/
def after (rule : Rule) (vars : Variables) : Variables :=
  vars.afterRule rule (w.captured rule vars)

/-- What rules come to, and what they make of the variables; `verified` is the verdict on those
before. -/
def chainFrom (w : Setting) (verified : Bool) : List Rule → Variables → Verdict × Variables
  | [], vars => (.ok verified, vars)
  | rule :: rest, vars =>
    match w.verdict rule vars with
    | .ok true => w.chainFrom true rest (w.after rule vars)
    | verdict => (verdict, w.after rule vars)

/-- What groups come to, and what they make of the variables. -/
def groups (w : Setting) : List RuleGroup → Variables → Verdict × Variables
  | [], vars => (.ok false, vars)
  | g :: rest, vars =>
    match w.chainFrom false g.rules vars with
    | (.ok false, vars) => w.groups rest vars
    | (verdict, vars) => (verdict, vars)

/-- **What a rule is judged by is settled**, if it is judged by its expression. -/
def Settled (rule : Rule) (vars : Variables) : Prop :=
  ∀ q raw, rule.pattern? = none → w.exchange rule (vars.merge rule.set) = .ok (q, raw) →
    w.env.Settled rule.expression ((vars.merge rule.set).withExchange q raw)

/-- What rules in a row are judged by is settled, up to the first that does not hold. -/
def AllSettled (w : Setting) : List Rule → Variables → Prop
  | [], _ => True
  | rule :: rest, vars =>
    w.Settled rule vars ∧ (w.verdict rule vars = .ok true → w.AllSettled rest (w.after rule vars))

/-- What groups are judged by is settled, up to the first that holds or cannot be performed. -/
def GroupsSettled (w : Setting) : List RuleGroup → Variables → Prop
  | [], _ => True
  | g :: rest, vars =>
    w.AllSettled g.rules vars ∧ ((w.chainFrom false g.rules vars).1 = .ok false →
      w.GroupsSettled rest (w.chainFrom false g.rules vars).2)

/-- A run in the setting, with nothing wrong kept. -/
structure Fits (run : Run (Outside Unit)) : Prop where
  declared : run.env.declarations = w.env.declarations
  kept : w.env.Faithful
  expressions : run.env.Faithful
  patterns : Extraction.Faithful run.outside.patterns

end Decided

variable {w : Setting}

theorem exchange_of_error {rule : Rule} {vars : Variables} {f : Fault}
    (hrequest : (rule.template w.target vars).request = .error f) :
    w.exchange rule vars = .error f := by
  rw [exchange, hrequest]

theorem exchange_of_unanswered {rule : Rule} {vars : Variables} {q : Http.Request}
    {f : TransportFault} (hrequest : (rule.template w.target vars).request = .ok q)
    (hanswer : w.answer q rule.followRedirects = .error f) :
    w.exchange rule vars = .error (.transport f) := by
  simp only [exchange, hrequest, hanswer]

theorem exchange_of_answer {rule : Rule} {vars : Variables} {q : Http.Request}
    {raw : Http.RawResponse} (hrequest : (rule.template w.target vars).request = .ok q)
    (hanswer : w.answer q rule.followRedirects = .ok raw) :
    w.exchange rule vars = .ok (q, raw) := by
  simp only [exchange, hrequest, hanswer]

/-- A rule whose request is answered comes to how the answer is judged. -/
theorem verdict_of_answer {rule : Rule} {vars : Variables} {q : Http.Request}
    {raw : Http.RawResponse}
    (hrequest : (rule.template w.target (vars.merge rule.set)).request = .ok q)
    (hanswer : w.answer q rule.followRedirects = .ok raw) :
    w.verdict rule vars = w.judge rule (vars.merge rule.set) q raw := by
  rw [verdict, exchange_of_answer hrequest hanswer]

/-- After a rule that holds the others come. -/
theorem chainFrom_of_holds {rule : Rule} {vars : Variables}
    (h : w.verdict rule vars = .ok true) (verified : Bool) (rest : List Rule) :
    w.chainFrom verified (rule :: rest) vars = w.chainFrom true rest (w.after rule vars) := by
  rw [chainFrom, h]

/-- A rule that does not hold is the last one. -/
theorem chainFrom_of_fails {rule : Rule} {vars : Variables}
    (h : w.verdict rule vars ≠ .ok true) (verified : Bool) (rest : List Rule) :
    w.chainFrom verified (rule :: rest) vars = (w.verdict rule vars, w.after rule vars) := by
  rw [chainFrom]
  generalize w.verdict rule vars = verdict at h ⊢
  rcases verdict with _ | _ | _
  · rfl
  · rfl
  · exact absurd rfl h

/-- One rule is a chain of its own. -/
theorem chainFrom_singleton (w : Setting) (verified : Bool) (rule : Rule) (vars : Variables) :
    w.chainFrom verified [rule] vars = (w.verdict rule vars, w.after rule vars) := by
  by_cases hholds : w.verdict rule vars = .ok true
  · rw [chainFrom_of_holds hholds, hholds]
    rfl
  · exact chainFrom_of_fails hholds verified []

/-- A rule without a search leaves its bindings. -/
theorem after_of_none {rule : Rule} (h : rule.pattern? = none) (vars : Variables) :
    w.after rule vars = (vars.merge rule.set).dropExchange := by
  have hcaptured : w.captured rule vars = [] := by
    rw [captured]
    cases w.exchange rule (vars.merge rule.set) with
    | error f => rfl
    | ok x => simp only [Rule.captured, h]
  rw [after, hcaptured]
  rfl

/-- After a group that does not hold the others come. -/
theorem groups_of_next {g : RuleGroup} {vars : Variables}
    (h : (w.chainFrom false g.rules vars).1 = .ok false) (rest : List RuleGroup) :
    w.groups (g :: rest) vars = w.groups rest (w.chainFrom false g.rules vars).2 := by
  rcases hchain : w.chainFrom false g.rules vars with ⟨verdict, vars'⟩
  rw [hchain] at h
  obtain rfl := h
  rw [groups, hchain]

/-- A group that holds, or cannot be performed, is the last one. -/
theorem groups_of_last {g : RuleGroup} {vars : Variables}
    (h : (w.chainFrom false g.rules vars).1 ≠ .ok false) (rest : List RuleGroup) :
    w.groups (g :: rest) vars = w.chainFrom false g.rules vars := by
  rw [groups]
  generalize w.chainFrom false g.rules vars = result at h ⊢
  rcases result with ⟨_ | _ | _, vars'⟩
  · rfl
  · exact absurd rfl h
  · rfl

/-! ### Runs come to it -/

/-- An exchange comes to what the transport answers, and leaves everything as it was. -/
theorem answered {q : Http.Request} {follow : Bool} {o o' : Outside Unit}
    {answer : Except TransportFault Http.RawResponse}
    (h : w.collaborators.exchange q follow o = (answer, o')) :
    w.answer q follow = answer ∧ o = o' :=
  Prod.mk.inj h

/-- What a search captures in a run is what the variables decide. -/
theorem captured_run (w : Setting) (run : Run (Outside Unit)) (rule : Rule) :
    run.captured w.collaborators w.target rule = w.captured rule run.scene.vars := by
  have hmerge : (run.merge rule.set).scene.vars = run.scene.vars.merge rule.set :=
    Scene.vars_merge run.scene rule.set
  have hanswers : ∀ q, (w.collaborators.exchange q rule.followRedirects run.outside).1 =
      w.answer q rule.followRedirects := fun q => rfl
  rw [Run.captured, captured, exchange, hmerge]
  cases (rule.template w.target (run.scene.vars.merge rule.set)).request with
  | error f => rfl
  | ok q =>
      simp only [hanswers]
      cases w.answer q rule.followRedirects <;> rfl

namespace Fits

variable {run : Run (Outside Unit)}

/-- What a rule comes to in a run is what the variables decide, and nothing wrong is kept. -/
theorem step (h : w.Fits run) (rule : Rule) (hsettled : w.Settled rule run.scene.vars) :
    let result := (run.merge rule.set).step w.collaborators w.target rule
    result.1 = w.verdict rule run.scene.vars ∧ w.Fits result.2 := by
  have hmerge : (run.merge rule.set).scene.vars = run.scene.vars.merge rule.set :=
    Scene.vars_merge run.scene rule.set
  have hexit := Run.exit_step w.collaborators w.target rule (run.merge rule.set)
  dsimp only
  rw [Settled, ← hmerge] at hsettled
  rw [verdict, ← hmerge]
  generalize (run.merge rule.set).step w.collaborators w.target rule = result at hexit
  cases hexit with
  | malformed hrequest =>
      rw [exchange_of_error hrequest]
      exact ⟨rfl, h.declared, h.kept, h.expressions, h.patterns⟩
  | unanswered hrequest hanswer =>
      obtain ⟨hsaid, rfl⟩ := answered hanswer
      rw [exchange_of_unanswered hrequest hsaid]
      exact ⟨rfl, h.declared, h.kept, h.expressions, h.patterns⟩
  | @searched q raw o pattern hrequest hanswer hpattern =>
      obtain ⟨hsaid, rfl⟩ := answered hanswer
      let asked := ((run.merge rule.set).sent rule q run.outside).received q
      have hkept : Extraction.Faithful asked.outside.patterns := h.patterns
      obtain ⟨kept, hfaithful, hsearch⟩ :=
        Run.searchBody_of_faithful _ _ hkept pattern (.ofRaw raw q)
      rw [exchange_of_answer hrequest hsaid]
      change (asked.searchBody w.collaborators pattern (.ofRaw raw q)).1 = _ ∧
        w.Fits (asked.searchBody w.collaborators pattern (.ofRaw raw q)).2
      rw [collaborators, Collaborators.answering, Collaborators.standard_eq_searching, hsearch]
      simp only [judge, hpattern]
      exact ⟨rfl, h.declared, h.kept, h.expressions, hfaithful⟩
  | @evaluated q raw o hrequest hanswer hpattern =>
      obtain ⟨hsaid, rfl⟩ := answered hanswer
      have hexchange := exchange_of_answer hrequest hsaid
      let luck := run.outside.chance.left
      let vars := (run.merge rule.set).scene.vars.withExchange q raw
      have hrule : run.env.Settled rule.expression vars :=
        (hsettled q raw hpattern hexchange).congr h.kept h.expressions
      obtain ⟨env, hfaithful, hsame, hevaluate⟩ := Environment.evaluateOn_of_faithful h.expressions
        luck.left rule.expression (luck.right.shuffle vars.entries)
      have hverdict := Environment.verdict_eq_judged hrule h.expressions luck (.constant 0)
      rw [Environment.judged_congr h.declared] at hverdict
      have hleft : (run.env.evaluate luck rule.expression vars).2 = env := congrArg Prod.snd hevaluate
      rw [hexchange]
      simp only [judge, hpattern]
      refine ⟨hverdict, ?_, h.kept, ?_, h.patterns⟩
      · exact (congrArg Environment.declarations hleft).trans (hsame.trans h.declared)
      · change (run.env.evaluate luck rule.expression vars).2.Faithful
        rwa [hleft]

/-- What a rule makes of the variables in a run is what they decide. -/
theorem vars_perform (h : w.Fits run) (rule : Rule) :
    (run.perform w.collaborators w.target rule).2.scene.vars = w.after rule run.scene.vars := by
  have hvars := Run.vars_perform (fun request follow _ => (w.answer request follow, ()))
    Environment.drawing h.patterns w.target rule
  rw [after, ← captured_run w run rule]
  exact hvars.1

theorem dropExchange (h : w.Fits run) : w.Fits run.dropExchange :=
  ⟨h.declared, h.kept, h.expressions, h.patterns⟩

/-- **Performing a rule comes to what the variables decide.** -/
theorem perform (h : w.Fits run) (rule : Rule) (hsettled : w.Settled rule run.scene.vars) :
    let result := run.perform w.collaborators w.target rule
    result.1 = w.verdict rule run.scene.vars ∧ result.2.scene.vars = w.after rule run.scene.vars ∧
      w.Fits result.2 := by
  have hvars := h.vars_perform rule
  obtain ⟨hverdict, hfits⟩ := h.step rule hsettled
  rw [Run.perform_eq] at hvars ⊢
  exact ⟨hverdict, hvars, hfits.dropExchange⟩

/-- Performing rules comes to what the variables decide. -/
theorem chainFrom (h : w.Fits run) (verified : Bool) (rules : List Rule)
    (hsettled : w.AllSettled rules run.scene.vars) :
    let result := run.chainFrom w.collaborators w.target verified rules
    (result.1, result.2.scene.vars) = w.chainFrom verified rules run.scene.vars ∧
      w.Fits result.2 := by
  induction rules generalizing run verified with
  | nil => exact ⟨rfl, h⟩
  | cons rule rest ih =>
      obtain ⟨hverdict, hvars, hfits⟩ := h.perform rule hsettled.1
      by_cases hholds : w.verdict rule run.scene.vars = .ok true
      · rw [Run.chainFrom_of_holds (hverdict.trans hholds), chainFrom_of_holds hholds, ← hvars]
        exact ih hfits true (hvars ▸ hsettled.2 hholds)
      · have hfails : (run.perform w.collaborators w.target rule).1 ≠ .ok true := by
          rw [hverdict]
          exact hholds
        rw [Run.chainFrom_of_fails hfails, chainFrom_of_fails hholds, ← hverdict, ← hvars]
        exact ⟨rfl, hfits⟩

/-- Checking rules comes to what the variables decide. -/
theorem start {s : Session} {env : Environment} {a : Surroundings (Outside Unit)}
    (hbound : s.env = some env) (h : w.Fits (s.run env a)) (rules : List Rule)
    (hsettled : w.AllSettled rules s.vars) :
    let result := s.start w.collaborators w.target rules a
    (result.1, result.2.1.vars) = w.chainFrom false rules s.vars ∧
      ∃ env, result.2.1.env = some env ∧ w.Fits (result.2.1.run env result.2.2) := by
  obtain ⟨hresult, hfits⟩ := h.chainFrom false rules hsettled
  rw [Session.start_of_env _ _ rules hbound]
  exact ⟨hresult, _, rfl, hfits.declared, hfits.kept, hfits.expressions, hfits.patterns⟩

/-- **Checking groups comes to what the variables decide.** -/
theorem startByGroups {s : Session} {env : Environment} {a : Surroundings (Outside Unit)}
    (hbound : s.env = some env) (h : w.Fits (s.run env a)) (groups : List RuleGroup)
    (hsettled : w.GroupsSettled groups s.vars) :
    let result := s.startByGroups w.collaborators w.target groups a
    (result.1, result.2.1.vars) = w.groups groups s.vars := by
  induction groups generalizing s env a with
  | nil => rfl
  | cons g rest ih =>
      obtain ⟨hresult, env', hbound', hfits⟩ := start hbound h g.rules hsettled.1
      have hverdict := congrArg Prod.fst hresult
      have hvars : (s.start w.collaborators w.target g.rules a).2.1.vars =
          (w.chainFrom false g.rules s.vars).2 := congrArg Prod.snd hresult
      by_cases hfails : (w.chainFrom false g.rules s.vars).1 = .ok false
      · rw [Session.startByGroups_of_next (hverdict.trans hfails), groups_of_next hfails, ← hvars]
        exact ih hbound' hfits (hvars ▸ hsettled.2 hfails)
      · have hlast : (s.start w.collaborators w.target g.rules a).1 ≠ .ok false :=
          fun hf => hfails (hverdict.symm.trans hf)
        rw [Session.startByGroups_of_last hlast, groups_of_last hfails]
        exact hresult

end Fits

end Setting

end HttpProbe
