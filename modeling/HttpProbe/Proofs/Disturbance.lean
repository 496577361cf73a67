/-
**Rules that do not mind what others left.**

Rules may start from variables that others have changed.  They are exposed to such a change if they
read the variable before they write it: in a placeholder, in an expression, or by its preventing the
context of an expression.  Rules that are not exposed to anything that others left come to the same as
they do without it; what they write is the same, and what they do not write stays as it was left.

Main definitions:

* `Setting.exposed` — do rules depend on what was left under a name?
* `Setting.disturbs` — **does a group leave what another one depends on?**
* `Setting.Stray` — how variables may differ while rules that are not exposed are performed.

Main results:

* `Variables.AlikeBut.merge` — bindings that do not mention what differs;
* `Setting.perform_of_stray` — one rule that is not exposed comes to the same;
* `Setting.chainFrom_of_stray` — **rules that are not exposed come to the same**;
* `Setting.allSettled_of_stray` — they are settled as well.
-/

import HttpProbe.Proofs.Outcome
import HttpProbe.Proofs.Reading

set_option autoImplicit false
set_option relaxedAutoImplicit false

namespace HttpProbe

/-! ### Bindings -/

namespace Variables

/-- Do bindings mention the name before they bind it? -/
def bindingsMention (name : String) : List (String × Scalar) → Bool
  | [] => false
  | b :: rest => b.2.mentions name || (b.1 != name && bindingsMention name rest)

/-- Bindings that do not mention what differs are the same on both sides. -/
theorem AlikeBut.merge {R : String → Option Value → Option Value → Prop} {vars vars' : Variables}
    {bindings : List (String × Scalar)} (h : AlikeBut R vars vars')
    (hmention : ∀ n a b, R n a b → bindingsMention n bindings = false) :
    AlikeBut (fun n a b => R n a b ∧ n ∉ bindings.map Prod.fst) (vars.merge bindings)
      (vars'.merge bindings) := by
  induction bindings generalizing R vars vars' with
  | nil => exact h.imp fun n a b hR => ⟨hR, List.not_mem_nil⟩
  | cons b rest ih =>
      have hsplit : ∀ n x y, R n x y →
          b.2.mentions n = false ∧ (n ≠ b.1 → bindingsMention n rest = false) := by
        intro n x y hR
        have hnot := hmention n x y hR
        rw [bindingsMention, Bool.or_eq_false_iff, Bool.and_eq_false_iff] at hnot
        refine ⟨hnot.1, fun hn => hnot.2.resolve_left ?_⟩
        simpa using Ne.symm hn
      -- the first binding gives the same value on both sides, so its name differs no more
      have hbound : vars.bound b.2 = vars'.bound b.2 := by
        refine bound_congr fun n hn => (h n).resolve_right fun hR => ?_
        rw [(hsplit n _ _ hR).1] at hn
        cases hn
      have hinserted := h.insert b.1 (vars.bound b.2)
      have hrest := ih hinserted fun n x y hR => (hsplit n x y hR.1).2 hR.2
      change AlikeBut _ ((vars.insert b.1 (vars.bound b.2)).merge rest)
        ((vars'.insert b.1 (vars'.bound b.2)).merge rest)
      rw [← hbound]
      refine hrest.imp fun n x y hR => ⟨hR.1.1, ?_⟩
      rw [List.map_cons, List.mem_cons, not_or]
      exact ⟨hR.1.2, hR.2⟩

end Variables

/-! ### What rules are exposed to -/

namespace Setting

variable (w : Setting)

/-- Does an expression by which a rule is judged depend on the value under the name?  It reads the
variable, or the variable can prevent the context. -/
def minds (rule : Rule) (name : String) (v : Value) : Bool :=
  rule.pattern?.isNone &&
    (Expression.reads rule.expression name || Environment.isDerived name ||
      !w.env.admits name v)

/-- Do rules that start from these variables depend on the value that was left under the name?  What
they write before they read it does not count. -/
def exposed (w : Setting) (name : String) (v : Value) : List Rule → Variables → Bool
  | [], _ => false
  | rule :: rest, vars =>
    Variables.bindingsMention name rule.set ||
      (!(rule.set.map Prod.fst).contains name &&
        (rule.mentions name || w.minds rule name v ||
          match w.verdict rule vars with
          | .ok true =>
            !((w.captured rule vars).map Prod.fst).contains name &&
              w.exposed name v rest (w.after rule vars)
          | _ => false))

/-- What a group comes to by itself, and what it leaves. -/
def alone (fresh : Variables) (g : RuleGroup) : Verdict × Variables :=
  w.chainFrom false g.rules fresh

/-- Does a group, by itself, leave what another one depends on, by itself?  A group that does not fail is
the last one, so what it leaves is of no account. -/
def disturbs (fresh : Variables) (g h : RuleGroup) : Bool :=
  match w.alone fresh g with
  | (.ok false, left) =>
    left.entries.any fun e => fresh.get? e.1 != some e.2 && w.exposed e.1 e.2 h.rules fresh
  | _ => false

/-- What it means for rules not to be exposed. -/
theorem unexposed_cons {w : Setting} {name : String} {v : Value} {rule : Rule} {rest : List Rule}
    {vars : Variables} (h : w.exposed name v (rule :: rest) vars = false) :
    Variables.bindingsMention name rule.set = false ∧
      (name ∉ rule.set.map Prod.fst →
        rule.mentions name = false ∧ w.minds rule name v = false ∧
          (w.verdict rule vars = .ok true → name ∉ (w.captured rule vars).map Prod.fst →
            w.exposed name v rest (w.after rule vars) = false)) := by
  rw [exposed, Bool.or_eq_false_iff, Bool.and_eq_false_iff, Bool.or_eq_false_iff,
    Bool.or_eq_false_iff] at h
  refine ⟨h.1, fun hbound => ?_⟩
  have hrest := h.2.resolve_left (by simpa using hbound)
  refine ⟨hrest.1.1, hrest.1.2, fun hholds hcaptured => ?_⟩
  have hlater := hrest.2
  rw [hholds] at hlater
  exact (Bool.and_eq_false_iff.1 hlater).resolve_left (by simpa using hcaptured)

/-- What it means for a group not to disturb another one. -/
theorem unexposed_of_disturbs {w : Setting} {fresh : Variables} {g h : RuleGroup}
    (hquiet : w.disturbs fresh g h = false) (hfails : (w.alone fresh g).1 = .ok false)
    {n : String} {v : Value} (hv : (w.alone fresh g).2.get? n = some v)
    (hne : fresh.get? n ≠ some v) : w.exposed n v h.rules fresh = false := by
  rw [disturbs] at hquiet
  generalize w.alone fresh g = result at hquiet hfails hv
  obtain ⟨verdict, left⟩ := result
  obtain rfl : verdict = .ok false := hfails
  have hentry := List.any_eq_false.1 hquiet (n, v) (Variables.get?_eq_some_iff.1 hv)
  simpa [hne] using hentry

/-! ### Rules that are not exposed -/

/-- How variables may differ under a name while rules are performed that are not exposed: what was there
at first is still there on the one side, and what was left on the other. -/
structure Stray (fresh left : Variables) (rules : List Rule) (vars : Variables) (n : String)
    (a b : Option Value) : Prop where
  fresh : a = fresh.get? n
  left : b = left.get? n
  admitted : ∀ v, a = some v → w.env.admits n v = true
  unexposed : ∃ v, b = some v ∧ w.exposed n v rules vars = false

variable {w} {R : String → Option Value → Option Value → Prop} {vars vars' : Variables}

/-- What is sent, and comes back, depends on what the request mentions. -/
theorem exchange_congr {rule : Rule} (h : Variables.AlikeBut R vars vars')
    (hmention : ∀ n a b, R n a b → rule.mentions n = false) :
    w.exchange rule vars = w.exchange rule vars' := by
  have htemplate : rule.template w.target vars = rule.template w.target vars' := by
    refine Rule.template_congr (fun n hn => (h n).resolve_right fun hR => ?_) w.target
    rw [hmention n _ _ hR] at hn
    cases hn
  rw [exchange, exchange, htemplate]

/-- What an expression minds is all that counts. -/
theorem unminded {rule : Rule} (hpattern : rule.pattern? = none) {n : String} {v : Value}
    (h : w.minds rule n v = false) :
    Expression.reads rule.expression n = false ∧ Environment.isDerived n = false ∧
      w.env.admits n v = true := by
  simp only [minds, hpattern, Option.isNone_none, Bool.true_and, Bool.or_eq_false_iff,
    Bool.not_eq_false'] at h
  exact ⟨h.1.1, h.1.2, h.2⟩

/-- What a response is judged depends on what the expression minds. -/
theorem judge_congr {rule : Rule} (h : Variables.AlikeBut R vars vars')
    (hadmits : ∀ n a b, R n a b → ∀ v, a = some v → w.env.admits n v = true)
    (hminds : ∀ n a b, R n a b → ∃ v, b = some v ∧ w.minds rule n v = false)
    (q : Http.Request) (raw : Http.RawResponse) :
    w.judge rule vars q raw = w.judge rule vars' q raw := by
  rw [judge, judge]
  cases hpattern : rule.pattern? with
  | some pattern => rfl
  | none =>
      have hexchange := (h.insert Variables.requestName (.request q .pools)).insert
        Variables.responseName (.response (.ofRaw raw q) .pools)
      refine congrArg Run.expressionVerdict (w.env.judged_of_agree (fun n hn => ?_) (.constant 0))
      have hR := (hexchange n).resolve_left hn
      obtain ⟨v, hv, hnot⟩ := hminds n _ _ hR.1.1
      obtain ⟨hreads, hderived, hadmitted⟩ := unminded hpattern hnot
      refine ⟨hreads, hderived, hadmits n _ _ hR.1.1, ?_⟩
      rintro v' hv'
      obtain rfl := Option.some.inj (hv.symm.trans hv')
      exact hadmitted

section Stray

variable {fresh left : Variables} {rule : Rule} {rest : List Rule}

/-- Once its bindings are in, a rule that is not exposed neither mentions nor minds what differs. -/
theorem merge_of_stray
    (h : Variables.AlikeBut (w.Stray fresh left (rule :: rest) vars) vars vars') :
    Variables.AlikeBut (fun n a b => w.Stray fresh left (rule :: rest) vars n a b ∧
        n ∉ rule.set.map Prod.fst) (vars.merge rule.set) (vars'.merge rule.set) ∧
      w.exchange rule (vars.merge rule.set) = w.exchange rule (vars'.merge rule.set) := by
  have hmerged := h.merge fun n a b hs => by
    obtain ⟨v, _, hv⟩ := hs.unexposed
    exact (unexposed_cons hv).1
  refine ⟨hmerged, exchange_congr hmerged ?_⟩
  rintro n a b ⟨hs, hbound⟩
  obtain ⟨v, _, hv⟩ := hs.unexposed
  exact ((unexposed_cons hv).2 hbound).1

/-- What a rule that is not exposed is judged by is settled whatever others left. -/
theorem settled_of_stray
    (h : Variables.AlikeBut (w.Stray fresh left (rule :: rest) vars) vars vars')
    (hsettled : w.Settled rule vars) : w.Settled rule vars' := by
  obtain ⟨hmerged, hasked⟩ := merge_of_stray h
  intro q raw hpattern hexchange
  rw [← hasked] at hexchange
  have hexchanged := (hmerged.insert Variables.requestName (.request q .pools)).insert
    Variables.responseName (.response (.ofRaw raw q) .pools)
  have hname : ∀ n, n = Variables.requestName ∨ n = Variables.responseName →
      ((vars.merge rule.set).withExchange q raw).get? n =
        ((vars'.merge rule.set).withExchange q raw).get? n := by
    intro n hn
    refine (hexchanged n).resolve_right fun hR => ?_
    exact hn.elim hR.1.2 hR.2
  refine (hsettled q raw hpattern hexchange).of_agree (fun n hn => ?_) (hname _ (.inl rfl))
    (hname _ (.inr rfl))
  -- a name that the exchange could add is minded, so nothing was left under it
  refine (hexchanged n).resolve_right fun hR => ?_
  obtain ⟨hs, hbound⟩ := hR.1.1
  obtain ⟨v, _, hv⟩ := hs.unexposed
  rw [(unminded hpattern ((unexposed_cons hv).2 hbound).2.1).2.1] at hn
  cases hn

/-- **A rule that is not exposed comes to the same**, and its search captures the same.  What it does not
write is as it was on either side, and the rules after it are not exposed to that. -/
theorem perform_of_stray
    (h : Variables.AlikeBut (w.Stray fresh left (rule :: rest) vars) vars vars') :
    w.verdict rule vars = w.verdict rule vars' ∧
      Variables.AlikeBut (fun n a b => a = fresh.get? n ∧ b = left.get? n ∧
          (w.verdict rule vars = .ok true → w.Stray fresh left rest (w.after rule vars) n a b))
        (w.after rule vars) (w.after rule vars') := by
  obtain ⟨hmerged, hasked⟩ := merge_of_stray h
  -- a name that is not bound is not minded by the expression
  have hquiet : ∀ n a b, w.Stray fresh left (rule :: rest) vars n a b ∧
      n ∉ rule.set.map Prod.fst → ∃ v, b = some v ∧ w.minds rule n v = false ∧
        (w.verdict rule vars = .ok true → n ∉ (w.captured rule vars).map Prod.fst →
          w.exposed n v rest (w.after rule vars) = false) := by
    rintro n a b ⟨hs, hbound⟩
    obtain ⟨v, hb, hv⟩ := hs.unexposed
    exact ⟨v, hb, ((unexposed_cons hv).2 hbound).2⟩
  have hjudged : ∀ q raw, w.judge rule (vars.merge rule.set) q raw =
      w.judge rule (vars'.merge rule.set) q raw := by
    refine judge_congr hmerged (fun n a b hs => hs.1.admitted) fun n a b hs => ?_
    obtain ⟨v, hb, hminds, _⟩ := hquiet n a b hs
    exact ⟨v, hb, hminds⟩
  have hverdict : w.verdict rule vars = w.verdict rule vars' := by
    rw [verdict, verdict, ← hasked]
    cases w.exchange rule (vars.merge rule.set) with
    | error f => rfl
    | ok x => exact hjudged x.1 x.2
  have hcaptured : w.captured rule vars = w.captured rule vars' := by
    rw [captured, captured, ← hasked]
  refine ⟨hverdict, ?_⟩
  have hwritten := (hmerged.write (w.captured rule vars)).dropExchange
  rw [after, after, ← hcaptured]
  refine hwritten.imp fun n a b hs => ⟨hs.1.1.1.fresh, hs.1.1.1.left, fun hholds => ?_⟩
  obtain ⟨⟨⟨hstray, hbound⟩, hcaptured⟩, _⟩ := hs
  obtain ⟨v, hb, _, hlater⟩ := hquiet n a b ⟨hstray, hbound⟩
  exact ⟨hstray.fresh, hstray.left, hstray.admitted, v, hb, hlater hholds hcaptured⟩

/-- **Rules that are not exposed come to the same.**  What they do not write is as it was on either
side. -/
theorem chainFrom_of_stray {rules : List Rule}
    (h : Variables.AlikeBut (w.Stray fresh left rules vars) vars vars') (verified : Bool) :
    (w.chainFrom verified rules vars).1 = (w.chainFrom verified rules vars').1 ∧
      Variables.AlikeBut (fun n a b => a = fresh.get? n ∧ b = left.get? n)
        (w.chainFrom verified rules vars).2 (w.chainFrom verified rules vars').2 := by
  induction rules generalizing vars vars' verified with
  | nil => exact ⟨rfl, h.imp fun n a b hs => ⟨hs.fresh, hs.left⟩⟩
  | cons rule rest ih =>
      obtain ⟨hverdict, hafter⟩ := perform_of_stray h
      by_cases hholds : w.verdict rule vars = .ok true
      · rw [chainFrom_of_holds hholds, chainFrom_of_holds (hverdict ▸ hholds)]
        exact ih (hafter.imp fun n a b hs => hs.2.2 hholds) true
      · rw [chainFrom_of_fails hholds, chainFrom_of_fails (hverdict ▸ hholds)]
        exact ⟨hverdict, hafter.imp fun n a b hs => ⟨hs.1, hs.2.1⟩⟩

/-- **What rules that are not exposed are judged by is settled** whatever others left. -/
theorem allSettled_of_stray {rules : List Rule}
    (h : Variables.AlikeBut (w.Stray fresh left rules vars) vars vars')
    (hsettled : w.AllSettled rules vars) : w.AllSettled rules vars' := by
  induction rules generalizing vars vars' with
  | nil => trivial
  | cons rule rest ih =>
      obtain ⟨hverdict, hafter⟩ := perform_of_stray h
      refine ⟨settled_of_stray h hsettled.1, fun hholds => ?_⟩
      rw [← hverdict] at hholds
      exact ih (hafter.imp fun n a b hs => hs.2.2 hholds) (hsettled.2 hholds)

end Stray

end Setting

end HttpProbe
