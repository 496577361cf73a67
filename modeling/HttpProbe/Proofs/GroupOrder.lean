/-
**The order of groups.**

A session has one set of variables.  A group that fails leaves what it wrote there, and the groups after
it read it; so the order of the groups can decide what a check comes to.  It does not where no group
disturbs another, and what each group is judged by is settled: then each group comes to what it comes to by
itself in the fresh session, and two orders of the same groups that are both checked to the end agree,
whatever each of them draws.

Main definitions:

* `Setting.Fresh` — variables of a session that was just lent;
* `Setting.Left` — variables as groups before have left them;
* `Setting.firstVerdict` — the first of several verdicts that is no failure;
* `Surroundings.drawing` — the same surroundings, where what comes next by chance is another.

Main results:

* `Setting.groups_eq_firstVerdict` — **each group comes to what it comes to by itself**;
* `Setting.groupsSettled_of_left` — it is settled if it is settled by itself;
* `Fleet.verdict_eq_of_perm` — **the order of groups that do not disturb one another does not matter**;
* `Fleet.verdict_ne_of_reader` — the order of other groups can matter, and chance can.
-/

import Mathlib
import HttpProbe.Proofs.Declarations
import HttpProbe.Proofs.Disturbance

set_option autoImplicit false
set_option relaxedAutoImplicit false

namespace HttpProbe

/-! ### What a group leaves -/

namespace Variables

/-- Nothing but the exchange is ever taken away. -/
theorem get?_eq_none_of_afterRule {vars : Variables} {rule : Rule}
    {captured : List (String × String)} {n : String}
    (h : (vars.afterRule rule captured).get? n = none) :
    (n = requestName ∨ n = responseName) ∨ vars.get? n = none := by
  rw [afterRule, get?_dropExchange] at h
  by_cases hn : n = requestName ∨ n = responseName
  · exact .inl hn
  · rw [if_neg hn] at h
    refine .inr ?_
    rcases get?_write (vars.merge rule.set) captured n with hwritten | ⟨c, _, _, hvalue⟩
    · rw [hwritten] at h
      rcases get?_merge vars rule.set n with hmerged | ⟨b, _, _, before, hvalue⟩
      · rw [← hmerged]
        exact h
      · rw [hvalue] at h
        cases h
    · rw [hvalue] at h
      cases h

end Variables

namespace Setting

variable {w : Setting}

/-- Variables of a session that was just lent: scalars of the declared kinds, and no exchange. -/
structure Fresh (w : Setting) (fresh : Variables) : Prop where
  admitted : ∀ n v, fresh.get? n = some v → w.env.admits n v = true
  request : fresh.get? Variables.requestName = none
  response : fresh.get? Variables.responseName = none

theorem fresh_seed (h : w.env.WellDeclared) : w.Fresh (w.env.seed .empty) := by
  have hnone : ∀ n, Environment.isReserved n = true → (w.env.seed .empty).get? n = none := by
    intro n hn
    refine (w.env.get?_seed n).resolve_right ?_
    rintro ⟨d, hd, rfl, _⟩
    rw [h.free d hd] at hn
    cases hn
  refine ⟨fun n v hv => ?_, hnone _ (by decide), hnone _ (by decide)⟩
  rcases w.env.get?_seed n with hn | ⟨d, hd, rfl, hvalue⟩
  · rw [hn] at hv
    cases hv
  · obtain rfl := Option.some.inj (hvalue.symm.trans hv)
    rw [Environment.admits, h.kindOf? hd]
    exact decide_eq_true rfl

theorem Fresh.exchange {fresh : Variables} (h : w.Fresh fresh) {n : String}
    (hn : n = Variables.requestName ∨ n = Variables.responseName) : fresh.get? n = none := by
  rcases hn with rfl | rfl
  · exact h.request
  · exact h.response

/-- Rules take nothing away but the exchange. -/
theorem get?_eq_none_of_chainFrom {rules : List Rule} {verified : Bool} {vars : Variables}
    {n : String} (h : (w.chainFrom verified rules vars).2.get? n = none) :
    (n = Variables.requestName ∨ n = Variables.responseName) ∨ vars.get? n = none := by
  induction rules generalizing verified vars with
  | nil => exact .inr h
  | cons rule rest ih =>
      by_cases hholds : w.verdict rule vars = .ok true
      · rw [chainFrom_of_holds hholds] at h
        exact (ih h).elim .inl Variables.get?_eq_none_of_afterRule
      · rw [chainFrom_of_fails hholds] at h
        exact Variables.get?_eq_none_of_afterRule h

/-- Variables as groups before have left them: under each name is what was there at first, or what a
group that failed leaves there by itself. -/
def Left (w : Setting) (fresh : Variables) (before : List RuleGroup) (vars : Variables) : Prop :=
  ∀ n, vars.get? n = fresh.get? n ∨
    ∃ g ∈ before, (w.alone fresh g).1 = .ok false ∧ vars.get? n = (w.alone fresh g).2.get? n

/-- A group that is not disturbed may start from what others left. -/
theorem Left.stray {fresh vars : Variables} {before : List RuleGroup} {h : RuleGroup}
    (hleft : w.Left fresh before vars) (hfresh : w.Fresh fresh)
    (hquiet : ∀ g ∈ before, w.disturbs fresh g h = false) :
    Variables.AlikeBut (w.Stray fresh vars h.rules fresh) fresh vars := by
  intro n
  by_cases hn : fresh.get? n = vars.get? n
  · exact .inl hn
  · refine .inr ⟨rfl, rfl, hfresh.admitted n, ?_⟩
    obtain ⟨g, hg, hfails, hvalue⟩ := (hleft n).resolve_left (Ne.symm hn)
    cases hv : vars.get? n with
    | none =>
        -- nothing is taken away, so there was nothing at first
        have hgone : (w.alone fresh g).2.get? n = none := hvalue.symm.trans hv
        have hnone := (get?_eq_none_of_chainFrom hgone).elim hfresh.exchange id
        exact absurd (hnone.trans hv.symm) hn
    | some v =>
        refine ⟨v, rfl, unexposed_of_disturbs (hquiet g hg) hfails (hvalue.symm.trans hv) ?_⟩
        exact fun heq => hn (heq.trans hv.symm)

/-- The group that was checked last has left its part. -/
theorem Left.next {fresh vars : Variables} {before : List RuleGroup} {h : RuleGroup}
    (hleft : w.Left fresh before vars) (hfresh : w.Fresh fresh)
    (hquiet : ∀ g ∈ before, w.disturbs fresh g h = false) :
    (w.alone fresh h).1 = (w.chainFrom false h.rules vars).1 ∧
      ((w.alone fresh h).1 = .ok false →
        w.Left fresh (h :: before) (w.chainFrom false h.rules vars).2) := by
  obtain ⟨hverdict, hafter⟩ := chainFrom_of_stray (hleft.stray hfresh hquiet) false
  refine ⟨hverdict, fun hfails n => ?_⟩
  rcases hafter n with hsame | ⟨_, hkept⟩
  · exact .inr ⟨h, List.mem_cons_self, hfails, hsame.symm⟩
  · rw [hkept]
    refine (hleft n).imp_right ?_
    rintro ⟨g, hg, hg'⟩
    exact ⟨g, List.mem_cons_of_mem h hg, hg'⟩

/-! ### Groups in a row -/

/-- The first of several verdicts that is no failure; if there is none, failure. -/
def firstVerdict : List Verdict → Verdict
  | [] => .ok false
  | .ok false :: rest => firstVerdict rest
  | verdict :: _ => verdict

theorem firstVerdict_of_fails {verdict : Verdict} (h : verdict = .ok false)
    (rest : List Verdict) : firstVerdict (verdict :: rest) = firstVerdict rest := by
  rw [h, firstVerdict]

theorem firstVerdict_of_ne {verdict : Verdict} (h : verdict ≠ .ok false)
    (rest : List Verdict) : firstVerdict (verdict :: rest) = verdict := by
  rcases verdict with _ | _ | _
  · rfl
  · exact absurd rfl h
  · rfl

/-- Verdicts in two orders: if the first that is no failure is no error in either order, it is the same
in both. -/
theorem eq_of_firstVerdict {verdicts verdicts' : List Verdict} (h : verdicts.Perm verdicts')
    {b b' : Bool} (hb : firstVerdict verdicts = .ok b) (hb' : firstVerdict verdicts' = .ok b') :
    b = b' := by
  have hall : ∀ {l : List Verdict}, firstVerdict l = .ok false ↔ ∀ v ∈ l, v = .ok false := by
    intro l
    induction l with
    | nil => simp [firstVerdict]
    | cons v rest ih =>
        rw [List.forall_mem_cons]
        by_cases hv : v = .ok false
        · rw [firstVerdict_of_fails hv, ih, and_iff_right hv]
        · rw [firstVerdict_of_ne hv]
          exact ⟨fun h => absurd h hv, fun h => h.1⟩
  have hiff : firstVerdict verdicts = .ok false ↔ firstVerdict verdicts' = .ok false := by
    rw [hall, hall]
    exact ⟨fun hl v hv => hl v (h.mem_iff.2 hv), fun hl v hv => hl v (h.mem_iff.1 hv)⟩
  rw [hb, hb'] at hiff
  simpa using hiff

/-- Those before do not disturb those after the next one either. -/
theorem quiet_next {fresh : Variables} {before rest : List RuleGroup} {g : RuleGroup}
    (hquiet : ∀ h ∈ before, ∀ k ∈ g :: rest, w.disturbs fresh h k = false)
    (hnext : ∀ k ∈ rest, w.disturbs fresh g k = false) :
    ∀ h ∈ g :: before, ∀ k ∈ rest, w.disturbs fresh h k = false := by
  intro h hh k hk
  rcases List.mem_cons.1 hh with rfl | hh
  · exact hnext k hk
  · exact hquiet h hh k (List.mem_cons_of_mem g hk)

/-- **Each group comes to what it comes to by itself**, if it is not disturbed. -/
theorem groups_eq_firstVerdict {fresh vars : Variables} {before groups : List RuleGroup}
    (hleft : w.Left fresh before vars) (hfresh : w.Fresh fresh)
    (hquiet : ∀ g ∈ before, ∀ h ∈ groups, w.disturbs fresh g h = false)
    (hapart : groups.Pairwise fun g h => w.disturbs fresh g h = false) :
    (w.groups groups vars).1 = firstVerdict (groups.map fun g => (w.alone fresh g).1) := by
  induction groups generalizing vars before with
  | nil => rfl
  | cons g rest ih =>
      rw [List.pairwise_cons] at hapart
      obtain ⟨hverdict, hnext⟩ := hleft.next hfresh fun h hh => hquiet h hh g List.mem_cons_self
      rw [List.map_cons]
      by_cases hfails : (w.alone fresh g).1 = .ok false
      · rw [firstVerdict_of_fails hfails, groups_of_next (hverdict.symm.trans hfails)]
        exact ih (hnext hfails) (quiet_next hquiet hapart.1) hapart.2
      · rw [firstVerdict_of_ne hfails, groups_of_last (fun hf => hfails (hverdict.trans hf))]
        exact hverdict.symm

/-- What groups that are not disturbed are judged by is settled, if it is by themselves. -/
theorem groupsSettled_of_left {fresh vars : Variables} {before groups : List RuleGroup}
    (hleft : w.Left fresh before vars) (hfresh : w.Fresh fresh)
    (hquiet : ∀ g ∈ before, ∀ h ∈ groups, w.disturbs fresh g h = false)
    (hapart : groups.Pairwise fun g h => w.disturbs fresh g h = false)
    (hsettled : ∀ g ∈ groups, w.AllSettled g.rules fresh) : w.GroupsSettled groups vars := by
  induction groups generalizing vars before with
  | nil => trivial
  | cons g rest ih =>
      rw [List.pairwise_cons] at hapart
      have hbefore : ∀ h ∈ before, w.disturbs fresh h g = false :=
        fun h hh => hquiet h hh g List.mem_cons_self
      obtain ⟨hverdict, hnext⟩ := hleft.next hfresh hbefore
      refine ⟨allSettled_of_stray (hleft.stray hfresh hbefore) (hsettled g List.mem_cons_self), ?_⟩
      intro hfails
      exact ih (hnext (hverdict.trans hfails)) (quiet_next hquiet hapart.1) hapart.2
        fun h hh => hsettled h (List.mem_cons_of_mem g hh)

/-- No groups have left anything yet. -/
theorem left_nil (fresh : Variables) : w.Left fresh [] fresh := fun _ => .inl rfl

/-- **The order of groups that do not disturb one another does not matter**, to variables. -/
theorem groups_of_perm {fresh : Variables} (hfresh : w.Fresh fresh)
    {groups groups' : List RuleGroup} (hperm : groups.Perm groups')
    (hapart : groups.Pairwise fun g h =>
      w.disturbs fresh g h = false ∧ w.disturbs fresh h g = false)
    {b b' : Bool} (hb : (w.groups groups fresh).1 = .ok b)
    (hb' : (w.groups groups' fresh).1 = .ok b') : b = b' := by
  have hapart' := (hperm.pairwise_iff fun {g h} hgh => And.comm.1 hgh).1 hapart
  rw [groups_eq_firstVerdict (left_nil fresh) hfresh (fun g hg => nomatch hg)
    (hapart.imp And.left)] at hb
  rw [groups_eq_firstVerdict (left_nil fresh) hfresh (fun g hg => nomatch hg)
    (hapart'.imp And.left)] at hb'
  exact eq_of_firstVerdict (hperm.map _) hb hb'

end Setting

/-! ### Sessions that were just lent -/

/-- The same surroundings, where what comes next by chance is another. -/
def Surroundings.drawing {τ : Type} (a : Surroundings (Outside τ)) (chance : Chance) :
    Surroundings (Outside τ) :=
  { a with outside := { a.outside with chance := chance } }

/-- Groups that do not disturb one another, and are settled by themselves, come to what the variables
decide. -/
theorem Setting.Fits.startByGroups_of_apart {w : Setting} {s : Session} {env : Environment}
    {a : Surroundings (Outside Unit)} (hbound : s.env = some env) (h : w.Fits (s.run env a))
    (hfresh : w.Fresh s.vars) {groups : List RuleGroup}
    (hapart : groups.Pairwise fun g h => w.disturbs s.vars g h = false)
    (hsettled : ∀ g ∈ groups, w.AllSettled g.rules s.vars) (chance : Chance) :
    (s.startByGroups w.collaborators w.target groups (a.drawing chance)).1 =
      (w.groups groups s.vars).1 := by
  have hdrawing : w.Fits (s.run env (a.drawing chance)) :=
    ⟨h.declared, h.kept, h.expressions, h.patterns⟩
  have hgroups : w.GroupsSettled groups s.vars :=
    groupsSettled_of_left (left_nil s.vars) hfresh (fun g hg => nomatch hg) hapart hsettled
  exact congrArg Prod.fst (hdrawing.startByGroups hbound groups hgroups)

namespace Fleet

/-- What an engine lends after any operations is fresh, and fits its setting. -/
theorem fresh_of_acquire (answer : Http.Request → Bool → Except TransportFault Http.RawResponse)
    (target : String) (maxIdleSessions maxIdleModels : Nat) (luck seed : Chance)
    (ops : List Operation) (d : Definition) {s : Session} {env : Environment}
    (hs : (((new (.new maxIdleSessions maxIdleModels ⟨(), [], luck⟩ seed)).performAll
      (.answering answer) ops).2.engine.acquire d).1 = .ok s) (henv : s.env = some env) :
    let e := ((new (.new maxIdleSessions maxIdleModels ⟨(), [], luck⟩ seed)).performAll
      (.answering answer) ops).2.engine
    let w : Setting := ⟨env, answer, target⟩
    w.Fresh s.vars ∧ w.Fits (s.run env (e.acquire d).2.around) := by
  intro e w
  obtain ⟨_, hreached⟩ := (Apart.new "" maxIdleSessions maxIdleModels maxIdleSessions
    maxIdleModels (fun _ : True => rfl) seed seed).performAll answer ops
  have hclean : e.sessions.Clean := hreached.engine.sessions.1
  have hpatterns : Extraction.Faithful e.around.outside.patterns :=
    hreached.engine.around.outside.left
  change (e.acquire d).1 = .ok s at hs
  rw [Engine.acquire_of_clean hclean] at hs ⊢
  cases hcompile : Environment.compile e.chance.left d.set with
  | error f =>
      rw [hcompile] at hs
      cases hs
  | ok compiled =>
      rw [hcompile] at hs
      obtain rfl := Except.ok.inj hs
      obtain rfl := Option.some.inj henv
      have hfaithful := Environment.faithful_of_compile hcompile
      refine ⟨?_, rfl, hfaithful, hfaithful, hpatterns⟩
      exact Setting.fresh_seed (w := w) (Environment.wellDeclared_of_compile hcompile)

/-- **The order of groups that do not disturb one another does not matter.**  Take a session that an
engine lends after any operations, around a transport that answers a request the same whoever sends it,
and groups of which none leaves, by itself, what another one depends on, and each is judged, by itself, by
what is settled.  If they are checked in two orders, each from the same fresh session and with draws of its
own, and neither check ends with a fault, both come to the same. -/
theorem verdict_eq_of_perm (answer : Http.Request → Bool → Except TransportFault Http.RawResponse)
    (target : String) (maxIdleSessions maxIdleModels : Nat) (luck seed : Chance)
    (ops : List Operation) (d : Definition) :
    let c := Collaborators.answering answer
    let e := ((new (.new maxIdleSessions maxIdleModels ⟨(), [], luck⟩ seed)).performAll c
      ops).2.engine
    ∀ s env, (e.acquire d).1 = .ok s → s.env = some env →
      let w : Setting := ⟨env, answer, target⟩
      let check := fun chance groups =>
        (s.startByGroups c target groups ((e.acquire d).2.around.drawing chance)).1
      ∀ groups groups' : List RuleGroup, groups.Perm groups' →
        (groups.Pairwise fun g h =>
          w.disturbs s.vars g h = false ∧ w.disturbs s.vars h g = false) →
        (∀ g ∈ groups, w.AllSettled g.rules s.vars) →
        ∀ chance chance' b b', check chance groups = .ok b → check chance' groups' = .ok b' →
          b = b' := by
  intro c e s env hs henv w check groups groups' hperm hapart hsettled chance chance' b b' hb hb'
  obtain ⟨hfresh, hfits⟩ := fresh_of_acquire answer target maxIdleSessions maxIdleModels luck seed
    ops d hs henv
  have hapart' := (hperm.pairwise_iff fun {g h} hgh => And.comm.1 hgh).1 hapart
  have hcheck : check chance groups = (w.groups groups s.vars).1 :=
    hfits.startByGroups_of_apart henv hfresh (hapart.imp And.left) hsettled chance
  have hcheck' : check chance' groups' = (w.groups groups' s.vars).1 :=
    hfits.startByGroups_of_apart henv hfresh (hapart'.imp And.left)
      (fun g hg => hsettled g (hperm.mem_iff.2 hg)) chance'
  rw [hcheck] at hb
  rw [hcheck'] at hb'
  exact Setting.groups_of_perm hfresh hperm hapart hb hb'

/-! ### Two orders -/

/-- The request that gets the root of a host. -/
def rootRequest : Http.Request where
  method := "GET"
  url := some ⟨"http", "", "", some (.ipv6 [0, 0, 0, 0, 0, 0, 0, 1]), none, .segments [""], none, none⟩
  headers := .empty
  body := []

/-- A group of one rule that gets the root of a host, and judges the answer by an expression. -/
def rootGroup (bindings : List (String × Scalar)) (expression : String) : RuleGroup :=
  ⟨"root", [{ Rule.get "/" with set := bindings, expression := expression }]⟩

/-- What such a group comes to, and what it leaves. -/
theorem chainFrom_rootGroup {w : Setting} (htarget : w.target = "http://[::1]")
    {raw : Http.RawResponse} (hanswer : ∀ q follow, w.answer q follow = .ok raw)
    (bindings : List (String × Scalar)) (expression : String) (vars : Variables) :
    w.chainFrom false (rootGroup bindings expression).rules vars =
      (Run.expressionVerdict (w.env.judged (.constant 0) expression
        ((vars.merge bindings).withExchange rootRequest raw).entries),
        (vars.merge bindings).dropExchange) := by
  let rule : Rule := { Rule.get "/" with set := bindings, expression := expression }
  have hrequest : ∀ vars, (rule.template w.target vars).request = .ok rootRequest := by
    rw [htarget]
    exact Rule.request_root rfl rfl rfl rfl
  have hverdict := Setting.verdict_of_answer (hrequest (vars.merge bindings))
    (hanswer rootRequest rule.followRedirects)
  have hafter : w.after rule vars = (vars.merge bindings).dropExchange :=
    Setting.after_of_none rfl vars
  rw [rootGroup, Setting.chainFrom_singleton, hverdict, hafter]
  rfl

/-- It is settled if its expression is. -/
theorem allSettled_rootGroup {w : Setting} {expression : String}
    (h : ∀ vars, w.env.Settled expression vars) (bindings : List (String × Scalar))
    (vars : Variables) : w.AllSettled (rootGroup bindings expression).rules vars :=
  ⟨fun _ _ _ _ => h _, fun _ => trivial⟩

/-- **The order of groups can matter**, whatever is drawn: a group that reads a variable holds after a group
that fails and sets it, and not before.  And without any other order a group can hold and not hold, if what it
is judged by is drawn, or contested. -/
theorem verdict_ne_of_reader :
    let answer : Http.Request → Bool → Except TransportFault Http.RawResponse :=
      fun _ _ => .ok ⟨200, Http.Headers.empty, [], none, 0⟩
    let c := Collaborators.answering answer
    let e : Engine (Outside Unit) := .new 2 2 ⟨(), [], .constant 5⟩ (.constant 7)
    let d : Definition := ⟨"probe", [], .groups [], .blank⟩
    let setter := rootGroup [("x", .bool true)] "false"
    let reader := rootGroup [] "x"
    let drawing := rootGroup [] "randomInt(0, 9223372036854775807) == 5"
    let contested := rootGroup [("request.method", .text "POST")] "request.method == \"GET\""
    ∃ s, (e.acquire d).1 = .ok s ∧ [setter, reader].Perm [reader, setter] ∧
      let check := fun chance groups =>
        (s.startByGroups c "http://[::1]" groups ((e.acquire d).2.around.drawing chance)).1
      (∀ chance, check chance [setter, reader] = .ok true ∧
        check chance [reader, setter] = .ok false) ∧
      ∀ group ∈ [drawing, contested],
        check (.constant 5) [group] = .ok true ∧ check (.constant 0) [group] = .ok false := by
  intro answer c e d setter reader drawing contested
  let s : Session := Session.blank.bind "probe" ⟨[], []⟩
  let w : Setting := ⟨⟨[], []⟩, answer, "http://[::1]"⟩
  let set : Variables := Variables.empty.insert "x" (.scalar (.bool true))
  have hs : (e.acquire d).1 = .ok s := rfl
  have hgroup := chainFrom_rootGroup (w := w) rfl (fun _ _ => rfl)
  have hsets : w.chainFrom false setter.rules .empty = (.ok false, set) :=
    (hgroup _ _ _).trans (Prod.ext (by cbv) rfl)
  have hreads : w.chainFrom false reader.rules .empty = (.ok false, .empty) :=
    (hgroup _ _ _).trans (Prod.ext (by cbv) rfl)
  have hreads' : w.chainFrom false reader.rules set = (.ok true, set) :=
    (hgroup _ _ _).trans (Prod.ext (by cbv) rfl)
  -- neither expression draws, and neither reads a part of the exchange
  have hkept : w.env.Faithful := faithful_nil _
  have hfalse : ∀ vars, w.AllSettled setter.rules vars :=
    allSettled_rootGroup (Environment.settled_of_plain hkept (by decide +kernel)) _
  have hx : ∀ vars, w.AllSettled reader.rules vars :=
    allSettled_rootGroup (Environment.settled_of_plain hkept (by decide +kernel)) _
  refine ⟨s, hs, .swap _ _ _, fun chance => ?_, by decide +kernel⟩
  have hfits : w.Fits (s.run ⟨[], []⟩ ((e.acquire d).2.around.drawing chance)) :=
    ⟨rfl, hkept, hkept, faithful_nil _⟩
  have hcheck : ∀ groups, w.GroupsSettled groups .empty →
      (s.startByGroups c "http://[::1]" groups ((e.acquire d).2.around.drawing chance)).1 =
        (w.groups groups .empty).1 :=
    fun groups hsettled => congrArg Prod.fst (hfits.startByGroups rfl groups hsettled)
  refine ⟨(hcheck [setter, reader] ⟨hfalse _, fun _ => ⟨hx _, fun _ => trivial⟩⟩).trans ?_,
    (hcheck [reader, setter] ⟨hx _, fun _ => ⟨hfalse _, fun _ => trivial⟩⟩).trans ?_⟩
  · rw [Setting.groups_of_next (congrArg Prod.fst hsets), hsets,
      Setting.groups_of_last (by rw [hreads']; simp), hreads']
  · rw [Setting.groups_of_next (congrArg Prod.fst hreads), hreads,
      Setting.groups_of_next (congrArg Prod.fst hsets)]
    rfl

/-- Two groups that set the same variable, and read it once it is set. -/
theorem verdict_eq_of_two_groups :
    let answer : Http.Request → Bool → Except TransportFault Http.RawResponse :=
      fun _ _ => .ok ⟨200, Http.Headers.empty, [], none, 0⟩
    let c := Collaborators.answering answer
    let d : Definition := ⟨"probe", [("n", "0")], .groups [], .blank⟩
    let e := ((new (.new 2 2 ⟨(), [], .constant 5⟩ (.constant 7))).performAll c
      [.acquire "other" d]).2.engine
    let env : Environment := ⟨[⟨"n", .int 0⟩], []⟩
    let w : Setting := ⟨env, answer, "http://[::1]"⟩
    let first := rootGroup [("n", .int 1)] "n == 2"
    let second := rootGroup [("n", .int 2)] "n == 2"
    ∃ s, (e.acquire d).1 = .ok s ∧ s.env = some env ∧ [first, second].Perm [second, first] ∧
      ([first, second].Pairwise fun g h =>
        w.disturbs s.vars g h = false ∧ w.disturbs s.vars h g = false) ∧
      (∀ g ∈ [first, second], w.AllSettled g.rules s.vars) ∧
      let check := fun chance groups =>
        (s.startByGroups c "http://[::1]" groups ((e.acquire d).2.around.drawing chance)).1
      check (.constant 3) [first, second] = .ok true ∧
        ∃ b, check (.constant 4) [second, first] = .ok b ∧ true = b := by
  intro answer c d e env w first second
  let s : Session := Session.blank.bind "probe" env
  let left (n : Int64) : Variables := Variables.empty.insert "n" (.scalar (.int n))
  have hs : (e.acquire d).1 = .ok s := by cbv
  obtain ⟨hfresh, hfits⟩ := fresh_of_acquire answer "http://[::1]" 2 2 (.constant 5) (.constant 7)
    [.acquire "other" d] d hs rfl
  have hgroup := chainFrom_rootGroup (w := w) rfl (fun _ _ => rfl)
  have hfirst : w.chainFrom false first.rules s.vars = (.ok false, left 1) :=
    (hgroup _ _ _).trans (Prod.ext (by cbv) rfl)
  have hsecond : w.chainFrom false second.rules s.vars = (.ok true, left 2) :=
    (hgroup _ _ _).trans (Prod.ext (by cbv) rfl)
  have hsecond' : w.chainFrom false second.rules (left 1) = (.ok true, left 2) :=
    (hgroup _ _ _).trans (Prod.ext (by cbv) rfl)
  have hapart : [first, second].Pairwise fun g h =>
      w.disturbs s.vars g h = false ∧ w.disturbs s.vars h g = false := by
    refine List.pairwise_pair.2 ⟨?_, ?_⟩
    · rw [Setting.disturbs, Setting.alone, hfirst]
      rfl
    · rw [Setting.disturbs, Setting.alone, hsecond]
  have hkept : w.env.Faithful := faithful_nil _
  have hexpression : ∀ vars, w.env.Settled "n == 2" vars :=
    Environment.settled_of_plain hkept (by decide +kernel)
  have hsettled : ∀ g ∈ [first, second], w.AllSettled g.rules s.vars := by
    simp only [List.mem_cons, List.not_mem_nil, or_false, forall_eq_or_imp, forall_eq]
    exact ⟨allSettled_rootGroup hexpression _ _, allSettled_rootGroup hexpression _ _⟩
  have hboth : (w.groups [first, second] s.vars).1 = .ok true := by
    rw [Setting.groups_of_next (congrArg Prod.fst hfirst), hfirst,
      Setting.groups_of_last (by rw [hsecond']; simp), hsecond']
  have hother : (w.groups [second, first] s.vars).1 = .ok true := by
    rw [Setting.groups_of_last (by rw [hsecond]; simp), hsecond]
  have hperm : [first, second].Perm [second, first] := .swap _ _ _
  have hapart' := (hperm.pairwise_iff fun {g h} hgh => And.comm.1 hgh).1 hapart
  have hleft := (hfits.startByGroups_of_apart rfl hfresh (hapart.imp And.left) hsettled
    (.constant 3)).trans hboth
  have hright := (hfits.startByGroups_of_apart rfl hfresh (hapart'.imp And.left)
    (fun g hg => hsettled g (hperm.mem_iff.2 hg)) (.constant 4)).trans hother
  refine ⟨s, hs, rfl, hperm, hapart, hsettled, hleft, true, hright, ?_⟩
  exact verdict_eq_of_perm answer "http://[::1]" 2 2 (.constant 5) (.constant 7)
    [.acquire "other" d] d s env hs rfl [first, second] [second, first] hperm hapart hsettled
    (.constant 3) (.constant 4) true true hleft hright

end Fleet

end HttpProbe
