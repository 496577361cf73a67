/-
**Rules in a row are a conjunction.**

A check performs rules in order and stops at the first that does not hold.  Set beside it is the plain
fold, which performs rule after rule whatever comes of them.  The check is the fold over the rules up
to and including that first one: it has the verdict of the last rule of these, leaves what the fold
over these leaves, and sends one request for each, in order.  So a check of one list of rules and then
another is the check of both in one list, unless there is nothing in one of them.

Main definitions:

* `Run.through` — the fold over rules;
* `Run.outcome` — what a rule comes to in the fold;
* `Call.Asks` — a call sends the request that a rule stands for;
* `Run.Chained` — **rules are performed up to the first that does not hold**;
* `Session.goOn` — more rules after a check that held.

Main results:

* `Run.chained` — a check is so many rules of the fold;
* `Run.chainFrom_append` — two lists of rules in a row;
* `Session.start_eq_conjunction` — the conjunction, seen from a session.
-/

import HttpProbe.Proofs.Exchanges

set_option autoImplicit false
set_option relaxedAutoImplicit false

namespace HttpProbe

variable {σ : Type} (c : Collaborators σ) (target : String)

/-! ### The fold over rules -/

/-- The call sends the request that the rule stands for, once the bindings of the rule are put into
the variables of the run. -/
structure Call.Asks (call : Call) (target : String) (rule : Rule) (run : Run σ) : Prop where
  request : (rule.template target (run.merge rule.set).scene.vars).request = .ok call.request
  follow : call.follow = rule.followRedirects

namespace Run

/-- The run after rules were performed one after the other, whatever came of them. -/
def through (rules : List Rule) (run : Run σ) : Run σ :=
  rules.foldl (fun run rule => (run.perform c target rule).2) run

/-- What the rule with an index comes to, once those before it were performed. -/
def outcome (rules : List Rule) (run : Run σ) (i : Nat) : Option Verdict :=
  rules[i]?.map fun rule => ((run.through c target (rules.take i)).perform c target rule).1

theorem through_cons (rule : Rule) (rest : List Rule) (run : Run σ) :
    run.through c target (rule :: rest) = (run.perform c target rule).2.through c target rest := by
  rw [through, List.foldl_cons, through]

theorem outcome_succ (rule : Rule) (rest : List Rule) (run : Run σ) (i : Nat) :
    run.outcome c target (rule :: rest) (i + 1) =
      (run.perform c target rule).2.outcome c target rest i := by
  rw [outcome, outcome, List.getElem?_cons_succ, List.take_succ_cons, through_cons]

/-- **Rules are performed up to the first that does not hold.**  There are `count` of them, the
verdict is that of the last one, or else is the one given for no rules.  Each of them makes one call;
only a last one whose request is malformed makes none. -/
structure Chained (whenNone : Bool) (rules : List Rule) (run : Run σ) (count : Nat)
    (verdict : Verdict) (calls : List Call) : Prop where
  within : count ≤ rules.length
  held : ∀ i, i + 1 < count → run.outcome c target rules i = some (.ok true)
  last : rules = [] ∧ verdict = .ok whenNone ∨
    ∃ i, count = i + 1 ∧ run.outcome c target rules i = some verdict
  stopped : count < rules.length → verdict ≠ .ok true
  asked : ∀ (i : Nat) (call : Call), calls[i]? = some call →
    ∃ rule, rules[i]? = some rule ∧
      call.Asks target rule (run.through c target (rules.take i))
  sent : calls.length = count ∨
    ∃ rule f, rules[calls.length]? = some rule ∧ calls.length + 1 = count ∧ verdict = .error f ∧
      (rule.template target
        ((run.through c target (rules.take calls.length)).merge rule.set).scene.vars).request =
          .error f

/-! ### A check is so many rules of the fold -/

variable {c target}

/-- A rule makes the call of its request, or ends because the request is malformed. -/
theorem call_of_perform (rule : Rule) (run : Run σ) :
    (∃ call : Call, call.Asks target rule run ∧
        (run.perform c target rule).2.journal = run.journal ++ [call]) ∨
      ∃ f, (rule.template target (run.merge rule.set).scene.vars).request = .error f ∧
        (run.perform c target rule).1 = .error f ∧
        (run.perform c target rule).2.journal = run.journal := by
  have hjournal := journal_perform c target rule run
  rw [exchange?] at hjournal
  -- whether there is a call depends on the template alone
  cases hrequest : (rule.template target (run.merge rule.set).scene.vars).request with
  | ok q =>
      rw [hrequest] at hjournal
      exact .inl ⟨_, ⟨hrequest, rfl⟩, hjournal⟩
  | error f =>
      rw [hrequest] at hjournal
      refine .inr ⟨f, rfl, ?_, hjournal.trans (List.append_nil _)⟩
      obtain ⟨r, hr⟩ := Models.prepare_of_error hrequest (run.merge rule.set).scene.models
      rw [perform_eq, step, hr]

namespace Chained

variable {whenNone : Bool} {rule : Rule} {rest : List Rule} {run : Run σ}

variable (whenNone rest) in
/-- A rule that does not hold is the last one. -/
theorem stop (hfails : (run.perform c target rule).1 ≠ .ok true) :
    ∃ calls,
      run.Chained c target whenNone (rule :: rest) 1 (run.perform c target rule).1 calls ∧
        (run.perform c target rule).2.journal = run.journal ++ calls := by
  have hlast : run.outcome c target (rule :: rest) 0 = some (run.perform c target rule).1 := rfl
  rcases call_of_perform rule run with ⟨call, hcall, hjournal⟩ | ⟨f, hrequest, hf, hjournal⟩
  · refine ⟨[call], ⟨?_, ?_, .inr ⟨0, rfl, hlast⟩, fun _ => hfails, ?_, .inl rfl⟩, hjournal⟩
    · simp
    · omega
    · intro i other hother
      cases i with
      | zero =>
          cases hother
          exact ⟨rule, rfl, hcall⟩
      | succ i => simp at hother
  · refine ⟨[], ⟨?_, ?_, .inr ⟨0, rfl, hlast⟩, fun _ => hfails, ?_, .inr ?_⟩, ?_⟩
    · simp
    · omega
    · intro i other hother
      simp at hother
    · exact ⟨rule, f, rfl, rfl, hf, hrequest⟩
    · rw [hjournal, List.append_nil]

/-- A rule that holds comes before others. -/
theorem cons {count : Nat} {verdict : Verdict} {calls : List Call} {call : Call}
    (h : (run.perform c target rule).2.Chained c target true rest count verdict calls)
    (hholds : (run.perform c target rule).1 = .ok true) (hcall : call.Asks target rule run) :
    run.Chained c target whenNone (rule :: rest) (count + 1) verdict (call :: calls) := by
  -- what is said of the rest is said of it with every index moved up by one
  have hfirst : run.outcome c target (rule :: rest) 0 = some (.ok true) := congrArg some hholds
  have hlater := outcome_succ c target rule rest run
  refine ⟨?_, ?_, ?_, ?_, ?_, ?_⟩
  · exact Nat.succ_le_succ h.within
  · intro i hi
    cases i with
    | zero => exact hfirst
    | succ i => exact (hlater i).trans (h.held i (by omega))
  · refine .inr ⟨count, rfl, ?_⟩
    rcases h.last with ⟨rfl, rfl⟩ | ⟨i, rfl, hi⟩
    · have hzero : count = 0 := Nat.le_zero.1 h.within
      rw [hzero]
      exact hfirst
    · exact (hlater i).trans hi
  · intro hlt
    exact h.stopped (Nat.lt_of_succ_lt_succ hlt)
  · intro i other hother
    cases i with
    | zero =>
        cases hother
        exact ⟨rule, rfl, hcall⟩
    | succ i =>
        obtain ⟨asking, hrule, hasks⟩ := h.asked i other hother
        refine ⟨asking, hrule, ?_⟩
        rw [List.take_succ_cons, through_cons]
        exact hasks
  · rcases h.sent with hsent | ⟨asking, f, hrule, hsent, hverdict, hrequest⟩
    · exact .inl (congrArg Nat.succ hsent)
    · refine .inr ⟨asking, f, hrule, congrArg Nat.succ hsent, hverdict, ?_⟩
      rw [List.length_cons, List.take_succ_cons, through_cons]
      exact hrequest

end Chained

variable (c target)

/-- **A check is so many rules of the fold.** -/
theorem chained (whenNone : Bool) (rules : List Rule) (run : Run σ) :
    ∃ count calls,
      run.Chained c target whenNone rules count (run.chainFrom c target whenNone rules).1 calls ∧
        (run.chainFrom c target whenNone rules).2 = run.through c target (rules.take count) ∧
        (run.chainFrom c target whenNone rules).2.journal = run.journal ++ calls := by
  induction rules generalizing whenNone run with
  | nil =>
      refine ⟨0, [], ⟨?_, ?_, .inl ⟨rfl, rfl⟩, ?_, ?_, .inl rfl⟩, rfl, ?_⟩
      · exact Nat.le_refl 0
      · omega
      · intro hlt
        exact absurd hlt (Nat.lt_irrefl 0)
      · intro i call hcall
        simp at hcall
      · exact (List.append_nil _).symm
  | cons rule rest ih =>
      by_cases hholds : (run.perform c target rule).1 = .ok true
      · rw [chainFrom_of_holds hholds]
        obtain ⟨call, hcall, hjournal⟩ | ⟨f, _, hf, _⟩ := call_of_perform rule run
        · obtain ⟨count, calls, hchained, hthrough, hrest⟩ :=
            ih true (run.perform c target rule).2
          refine ⟨count + 1, call :: calls, hchained.cons hholds hcall, ?_, ?_⟩
          · rw [List.take_succ_cons, through_cons]
            exact hthrough
          · rw [hjournal, List.append_assoc] at hrest
            exact hrest
        · rw [hholds] at hf
          cases hf
      · rw [chainFrom_of_fails hholds]
        obtain ⟨calls, hchained, hjournal⟩ := Chained.stop whenNone rest hholds
        exact ⟨1, calls, hchained, rfl, hjournal⟩

/-! ### Two lists of rules in a row -/

/-- Where there are rules, it does not matter what is said of none. -/
theorem chainFrom_of_ne_nil {rules : List Rule} (h : rules ≠ []) (whenNone whenNone' : Bool)
    (run : Run σ) :
    run.chainFrom c target whenNone rules = run.chainFrom c target whenNone' rules := by
  cases rules with
  | nil => exact absurd rfl h
  | cons rule rest => rfl

/-- **Two lists of rules in a row.**  The second is performed if the first holds. -/
theorem chainFrom_append (whenNone : Bool) {first : List Rule} (h : first ≠ [] ∨ whenNone = true)
    (second : List Rule) (run : Run σ) :
    run.chainFrom c target whenNone (first ++ second) =
      match run.chainFrom c target whenNone first with
      | (.ok true, run) => run.chainFrom c target true second
      | (verdict, run) => (verdict, run) := by
  induction first generalizing whenNone run with
  | nil =>
      obtain rfl : whenNone = true := h.resolve_left fun hne => hne rfl
      rfl
  | cons rule rest ih =>
      rw [List.cons_append, chainFrom, chainFrom]
      rcases run.perform c target rule with ⟨_ | _ | _, run'⟩
      · rfl
      · rfl
      · exact ih true (.inr rfl) run'

/-! ### The conjunction -/

/-- A check holds if there are rules, and all of them hold. -/
theorem Chained.verdict_iff {c : Collaborators σ} {target : String} {rules : List Rule}
    {run : Run σ} {count : Nat} {verdict : Verdict} {calls : List Call}
    (h : run.Chained c target false rules count verdict calls) :
    verdict = .ok true ↔
      rules ≠ [] ∧ ∀ i < rules.length, run.outcome c target rules i = some (.ok true) := by
  constructor
  · intro hverdict
    rcases h.last with ⟨_, hnone⟩ | ⟨last, rfl, hlast⟩
    · rw [hnone] at hverdict
      cases hverdict
    · have hwithin := h.within
      -- nothing is left behind a last rule that holds
      have hall : ¬ last + 1 < rules.length := fun hlt => h.stopped hlt hverdict
      refine ⟨?_, ?_⟩
      · rintro rfl
        exact absurd hwithin (Nat.not_succ_le_zero last)
      · intro i hi
        by_cases heq : i = last
        · rw [heq, hlast, hverdict]
        · exact h.held i (by omega)
  · rintro ⟨hne, hall⟩
    rcases h.last with ⟨hnil, _⟩ | ⟨last, rfl, hlast⟩
    · exact absurd hnil hne
    · have hholds := hall last h.within
      rw [hlast] at hholds
      exact Option.some.inj hholds

end Run

namespace Session

/-- Goes on with more rules after a check that held. -/
def goOn (more : List Rule) :
    Verdict × Session × Surroundings σ → Verdict × Session × Surroundings σ
  | (.ok true, s, a) => s.start c target more a
  | (verdict, s, a) => (verdict, s, a)

/-- Two lists of rules in a row, seen from a session. -/
theorem start_append (s : Session) (a : Surroundings σ) {first second : List Rule}
    (hfirst : first ≠ []) (hsecond : second ≠ []) :
    s.start c target (first ++ second) a = goOn c target second (s.start c target first a) := by
  cases henv : s.env with
  | none =>
      rw [start_of_unbound c target _ henv, start_of_unbound c target _ henv]
      rfl
  | some env =>
      have happend := Run.chainFrom_append c target false (.inl hfirst) second (s.run env a)
      rw [start_of_env c target _ henv, start_of_env c target _ henv, Run.chain, Run.chain, happend]
      rcases (s.run env a).chainFrom c target false first with ⟨_ | _ | _, r⟩
      · rfl
      · rfl
      · have hbound : (s.after r).env = some r.env := rfl
        have hnone := Run.chainFrom_of_ne_nil c target hsecond true false r
        rw [goOn, start_of_env c target second hbound, Run.chain]
        dsimp only
        rw [hnone]
        rfl

/-- **A check is the conjunction of its rules.**  It holds if there are rules and each of them holds
once those before it were performed; otherwise it comes to what the first that does not hold comes
to, and no rules do not hold.  The rules up to that first one are performed, and no others: the
session, and what sessions share, are left as by these rules.  Each rule makes one call, with its own
request, and only a last one whose request is malformed makes none.  So two lists of rules in a row
are the check of the first, and then of the second if the first holds. -/
theorem start_eq_conjunction {s : Session} {env : Environment} (h : s.env = some env)
    (a : Surroundings σ) (rules : List Rule) :
    let run := s.run env a
    let result := s.start c target rules a
    (result.1 = .ok true ↔
        rules ≠ [] ∧ ∀ i < rules.length, run.outcome c target rules i = some (.ok true)) ∧
      (result.1 ≠ .ok true →
        rules = [] ∧ result.1 = .ok false ∨
          ∃ i, (∀ j < i, run.outcome c target rules j = some (.ok true)) ∧
            run.outcome c target rules i = some result.1) ∧
      (∃ count calls, run.Chained c target false rules count result.1 calls ∧
        result.2 = (s.after (run.through c target (rules.take count)),
          .ofRun (run.through c target (rules.take count))) ∧
        result.2.2.journal = a.journal ++ calls) ∧
      ∀ more, rules ≠ [] → more ≠ [] →
        s.start c target (rules ++ more) a = goOn c target more (s.start c target rules a) := by
  intro run result
  obtain ⟨count, calls, hchained, hthrough, hjournal⟩ := run.chained c target false rules
  have hresult : result = ((run.chainFrom c target false rules).1,
      s.after (run.chainFrom c target false rules).2,
      .ofRun (run.chainFrom c target false rules).2) := start_of_env c target rules h a
  refine ⟨?_, ?_, ?_, fun more => start_append c target s a⟩
  · rw [hresult]
    exact hchained.verdict_iff
  · intro hfails
    rw [hresult]
    rcases hchained.last with hnil | ⟨i, rfl, hlast⟩
    · exact .inl hnil
    · refine .inr ⟨i, ?_, hlast⟩
      intro j hj
      exact hchained.held j (by omega)
  · refine ⟨count, calls, ?_, ?_, ?_⟩
    · rw [hresult]
      exact hchained
    · rw [hresult, hthrough]
    · rw [hresult]
      exact hjournal

/-- A session with no declarations, checked with one rule, and with two. -/
theorem start_of_two_rules :
    let c := Collaborators.standard fun _ _ (sent : Nat) =>
      (.ok ⟨200, Http.Headers.empty, [], none, 3⟩, sent + 1)
    let a : Surroundings (Outside Nat) := ⟨.new 2, ⟨0, [], .constant 7⟩, []⟩
    let s : Session := ⟨"probe", some ⟨[], []⟩, .empty⟩
    s.env = some ⟨[], []⟩ ∧
      ((s.start c "http://host" [.get "/"] a).1 = .ok true ↔
        [Rule.get "/"] ≠ [] ∧ ∀ i < [Rule.get "/"].length,
          (s.run ⟨[], []⟩ a).outcome c "http://host" [.get "/"] i = some (.ok true)) ∧
      s.start c "http://host" ([.get "/"] ++ [.get "/next"]) a =
        goOn c "http://host" [.get "/next"] (s.start c "http://host" [.get "/"] a) := by
  intro c a s
  have henv : s.env = some ⟨[], []⟩ := rfl
  have hconjunction := start_eq_conjunction c "http://host" henv a [.get "/"]
  refine ⟨henv, hconjunction.1, ?_⟩
  exact hconjunction.2.2.2 [.get "/next"] (by simp) (by simp)

end Session

end HttpProbe
