/-
**Where verdicts come from.**

A step calls on four others one after the other: the request is set up, the transport exchanges it, and
then the search or the evaluation has its say.  The verdict names the one that it comes from: each kind of
error has one source, and what is no error is what the search or the evaluation said.  A rule has one
check, and the other one is not looked at: a rule that searches has an expression in vain, and a rule whose
pattern is blank may as well have none.

Main definitions:

* `Run.answer`, `Run.inbox`, `Run.finding`, `Run.opinion` — what the others say to a step;
* `Run.Sourced` — **the source of every verdict**;
* `Rule.JudgedAlike` — two rules that differ only in a check that is not looked at.

Main results:

* `Run.sourced` — the verdict of a step has the source that it names;
* `Run.step_of_judgedAlike` — such rules are performed alike;
* `Session.sources_of_verdicts` — the same of rules in a row, and of a session that is bound to nothing.
-/

import Mathlib.Data.List.Forall2
import HttpProbe.Proofs.Chain

set_option autoImplicit false
set_option relaxedAutoImplicit false

namespace HttpProbe

/-! ### Malformed requests -/

namespace Http

/-- A header that is malformed makes a malformed request. -/
theorem exists_of_addHeaders {h : Headers} {headers : List (String × String)} {f : Fault}
    (hf : (addHeaders h headers).1 = some f) : ∃ m, f = .requestTemplate m := by
  induction headers generalizing h with
  | nil => cases hf
  | cons header rest ih =>
      obtain ⟨name, value⟩ := header
      rw [addHeaders] at hf
      cases hname : headerName? name with
      | none =>
          rw [hname] at hf
          exact ⟨_, (Option.some.inj hf).symm⟩
      | some n =>
          rw [hname] at hf
          dsimp only at hf
          cases hvalue : headerValue? value with
          | none =>
              rw [hvalue] at hf
              exact ⟨_, (Option.some.inj hf).symm⟩
          | some v =>
              rw [hvalue] at hf
              exact ih hf

/-- Whatever is wrong with a template, the request is what is malformed. -/
theorem exists_of_request {t : Template} {f : Fault} (h : t.request = .error f) :
    ∃ m, f = .requestTemplate m := by
  rw [Template.request, Request.setup] at h
  cases hmethod : method? t.method with
  | none =>
      rw [hmethod] at h
      exact ⟨_, (Except.error.inj h).symm⟩
  | some method =>
      rw [hmethod] at h
      dsimp only at h
      cases hurl : Url.parse t.url with
      | error fault =>
          rw [hurl] at h
          exact ⟨_, (Except.error.inj h).symm⟩
      | ok url =>
          rw [hurl] at h
          dsimp only at h
          cases hheaders : (addHeaders Headers.empty t.headers).1 with
          | none =>
              rw [hheaders] at h
              cases h
          | some fault =>
              rw [hheaders] at h
              obtain rfl := Except.error.inj h
              exact exists_of_addHeaders hheaders

end Http

/-- Two rules differ only in a check that is not looked at: both search and differ in the expression, or
neither searches and they differ in what is written for the search. -/
inductive Rule.JudgedAlike : Rule → Rule → Prop
  | same (rule : Rule) : JudgedAlike rule rule
  | expression {rule : Rule} (h : rule.pattern? ≠ none) (expression : String) :
      JudgedAlike rule { rule with expression := expression }
  | search {rule : Rule} (search : Option String) (h : rule.pattern? = none)
      (hother : Rule.pattern? { rule with search := search } = none) :
      JudgedAlike rule { rule with search := search }

namespace Run

variable {σ : Type} (c : Collaborators σ) (target : String) (rule : Rule) (run : Run σ)

/-! ### What the others say -/

/-- What the transport answers to the request of a rule. -/
def answer (q : Http.Request) : Except TransportFault Http.RawResponse :=
  (c.exchange q rule.followRedirects run.outside).1

/-- The run once the answer to a request is in. -/
def inbox (q : Http.Request) : Run σ :=
  (run.sent rule q (c.exchange q rule.followRedirects run.outside).2).received q

/-- What the search says about an answer. -/
def finding (q : Http.Request) (raw : Http.RawResponse) (pattern : String) :
    Except ExtractFault Unit :=
  (c.extract pattern (Http.Response.ofRaw raw q).bodyText (run.inbox c rule q).scene
    (run.inbox c rule q).outside).1

/-- What the evaluation says about an answer: the response is among the variables. -/
def opinion (q : Http.Request) (raw : Http.RawResponse) : Except EvalFault Bool :=
  let seen := (run.inbox c rule q).insert Variables.responseName
    (.response (.ofRaw raw q) .pools)
  (c.evaluate seen.env rule.expression seen.scene.vars seen.outside).1

variable {c target rule run}

/-! ### What a step makes of it -/

/-- A malformed request ends a step before anybody else is called. -/
theorem step_of_malformed {f : Fault}
    (h : (rule.template target run.scene.vars).request = .error f) :
    (run.step c target rule).1 = .error f ∧
      (run.step c target rule).2.journal = run.journal ∧
      (run.step c target rule).2.outside = run.outside := by
  obtain ⟨r, hr⟩ := Models.prepare_of_error h run.scene.models
  rw [step, hr]
  exact ⟨rfl, rfl, rfl⟩

/-- A request that is sent is answered, or is given back. -/
theorem step_of_sent {q : Http.Request}
    (h : (rule.template target run.scene.vars).request = .ok q) :
    run.step c target rule =
      match run.answer c rule q with
      | .error f =>
        (.error (.transport f),
          (run.sent rule q (c.exchange q rule.followRedirects run.outside).2).giveBack
            (.request q .pools))
      | .ok raw => (run.inbox c rule q).judge c rule (.ofRaw raw q) := by
  rw [step, Models.prepare_of_ok h run.scene.models]
  rfl

/-- The verdict on a request that is not answered. -/
theorem verdict_of_unanswered {q : Http.Request} {f : TransportFault}
    (h : (rule.template target run.scene.vars).request = .ok q)
    (hanswer : run.answer c rule q = .error f) :
    (run.step c target rule).1 = .error (.transport f) := by
  rw [step_of_sent h, hanswer]

/-- The verdict of a rule that searches. -/
theorem verdict_of_searched {q : Http.Request} {raw : Http.RawResponse} {pattern : String}
    (h : (rule.template target run.scene.vars).request = .ok q)
    (hanswer : run.answer c rule q = .ok raw) (hpattern : rule.pattern? = some pattern) :
    (run.step c target rule).1 = searchVerdict (run.finding c rule q raw pattern) := by
  rw [step_of_sent h, hanswer]
  dsimp only
  rw [judge, hpattern]
  rfl

/-- The verdict of a rule that does not search. -/
theorem verdict_of_evaluated {q : Http.Request} {raw : Http.RawResponse}
    (h : (rule.template target run.scene.vars).request = .ok q)
    (hanswer : run.answer c rule q = .ok raw) (hpattern : rule.pattern? = none) :
    (run.step c target rule).1 = expressionVerdict (run.opinion c rule q raw) := by
  rw [step_of_sent h, hanswer]
  dsimp only
  rw [judge, hpattern]
  rfl

/-- A search says that the rule cannot be judged only if it fails for another reason than that nothing was
found. -/
theorem searchVerdict_eq_error_iff {found : Except ExtractFault Unit} {f : Fault} :
    searchVerdict found = .error f ↔
      ∃ fault, found = .error fault ∧ fault ≠ .noMatch ∧ f = .extraction fault.message := by
  constructor
  · intro h
    rcases found with fault | ⟨⟨⟩⟩
    · cases fault with
      | noMatch => cases h
      | pattern pattern message => exact ⟨_, rfl, by simp, (Except.error.inj h).symm⟩
    · cases h
  · rintro ⟨fault, rfl, hfault, rfl⟩
    cases fault <;> first | rfl | exact absurd rfl hfault

/-- An evaluation never says that the rule cannot be judged. -/
theorem expressionVerdict_eq_ok (holds : Except EvalFault Bool) :
    expressionVerdict holds = .ok (holds.toOption.getD false) := by
  cases holds <;> rfl

/-! ### The check that is not looked at -/

variable {c' : Collaborators σ} {rule' : Rule}

/-- Steps that send the same request by the same transport, and judge what comes back alike. -/
theorem step_congr (hexchange : c.exchange = c'.exchange)
    (htemplate : rule.template target run.scene.vars = rule'.template target run.scene.vars)
    (hfollow : rule.followRedirects = rule'.followRedirects)
    (hjudge : ∀ (response : Http.Response) (run : Run σ),
      run.judge c rule response = run.judge c' rule' response) :
    run.step c target rule = run.step c' target rule' := by
  simp only [step, send, receive, hexchange, htemplate, hfollow, hjudge]

/-- **Rules that differ in a check that is not looked at** are performed alike. -/
theorem step_of_judgedAlike (h : rule.JudgedAlike rule') :
    run.step c target rule = run.step c target rule' := by
  refine step_congr rfl ?_ ?_ ?_
  · cases h <;> rfl
  · cases h <;> rfl
  · intro response run
    cases h with
    | same => rfl
    | expression hpattern expression =>
        have hsame : Rule.pattern? { rule with expression := expression } = rule.pattern? := rfl
        rw [judge, judge, hsame]
        cases hsearch : rule.pattern? with
        | none => exact absurd hsearch hpattern
        | some pattern => rfl
    | search search hpattern hother => rw [judge, judge, hpattern, hother]

/-- A rule that searches never has its expression evaluated. -/
theorem step_of_searches (h : rule.pattern? ≠ none)
    (evaluate : Environment → String → Variables → σ → Except EvalFault Bool × Environment × σ) :
    run.step { c with evaluate := evaluate } target rule = run.step c target rule := by
  refine step_congr rfl rfl rfl fun response run => ?_
  rw [judge, judge]
  cases hpattern : rule.pattern? with
  | none => exact absurd hpattern h
  | some pattern => rfl

/-- A rule that does not search never has a body searched. -/
theorem step_of_no_search (h : rule.pattern? = none)
    (extract : String → String → Scene → σ → Except ExtractFault Unit × Scene × σ) :
    run.step { c with extract := extract } target rule = run.step c target rule := by
  refine step_congr rfl rfl rfl fun response run => ?_
  rw [judge, judge, h]
  rfl

/-! ### The source of every verdict -/

variable (c target rule run)

/-- **The source of every verdict.**  It is an error only if the request is malformed, if the transport
fails, or if the search fails for another reason than that nothing was found; the error says which, and
passes on what was said.  All else is the verdict of the one check that the rule has. -/
structure Sourced : Prop where
  /-- The request is malformed. -/
  malformed : ∀ m, (run.step c target rule).1 = .error (.requestTemplate m) ↔
    (rule.template target run.scene.vars).request = .error (.requestTemplate m)
  /-- No malformed request is exchanged, whatever is wrong with it. -/
  unsent : ∀ f, (rule.template target run.scene.vars).request = .error f →
    (∃ m, f = .requestTemplate m) ∧ (run.step c target rule).1 = .error f ∧
      (run.step c target rule).2.journal = run.journal ∧
      (run.step c target rule).2.outside = run.outside
  /-- Every other request is exchanged once. -/
  sent : ∀ q, (rule.template target run.scene.vars).request = .ok q →
    ∃ outstanding, (run.step c target rule).2.journal =
      run.journal ++ [⟨q, rule.followRedirects, outstanding⟩]
  /-- The transport fails. -/
  unanswered : ∀ f, (run.step c target rule).1 = .error (.transport f) ↔
    ∃ q, (rule.template target run.scene.vars).request = .ok q ∧ run.answer c rule q = .error f
  /-- The search fails. -/
  unsearchable : ∀ m, (run.step c target rule).1 = .error (.extraction m) ↔
    ∃ q raw pattern f, (rule.template target run.scene.vars).request = .ok q ∧
      run.answer c rule q = .ok raw ∧ rule.pattern? = some pattern ∧
      run.finding c rule q raw pattern = .error f ∧ f ≠ .noMatch ∧ m = f.message
  /-- Nothing else is an error. -/
  others : ∀ f, (run.step c target rule).1 = .error f →
    (∃ m, f = .requestTemplate m) ∨ (∃ fault, f = .transport fault) ∨ ∃ m, f = .extraction m
  /-- The verdict of the search. -/
  searched : ∀ q raw pattern, (rule.template target run.scene.vars).request = .ok q →
    run.answer c rule q = .ok raw → rule.pattern? = some pattern →
      (run.finding c rule q raw pattern = .ok () → (run.step c target rule).1 = .ok true) ∧
      (run.finding c rule q raw pattern = .error .noMatch → (run.step c target rule).1 = .ok false)
  /-- The verdict of the evaluation. -/
  evaluated : ∀ q raw, (rule.template target run.scene.vars).request = .ok q →
    run.answer c rule q = .ok raw → rule.pattern? = none →
      (∀ b, run.opinion c rule q raw = .ok b → (run.step c target rule).1 = .ok b) ∧
      ∀ f, run.opinion c rule q raw = .error f → (run.step c target rule).1 = .ok false
  /-- A rule that searches never has its expression evaluated. -/
  unevaluated : rule.pattern? ≠ none → ∀ evaluate,
    run.step { c with evaluate := evaluate } target rule = run.step c target rule
  /-- A rule that does not search never has a body searched. -/
  unsearched : rule.pattern? = none → ∀ extract,
    run.step { c with extract := extract } target rule = run.step c target rule

variable {c target rule run} in
/-- A request that is set up is written down as a call. -/
theorem journal_of_sent {q : Http.Request}
    (h : (rule.template target run.scene.vars).request = .ok q) :
    ∃ outstanding, (run.step c target rule).2.journal =
      run.journal ++ [⟨q, rule.followRedirects, outstanding⟩] := by
  have hexit := exit_step c target rule run
  generalize run.step c target rule = result at hexit ⊢
  cases hexit with
  | malformed hrequest =>
      rw [h] at hrequest
      cases hrequest
  | unanswered hrequest hanswer =>
      obtain rfl := Except.ok.inj (h.symm.trans hrequest)
      exact ⟨_, rfl⟩
  | searched hrequest hanswer hpattern =>
      obtain rfl := Except.ok.inj (h.symm.trans hrequest)
      exact ⟨_, rfl⟩
  | evaluated hrequest hanswer hpattern =>
      obtain rfl := Except.ok.inj (h.symm.trans hrequest)
      exact ⟨_, rfl⟩

/-- What an error of a step is: what is wrong with the request, what the transport failed with, or what the
search failed with. -/
theorem error_iff {f : Fault} :
    (run.step c target rule).1 = .error f ↔
      (rule.template target run.scene.vars).request = .error f ∨
      ∃ q, (rule.template target run.scene.vars).request = .ok q ∧
        ((∃ fault, run.answer c rule q = .error fault ∧ f = .transport fault) ∨
          ∃ raw pattern fault, run.answer c rule q = .ok raw ∧ rule.pattern? = some pattern ∧
            run.finding c rule q raw pattern = .error fault ∧ fault ≠ .noMatch ∧
              f = .extraction fault.message) := by
  cases hrequest : (rule.template target run.scene.vars).request with
  | error fault =>
      rw [(step_of_malformed hrequest).1]
      simp
  | ok q =>
      cases hanswer : run.answer c rule q with
      | error fault =>
          rw [verdict_of_unanswered hrequest hanswer]
          simp [hanswer, eq_comm]
      | ok raw =>
          cases hpattern : rule.pattern? with
          | none =>
              rw [verdict_of_evaluated hrequest hanswer hpattern, expressionVerdict_eq_ok]
              simp [hanswer]
          | some pattern =>
              rw [verdict_of_searched hrequest hanswer hpattern, searchVerdict_eq_error_iff]
              simp [hanswer]

/-- **The verdict of a step has the source that it names.** -/
theorem sourced : run.Sourced c target rule where
  malformed m := by
    rw [error_iff]
    simp
  unsent f h := ⟨Http.exists_of_request h, step_of_malformed h⟩
  sent q h := journal_of_sent h
  unanswered f := by
    rw [error_iff]
    constructor
    · rintro (h | ⟨q, hq, ⟨fault, hfault, hf⟩ | ⟨_, _, _, _, _, _, _, hf⟩⟩)
      · obtain ⟨m, hm⟩ := Http.exists_of_request h
        cases hm
      · cases hf
        exact ⟨q, hq, hfault⟩
      · cases hf
    · rintro ⟨q, hq, hf⟩
      exact .inr ⟨q, hq, .inl ⟨f, hf, rfl⟩⟩
  unsearchable m := by
    rw [error_iff]
    constructor
    · rintro (h | ⟨q, hq, ⟨fault, _, hf⟩ | ⟨raw, pattern, fault, hraw, hpattern, hfound, hne, hf⟩⟩)
      · obtain ⟨m, hm⟩ := Http.exists_of_request h
        cases hm
      · cases hf
      · exact ⟨q, raw, pattern, fault, hq, hraw, hpattern, hfound, hne, Fault.extraction.inj hf⟩
    · rintro ⟨q, raw, pattern, fault, hq, hraw, hpattern, hfound, hne, rfl⟩
      exact .inr ⟨q, hq, .inr ⟨raw, pattern, fault, hraw, hpattern, hfound, hne, rfl⟩⟩
  others f h := by
    rcases (error_iff c target rule run).1 h with
      h | ⟨q, hq, ⟨fault, _, hf⟩ | ⟨_, _, fault, _, _, _, _, hf⟩⟩
    · exact .inl (Http.exists_of_request h)
    · exact .inr (.inl ⟨fault, hf⟩)
    · exact .inr (.inr ⟨fault.message, hf⟩)
  searched q raw pattern hq hraw hpattern := by
    rw [verdict_of_searched hq hraw hpattern]
    refine ⟨fun h => ?_, fun h => ?_⟩
    · rw [h, searchVerdict]
    · rw [h, searchVerdict]
  evaluated q raw hq hraw hpattern := by
    rw [verdict_of_evaluated hq hraw hpattern, expressionVerdict_eq_ok]
    refine ⟨fun b h => ?_, fun f h => ?_⟩
    · rw [h]
      rfl
    · rw [h]
      rfl
  unevaluated h := step_of_searches h
  unsearched h := step_of_no_search h

/-! ### Rules in a row -/

variable {c target}

/-- A rule is never said to be unbound. -/
theorem perform_ne_unbound (rule : Rule) (run : Run σ) :
    (run.perform c target rule).1 ≠ .error .unbound := by
  intro h
  rw [perform_eq] at h
  rcases (sourced c target rule (run.merge rule.set)).others _ h with
    ⟨m, hm⟩ | ⟨fault, hfault⟩ | ⟨m, hm⟩
  · cases hm
  · cases hfault
  · cases hm

/-- Rules in a row come to the same if each of them does, step by step, and has the same bindings. -/
theorem chainFrom_congr {rules rules' : List Rule}
    (h : List.Forall₂ (fun rule rule' => rule.set = rule'.set ∧
      ∀ run : Run σ, run.step c target rule = run.step c' target rule') rules rules')
    (verified : Bool) (run : Run σ) :
    run.chainFrom c target verified rules = run.chainFrom c' target verified rules' := by
  induction h generalizing verified run with
  | nil => rfl
  | cons hrule _ ih =>
      obtain ⟨hset, hstep⟩ := hrule
      simp only [chainFrom, perform, hset, hstep, ih]

end Run

namespace Session

variable {σ : Type} {c c' : Collaborators σ} {target : String}

theorem start_congr {rules rules' : List Rule}
    (h : List.Forall₂ (fun rule rule' => rule.set = rule'.set ∧
      ∀ run : Run σ, run.step c target rule = run.step c' target rule') rules rules')
    (s : Session) (a : Surroundings σ) :
    s.start c target rules a = s.start c' target rules' a := by
  rw [start, start]
  cases s.env with
  | none => rfl
  | some env =>
      simp only [Run.chain]
      rw [Run.chainFrom_congr h]

/-- Checking says that a session is unbound only if it is. -/
theorem verdict_eq_unbound_iff (rules : List Rule) (s : Session) (a : Surroundings σ) :
    (s.start c target rules a).1 = .error .unbound ↔ s.env = none := by
  constructor
  · intro h
    cases henv : s.env with
    | none => rfl
    | some env =>
        rw [start_of_env c target rules henv] at h
        obtain ⟨count, calls, hchained, _, _⟩ := Run.chained c target false rules (s.run env a)
        rcases hchained.last with ⟨_, hverdict⟩ | ⟨i, _, hi⟩
        · exact absurd (hverdict.symm.trans h) (by simp)
        · -- no step has this verdict
          rw [Run.outcome] at hi
          obtain ⟨rule, _, hverdict⟩ := Option.map_eq_some_iff.1 hi
          exact absurd (hverdict.trans h) (Run.perform_ne_unbound rule _)
  · intro h
    rw [start_of_unbound c target rules h]

/-- **Where verdicts come from**: the verdict of every step has the source that it names, rules that differ
in checks that are not looked at come to the same in every respect, and no rule is performed in a session
that is bound to nothing. -/
theorem sources_of_verdicts (c : Collaborators σ) (target : String) :
    (∀ (rule : Rule) (run : Run σ), run.Sourced c target rule) ∧
    (∀ rules rules', List.Forall₂ Rule.JudgedAlike rules rules' →
      ∀ (s : Session) (a : Surroundings σ), s.start c target rules a = s.start c target rules' a) ∧
    ∀ rules (s : Session) (a : Surroundings σ),
      ((s.start c target rules a).1 = .error .unbound ↔ s.env = none) ∧
      (s.env = none → s.start c target rules a = (.error .unbound, s, a)) := by
  refine ⟨Run.sourced c target, fun rules rules' h s a => ?_, fun rules s a => ?_⟩
  · refine start_congr (h.imp fun rule rule' halike => ⟨?_, fun run => ?_⟩) s a
    · cases halike <;> rfl
    · exact Run.step_of_judgedAlike halike
  · exact ⟨verdict_eq_unbound_iff rules s a, fun h => start_of_unbound c target rules h a⟩

end Session

end HttpProbe
