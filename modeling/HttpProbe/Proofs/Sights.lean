/-
**What collaborators are shown.**

While rules are performed, the transport is given requests, the search is given texts, and the
evaluator is given variables.  Collaborators that write down what they are given do otherwise as those
that do not.  What they write down for a rule is that rule's own exchange: its request, the answer
that came, and then a text or variables made of these two.  It does not matter what was in the
variables before, or in the models that were lent.

Main definitions:

* `Sight`, `Collaborators.watched` — what a collaborator is given, and collaborators that write it
  down;
* `Http.Response.Answers` — a response says what an exchange brought back;
* `Round` — **the sights of one rule**.

Main results:

* `Run.sights_of_step` — a step shows its own exchange, or nothing;
* `Session.sights_of_start` — the sights of a check are the rounds of its rules, one after the other.
-/

import Mathlib.Data.List.Forall2
import HttpProbe.Proofs.Exits

set_option autoImplicit false
set_option relaxedAutoImplicit false

namespace HttpProbe

/-! ### Watching -/

/-- What a collaborator is given, and what the transport answers. -/
inductive Sight where
  | exchange (request : Http.Request) (follow : Bool)
      (answer : Except TransportFault Http.RawResponse)
  | search (pattern text : String) (vars : Variables)
  | evaluation (expression : String) (vars : Variables)

/-- Collaborators that do as others do, and write down what they are given. -/
def Collaborators.watched {σ : Type} (c : Collaborators σ) : Collaborators (σ × List Sight) where
  exchange := fun request follow o =>
    let (answer, outside) := c.exchange request follow o.1
    (answer, outside, o.2 ++ [.exchange request follow answer])
  extract := fun pattern text s o =>
    let (found, scene, outside) := c.extract pattern text s o.1
    (found, scene, outside, o.2 ++ [.search pattern text s.vars])
  evaluate := fun env expression vars o =>
    let (holds, env, outside) := c.evaluate env expression vars o.1
    (holds, env, outside, o.2 ++ [.evaluation expression vars])

variable {σ : Type}

/-- The run, with the sights so far. -/
def Run.watching (run : Run σ) (log : List Sight) : Run (σ × List Sight) :=
  ⟨run.scene, run.env, (run.outside, log), run.journal⟩

/-- What sessions share, with the sights so far. -/
def Surroundings.watching (a : Surroundings σ) (log : List Sight) : Surroundings (σ × List Sight) :=
  ⟨a.models, (a.outside, log), a.journal⟩

/-! ### The sights of a rule -/

/-- The response says what an exchange brought back.  Where that has no URL of its own, the URL is
that of the request. -/
structure Http.Response.Answers (r : Http.Response) (raw : Http.RawResponse)
    (asked : Http.Request) : Prop where
  status : r.status = raw.status
  headers : r.headers = raw.headers
  body : r.body = raw.body
  latency : r.latency = raw.latency
  url : r.url = match raw.url with
    | some u => some u
    | none => asked.url

theorem Http.Response.answers_ofRaw (raw : Http.RawResponse) (asked : Http.Request) :
    (ofRaw raw asked).Answers raw asked := by
  refine ⟨rfl, rfl, rfl, rfl, ?_⟩
  change raw.url.or asked.url = _
  cases raw.url <;> rfl

/-- **The sights of one rule.**  The transport is given the request of the rule.  If an answer comes,
either its body is searched, and `request` is that request; or the expression is evaluated, and
`response` is that answer besides. -/
inductive Round (target : String) (rule : Rule) : List Sight → Prop
  | unanswered {vars : Variables} {q : Http.Request} {f : TransportFault}
      (hrequest : (rule.template target vars).request = .ok q) :
      Round target rule [.exchange q rule.followRedirects (.error f)]
  | searched {vars seen : Variables} {q : Http.Request} {raw : Http.RawResponse} {pattern : String}
      (hrequest : (rule.template target vars).request = .ok q)
      (hpattern : rule.pattern? = some pattern)
      (hasked : seen.get? "request" = some (.request q .pools)) :
      Round target rule
        [.exchange q rule.followRedirects (.ok raw), .search pattern (Text.lossy raw.body) seen]
  | evaluated {vars seen : Variables} {q : Http.Request} {raw : Http.RawResponse}
      {r : Http.Response}
      (hrequest : (rule.template target vars).request = .ok q)
      (hpattern : rule.pattern? = none)
      (hasked : seen.get? "request" = some (.request q .pools))
      (hanswered : seen.get? "response" = some (.response r .pools))
      (hanswers : r.Answers raw q) :
      Round target rule
        [.exchange q rule.followRedirects (.ok raw), .evaluation rule.expression seen]

namespace Run

variable (c : Collaborators σ) (target : String)

/-- Whoever judges a response is shown it, and the request it answers. -/
theorem sights_of_receive (rule : Rule) {vars : Variables} {q : Http.Request}
    (hrequest : (rule.template target vars).request = .ok q) (raw : Http.RawResponse) (run : Run σ)
    (log : List Sight) :
    ∃ sight,
      (run.watching log).receive c.watched rule q raw =
          ((run.receive c rule q raw).1,
            (run.receive c rule q raw).2.watching (log ++ [sight])) ∧
        Round target rule [.exchange q rule.followRedirects (.ok raw), sight] := by
  -- the request is written first, and it is still there once the response is written
  have hasked : ∀ vars : Variables,
      (vars.insert Variables.requestName (.request q .pools)).get? "request" =
        some (.request q .pools) := by
    intro vars
    rw [Variables.get?_insert]
    exact if_pos rfl
  cases hpattern : rule.pattern? with
  | some pattern =>
      refine ⟨.search pattern (Text.lossy raw.body) _, ?_,
        .searched hrequest hpattern (hasked run.scene.vars)⟩
      simp only [receive, judge, hpattern]
      rfl
  | none =>
      let seen := (run.scene.vars.insert Variables.requestName (.request q .pools)).insert
        Variables.responseName (.response (.ofRaw raw q) .pools)
      have hkept : seen.get? "request" = some (.request q .pools) := by
        rw [Variables.get?_insert, if_neg (by decide)]
        exact hasked run.scene.vars
      have hanswered : seen.get? "response" = some (.response (.ofRaw raw q) .pools) := by
        rw [Variables.get?_insert]
        exact if_pos rfl
      refine ⟨.evaluation rule.expression seen, ?_,
        .evaluated hrequest hpattern hkept hanswered (Http.Response.answers_ofRaw raw q)⟩
      simp only [receive, judge, hpattern]
      rfl

/-- Sending a request is shown to the transport first. -/
theorem sights_of_send (rule : Rule) {vars : Variables} {q : Http.Request}
    (hrequest : (rule.template target vars).request = .ok q) (run : Run σ) (log : List Sight) :
    ∃ sights,
      (run.watching log).send c.watched rule q =
          ((run.send c rule q).1, (run.send c rule q).2.watching (log ++ sights)) ∧
        Round target rule sights := by
  rcases hanswer : c.exchange q rule.followRedirects run.outside with ⟨answer, o⟩
  have hwatched :
      c.watched.exchange q rule.followRedirects (run.watching log).outside =
        (answer, o, log ++ [.exchange q rule.followRedirects answer]) := by
    simp only [Collaborators.watched, watching, hanswer]
  rw [send, send, hwatched, hanswer]
  cases answer with
  | error f => exact ⟨_, rfl, .unanswered hrequest⟩
  | ok raw =>
      obtain ⟨sight, heq, hround⟩ := sights_of_receive c target rule hrequest raw
        { run.note q rule.followRedirects with outside := o }
        (log ++ [.exchange q rule.followRedirects (.ok raw)])
      refine ⟨_, ?_, hround⟩
      rw [List.append_assoc] at heq
      exact heq

/-- A step shows its own exchange.  It shows nothing if its request is malformed. -/
theorem sights_of_step (rule : Rule) (run : Run σ) (log : List Sight) :
    ∃ sights,
      (run.watching log).step c.watched target rule =
          ((run.step c target rule).1, (run.step c target rule).2.watching (log ++ sights)) ∧
        (Round target rule sights ∨ sights = [] ∧ ∃ f, (run.step c target rule).1 = .error f) := by
  cases hrequest : (rule.template target run.scene.vars).request with
  | error f =>
      obtain ⟨r, hr⟩ := Models.prepare_of_error hrequest run.scene.models
      have hwatched : (run.watching log).scene.models.prepare
          (rule.template target (run.watching log).scene.vars) = _ := hr
      rw [step, step, hr, hwatched]
      refine ⟨[], ?_, .inr ⟨rfl, f, rfl⟩⟩
      rw [List.append_nil]
      rfl
  | ok q =>
      have hr := Models.prepare_of_ok hrequest run.scene.models
      have hwatched : (run.watching log).scene.models.prepare
          (rule.template target (run.watching log).scene.vars) = _ := hr
      rw [step, step, hr, hwatched]
      obtain ⟨sights, heq, hround⟩ := sights_of_send c target rule hrequest
        (run.withModels run.scene.models.lendRequest.2) log
      exact ⟨sights, heq, .inl hround⟩

/-- Bindings are put in, and the exchange is forgotten, out of sight. -/
theorem sights_of_perform (rule : Rule) (run : Run σ) (log : List Sight) :
    ∃ sights,
      (run.watching log).perform c.watched target rule =
          ((run.perform c target rule).1, (run.perform c target rule).2.watching (log ++ sights)) ∧
        (Round target rule sights ∨
          sights = [] ∧ ∃ f, (run.perform c target rule).1 = .error f) := by
  obtain ⟨sights, heq, hround⟩ := sights_of_step c target rule (run.merge rule.set) log
  have hmerged : (run.watching log).merge rule.set = (run.merge rule.set).watching log := rfl
  rw [perform_eq c.watched, perform_eq c, hmerged, heq]
  generalize (run.merge rule.set).step c target rule = out at hround
  exact ⟨sights, rfl, hround⟩

/-- **The sights of rules in order are their rounds, one after the other.** -/
theorem sights_of_chainFrom (verified : Bool) (rules : List Rule) (run : Run σ)
    (log : List Sight) :
    ∃ performed rounds, performed <+: rules ∧ List.Forall₂ (Round target) performed rounds ∧
      (run.watching log).chainFrom c.watched target verified rules =
        ((run.chainFrom c target verified rules).1,
          (run.chainFrom c target verified rules).2.watching (log ++ rounds.flatten)) := by
  induction rules generalizing verified run log with
  | nil =>
      refine ⟨[], [], List.nil_prefix, .nil, ?_⟩
      rw [List.flatten_nil, List.append_nil]
      rfl
  | cons rule rest ih =>
      obtain ⟨sights, heq, hround⟩ := sights_of_perform c target rule run log
      have hverdict : ((run.watching log).perform c.watched target rule).1 =
          (run.perform c target rule).1 := by
        rw [heq]
      by_cases hholds : (run.perform c target rule).1 = .ok true
      · rw [chainFrom_of_holds hholds, chainFrom_of_holds (hverdict.trans hholds), heq]
        rcases hround with hround | ⟨_, f, hf⟩
        · obtain ⟨performed, rounds, hprefix, hrounds, hrest⟩ :=
            ih true (run.perform c target rule).2 (log ++ sights)
          refine ⟨rule :: performed, sights :: rounds, ?_, .cons hround hrounds, ?_⟩
          · exact List.cons_prefix_cons.2 ⟨rfl, hprefix⟩
          · rw [List.flatten_cons, ← List.append_assoc]
            exact hrest
        · rw [hholds] at hf
          cases hf
      · rw [chainFrom_of_fails hholds, chainFrom_of_fails (hverdict.trans_ne hholds), heq]
        -- no further rule is performed: the sights are those of this one, if it has any
        rcases hround with hround | ⟨rfl, _⟩
        · refine ⟨[rule], [sights], ⟨rest, rfl⟩, .cons hround .nil, ?_⟩
          rw [List.flatten_singleton]
        · exact ⟨[], [], List.nil_prefix, .nil, rfl⟩

end Run

/-- **Nothing but its own exchange is shown for a rule.**  Collaborators that write down what they
are given do otherwise as those that do not.  What they write down when a session is checked are the
rounds of rules in order: of all whose request was sent. -/
theorem Session.sights_of_start (c : Collaborators σ) (target : String) (rules : List Rule)
    (s : Session) (a : Surroundings σ) (log : List Sight) :
    ∃ performed rounds, performed <+: rules ∧ List.Forall₂ (Round target) performed rounds ∧
      s.start c.watched target rules (a.watching log) =
        ((s.start c target rules a).1, (s.start c target rules a).2.1,
          (s.start c target rules a).2.2.watching (log ++ rounds.flatten)) := by
  cases henv : s.env with
  | none =>
      refine ⟨[], [], List.nil_prefix, .nil, ?_⟩
      rw [start_of_unbound c.watched target rules henv, start_of_unbound c target rules henv,
        List.flatten_nil, List.append_nil]
  | some env =>
      obtain ⟨performed, rounds, hprefix, hrounds, heq⟩ :=
        Run.sights_of_chainFrom c target false rules (s.run env a) log
      have hchain : (s.run env (a.watching log)).chain c.watched target rules = _ := heq
      refine ⟨performed, rounds, hprefix, hrounds, ?_⟩
      rw [start_of_env c.watched target rules henv, start_of_env c target rules henv, hchain]
      rfl

end HttpProbe
