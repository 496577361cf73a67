/-
**The ways a rule can end.**

Performing a rule ends in one of four ways: its request is malformed, its request is sent and nothing
comes back, or a response comes back and is searched or put before an expression.  This module says
once what each of them does to a run; what a rule keeps is then shown for four runs that are written
out, and the definition of a step need not be opened again.

Main definitions:

* `Run.sent`, `Run.received` — the run once a request was sent, and once its response is in;
* `Run.Exit` — the four ways.

Main results:

* `Run.exit_step` — **a step ends in one of the four ways**;
* `Run.perform_eq` — performing a rule, as a step with what comes before and after it.
-/

import HttpProbe.Proofs.Recycling

set_option autoImplicit false
set_option relaxedAutoImplicit false

namespace HttpProbe.Run

variable {σ : Type}

/-! ### A run while a rule is performed -/

/-- The run with a request more on loan. -/
def asking (run : Run σ) : Run σ := run.withModels run.scene.models.lendRequest.2

/-- The run once a request was sent: the call is written down, and the collaborators have moved on. -/
def sent (run : Run σ) (rule : Rule) (request : Http.Request) (outside : σ) : Run σ :=
  { run.asking.note request rule.followRedirects with outside := outside }

/-- The run once the response to a request is in: a response more is on loan, and the request is
among the variables. -/
def received (run : Run σ) (request : Http.Request) : Run σ :=
  (run.withModels run.scene.models.lendResponse.2).insert Variables.requestName
    (.request request .pools)

/-! ### The four ways -/

/-- What performing a rule comes to, without its bindings before it and the forgetting after it. -/
inductive Exit (c : Collaborators σ) (target : String) (rule : Rule) (run : Run σ) :
    Verdict × Run σ → Prop
  | malformed {f : Fault} {r : Http.Request}
      (hrequest : (rule.template target run.scene.vars).request = .error f) :
      Exit c target rule run
        (.error f, run.withModels (run.scene.models.lendRequest.2.takeRequest r))
  | unanswered {q : Http.Request} {f : TransportFault} {o : σ}
      (hrequest : (rule.template target run.scene.vars).request = .ok q)
      (hanswer : c.exchange q rule.followRedirects run.outside = (.error f, o)) :
      Exit c target rule run
        (.error (.transport f), (run.sent rule q o).giveBack (.request q .pools))
  | searched {q : Http.Request} {raw : Http.RawResponse} {o : σ} {pattern : String}
      (hrequest : (rule.template target run.scene.vars).request = .ok q)
      (hanswer : c.exchange q rule.followRedirects run.outside = (.ok raw, o))
      (hpattern : rule.pattern? = some pattern) :
      Exit c target rule run
        (((run.sent rule q o).received q).searchBody c pattern (.ofRaw raw q))
  | evaluated {q : Http.Request} {raw : Http.RawResponse} {o : σ}
      (hrequest : (rule.template target run.scene.vars).request = .ok q)
      (hanswer : c.exchange q rule.followRedirects run.outside = (.ok raw, o))
      (hpattern : rule.pattern? = none) :
      Exit c target rule run
        (((run.sent rule q o).received q).evaluate c rule.expression (.ofRaw raw q))

/-- **A step ends in one of the four ways.** -/
theorem exit_step (c : Collaborators σ) (target : String) (rule : Rule) (run : Run σ) :
    Exit c target rule run (run.step c target rule) := by
  cases hrequest : (rule.template target run.scene.vars).request with
  | error f =>
      obtain ⟨r, hr⟩ := Models.prepare_of_error hrequest run.scene.models
      rw [step, hr]
      exact .malformed hrequest
  | ok q =>
      rw [step, Models.prepare_of_ok hrequest run.scene.models]
      change Exit c target rule run (run.asking.send c rule q)
      rcases hanswer : c.exchange q rule.followRedirects run.outside with ⟨answer, o⟩
      -- lending a model does not touch the state of the collaborators
      have hasked : c.exchange q rule.followRedirects run.asking.outside = (answer, o) := hanswer
      rw [send, hasked]
      cases answer with
      | error f => exact .unanswered hrequest hanswer
      | ok raw =>
          change Exit c target rule run
            (((run.sent rule q o).received q).judge c rule (.ofRaw raw q))
          rw [judge]
          cases hpattern : rule.pattern? with
          | none => exact .evaluated hrequest hanswer hpattern
          | some pattern => exact .searched hrequest hanswer hpattern

/-- A rule is a step with its bindings before it and the forgetting after it. -/
theorem perform_eq (c : Collaborators σ) (target : String) (rule : Rule) (run : Run σ) :
    run.perform c target rule =
      (((run.merge rule.set).step c target rule).1,
        ((run.merge rule.set).step c target rule).2.dropExchange) := rfl

end HttpProbe.Run
