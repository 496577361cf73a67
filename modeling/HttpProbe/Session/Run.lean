/-
**Performing rules.**

A rule binds its own variables, sends one request, and judges the response: by its search pattern if it
has one, and by its expression otherwise.  Rules are performed in order up to the first that does not
hold.  What a rule exchanged is forgotten before the next one.

Main definitions:

* `Call` — a request that was sent, and what was on loan at that moment;
* `Run` — variables, environment, collaborators' state and calls while rules are performed;
* `Run.step` — sending the request of a rule, and judging the response;
* `Run.perform` — a step with the bindings before it and the forgetting after it;
* `Run.chain` — performing rules in order.

Main results:

* `Run.chainFrom_of_holds`, `Run.chainFrom_of_fails` — what comes after the first of several rules.
-/

import HttpProbe.Rule
import HttpProbe.Session.Collaborators

set_option autoImplicit false
set_option relaxedAutoImplicit false

namespace HttpProbe

/-- A request that was sent, whether redirects were to be followed, and how many requests and
responses were on loan at that moment. -/
structure Call where
  request : Http.Request
  follow : Bool
  outstanding : Nat × Nat
  deriving DecidableEq

/-- What performing a rule ends with: does the rule hold, or why could it not be performed? -/
abbrev Verdict := Except Fault Bool

/-- What changes while rules are performed: the variables with the models on loan, the environment,
the collaborators' state, and the calls made so far. -/
structure Run (σ : Type) where
  scene : Scene
  env : Environment
  outside : σ
  journal : List Call

namespace Run

variable {σ : Type}

/-! ### Changing a run -/

/-- Puts other pools in place. -/
def withModels (run : Run σ) (m : Models) : Run σ :=
  { run with scene := { run.scene with models := m } }

/-- Takes back what a value has on loan. -/
def giveBack (run : Run σ) (v : Value) : Run σ := run.withModels (run.scene.models.giveBack v)

/-- Puts a value under a name. -/
def insert (run : Run σ) (name : String) (v : Value) : Run σ :=
  { run with scene := run.scene.insert name v }

/-- Puts bindings in. -/
def merge (run : Run σ) (bindings : List (String × Scalar)) : Run σ :=
  { run with scene := run.scene.merge bindings }

/-- Removes the exchange that the last rule was about. -/
def dropExchange (run : Run σ) : Run σ := { run with scene := run.scene.dropExchange }

/-- Writes down a call. -/
def note (run : Run σ) (request : Http.Request) (follow : Bool) : Run σ :=
  { run with journal := run.journal ++ [⟨request, follow, run.scene.models.outstanding⟩] }

/-! ### One rule -/

/-- The verdict of a search: it is not an error that nothing was found. -/
def searchVerdict : Except ExtractFault Unit → Verdict
  | .ok () => .ok true
  | .error .noMatch => .ok false
  | .error f => .error (.extraction f.message)

/-- The verdict of an expression: one without a truth value does not hold. -/
def expressionVerdict : Except EvalFault Bool → Verdict
  | .ok b => .ok b
  | .error _ => .ok false

/-- Searches the body of a response, which goes back to its pool. -/
def searchBody (c : Collaborators σ) (pattern : String) (response : Http.Response) (run : Run σ) :
    Verdict × Run σ :=
  let (found, scene, outside) := c.extract pattern response.bodyText run.scene run.outside
  (searchVerdict found,
    giveBack { run with scene := scene, outside := outside } (.response response .pools))

/-- Evaluates an expression with the response among the variables. -/
def evaluate (c : Collaborators σ) (expression : String) (response : Http.Response) (run : Run σ) :
    Verdict × Run σ :=
  let run := run.insert Variables.responseName (.response response .pools)
  let (holds, env, outside) := c.evaluate run.env expression run.scene.vars run.outside
  (expressionVerdict holds, { run with env := env, outside := outside })

/-- Judges a response. -/
def judge (c : Collaborators σ) (rule : Rule) (response : Http.Response) (run : Run σ) :
    Verdict × Run σ :=
  match rule.pattern? with
  | some pattern => run.searchBody c pattern response
  | none => run.evaluate c rule.expression response

/-- Takes over what an exchange brought back, and judges it. -/
def receive (c : Collaborators σ) (rule : Rule) (request : Http.Request) (raw : Http.RawResponse)
    (run : Run σ) : Verdict × Run σ :=
  let (response, models) := run.scene.models.respond raw request
  ((run.withModels models).insert Variables.requestName (.request request .pools)).judge c rule
    response

/-- Sends a request, and judges what comes back.  If nothing does, the request goes back to its
pool. -/
def send (c : Collaborators σ) (rule : Rule) (request : Http.Request) (run : Run σ) :
    Verdict × Run σ :=
  let (answer, outside) := c.exchange request rule.followRedirects run.outside
  let run := { run.note request rule.followRedirects with outside := outside }
  match answer with
  | .error f => (.error (.transport f), run.giveBack (.request request .pools))
  | .ok raw => run.receive c rule request raw

/-- Fills the request of a rule from the variables, sends it, and judges what comes back. -/
def step (c : Collaborators σ) (target : String) (rule : Rule) (run : Run σ) : Verdict × Run σ :=
  match run.scene.models.prepare (rule.template target run.scene.vars) with
  | (.error f, models) => (.error f, run.withModels models)
  | (.ok request, models) => (run.withModels models).send c rule request

/-- Performs a rule: its bindings come first, and the exchange is forgotten at the end. -/
def perform (c : Collaborators σ) (target : String) (rule : Rule) (run : Run σ) :
    Verdict × Run σ :=
  let (verdict, run) := (run.merge rule.set).step c target rule
  (verdict, run.dropExchange)

/-! ### Several rules -/

/-- Performs rules in order up to the first that does not hold; `verified` is the verdict on those
before. -/
def chainFrom (c : Collaborators σ) (target : String) (verified : Bool) :
    List Rule → Run σ → Verdict × Run σ
  | [], run => (.ok verified, run)
  | rule :: rest, run =>
    match run.perform c target rule with
    | (.ok true, run) => chainFrom c target true rest run
    | (verdict, run) => (verdict, run)

/-- After a rule that holds the others come. -/
theorem chainFrom_of_holds {c : Collaborators σ} {target : String} {rule : Rule} {run : Run σ}
    (h : (run.perform c target rule).1 = .ok true) (verified : Bool) (rest : List Rule) :
    run.chainFrom c target verified (rule :: rest) =
      (run.perform c target rule).2.chainFrom c target true rest := by
  rcases hperform : run.perform c target rule with ⟨verdict, run'⟩
  rw [hperform] at h
  obtain rfl := h
  rw [chainFrom, hperform]

/-- A rule that does not hold is the last one. -/
theorem chainFrom_of_fails {c : Collaborators σ} {target : String} {rule : Rule} {run : Run σ}
    (h : (run.perform c target rule).1 ≠ .ok true) (verified : Bool) (rest : List Rule) :
    run.chainFrom c target verified (rule :: rest) = run.perform c target rule := by
  rw [chainFrom]
  generalize run.perform c target rule = result at h ⊢
  rcases result with ⟨_ | _ | _, run'⟩
  · rfl
  · rfl
  · exact absurd rfl h

/-- Performs rules in order up to the first that does not hold.  No rules do not hold. -/
def chain (c : Collaborators σ) (target : String) (rules : List Rule) (run : Run σ) :
    Verdict × Run σ :=
  chainFrom c target false rules run

end Run

end HttpProbe
