/-
**Evaluating the expression of a rule.**

An expression is compiled once and kept by its text.  Evaluating it leaves the variables as they are; the
order in which they are listed is a matter of chance, anew for every evaluation.

Main definitions:

* `Environment.node` — an expression ready to evaluate;
* `Environment.evaluateOn` — its truth value, on variables listed in any order;
* `Environment.evaluate` — its truth value, on variables listed in an order of chance.
-/

import HttpProbe.Environment.Context

set_option autoImplicit false
set_option relaxedAutoImplicit false

namespace HttpProbe.Environment

/-- An expression ready to evaluate, and the environment that keeps it. -/
def node (env : Environment) (expression : String) :
    Except EvalFault Expression.Node × Environment :=
  match env.compiled.lookup expression with
  | some n => (.ok n, env)
  | none =>
    match Expression.parse expression with
    | .error f => (.error (.compile f), env)
    | .ok n => (.ok n, { env with compiled := (expression, n) :: env.compiled })

/-- The truth value of an expression that is ready, on variables listed in any order. -/
def truth (env : Environment) (chance : Chance) (n : Expression.Node)
    (entries : List (String × Value)) : Except EvalFault Bool :=
  match env.bind entries with
  | .error f => .error f
  | .ok ctx =>
    match Expression.truth chance ctx n with
    | .error f => .error (.evaluate f)
    | .ok b => .ok b

/-- The truth value of an expression, on variables listed in any order. -/
def evaluateOn (env : Environment) (chance : Chance) (expression : String)
    (entries : List (String × Value)) : Except EvalFault Bool × Environment :=
  match env.node expression with
  | (.error f, env) => (.error f, env)
  | (.ok n, env) => (env.truth chance n entries, env)

/-- The truth value of an expression: it draws, and the variables are listed, by chance. -/
def evaluate (env : Environment) (chance : Chance) (expression : String) (vars : Variables) :
    Except EvalFault Bool × Environment :=
  env.evaluateOn chance.left expression (chance.right.shuffle vars.entries)

end HttpProbe.Environment
