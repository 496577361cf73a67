/-
**Collaborators.**

A session leaves three things to others: exchanging messages, searching a text, and evaluating an
expression.  Collaborators may keep a state of their own, which is handed through from call to call.

Main definitions:

* `Collaborators` — the three;
* `Outside`, `Collaborators.standard` — the collaborators made of a way to exchange messages, the
  search with regular expressions, and the evaluation of expressions.
-/

import HttpProbe.Environment.Evaluation
import HttpProbe.Extraction

set_option autoImplicit false
set_option relaxedAutoImplicit false

namespace HttpProbe

/-- Who exchanges messages, searches texts and evaluates expressions, with a state of type `σ`.  The
exchange is told whether to follow redirects.  The search may write variables. -/
structure Collaborators (σ : Type) where
  exchange : Http.Request → Bool → σ → Except TransportFault Http.RawResponse × σ
  extract : String → String → Scene → σ → Except ExtractFault Unit × Scene × σ
  evaluate : Environment → String → Variables → σ → Except EvalFault Bool × Environment × σ

/-- The state of the standard collaborators: that of the transport, the patterns compiled so far, and
the chance that is left for expressions. -/
structure Outside (τ : Type) where
  transport : τ
  patterns : Extraction.Patterns
  chance : Chance

namespace Collaborators

variable {τ : Type}

/-- Exchanging messages; the patterns stay as they are. -/
def exchangeBy (exchange : Http.Request → Bool → τ → Except TransportFault Http.RawResponse × τ)
    (request : Http.Request) (follow : Bool) (o : Outside τ) :
    Except TransportFault Http.RawResponse × Outside τ :=
  let (answer, transport) := exchange request follow o.transport
  (answer, { o with transport := transport })

/-- Searching with regular expressions. -/
def search (pattern text : String) (s : Scene) (o : Outside τ) :
    Except ExtractFault Unit × Scene × Outside τ :=
  let (found, patterns, s) := Extraction.extract o.patterns pattern text s
  (found, s, { o with patterns := patterns })

/-- Evaluating expressions, each with a chance of its own. -/
def truth (env : Environment) (expression : String) (vars : Variables) (o : Outside τ) :
    Except EvalFault Bool × Environment × Outside τ :=
  let (verdict, env) := env.evaluate o.chance.left expression vars
  (verdict, env, { o with chance := o.chance.right })

/-- The collaborators around a way to exchange messages. -/
def standard
    (exchange : Http.Request → Bool → τ → Except TransportFault Http.RawResponse × τ) :
    Collaborators (Outside τ) where
  exchange := exchangeBy exchange
  extract := search
  evaluate := truth

end Collaborators

end HttpProbe
