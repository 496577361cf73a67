/-
**The context of an expression.**

An expression sees the scalars among the variables under their own names, and the exchange that the
rule is about as variables such as `response.status` or `request.headers.x_id`.

Main definitions:

* `EvalFault` — why an expression has no truth value;
* `Environment.requestFields`, `Environment.responseFields` — the variables made of an exchange;
* `Environment.bind` — the context, from the variables in any order.
-/

import HttpProbe.Environment.Schema

set_option autoImplicit false
set_option relaxedAutoImplicit false

namespace HttpProbe

/-- Why an expression has no truth value. -/
inductive EvalFault where
  | compile (f : Expression.Fault)
  | bind (name : String) (f : Expression.Fault)
  | kindMismatch (name : String) (expected found : Kind)
  | evaluate (f : Expression.Fault)

/-- The wording of a fault. -/
def EvalFault.message : EvalFault → String
  | .compile f => "cannot compile expression: " ++ f.message
  | .bind name f => "cannot bind variable " ++ name ++ ": " ++ f.message
  | .kindMismatch name expected found =>
    "variable '" ++ name ++ "' is declared as " ++ expected.name ++ " but holds " ++ found.name
  | .evaluate f => "evaluation failed: " ++ f.message

namespace Environment

open Expression (Bindings)

/-! ### Exchanges -/

/-- The name under which an expression finds a header: underscores for hyphens. -/
def headerKey (owner name : String) : String :=
  owner ++ ".headers." ++ Text.replaceChar '-' '_' name

/-- The headers of a message: the values of one name are joined. -/
def headerFields (owner : String) (h : Http.Headers) : Bindings :=
  h.groups.map fun g => (headerKey owner g.1, .text (Text.join ", " (g.2.map Text.lossy)))

/-- The variables made of a request. -/
def requestFields (r : Http.Request) : Bindings :=
  [("request.method", .text r.method), ("request.url", .text r.urlText),
    ("request.path", .text r.path), ("request.body", .text r.bodyText)] ++
  headerFields Variables.requestName r.headers

/-- The largest latency that is shown. -/
def latencyLimit : Nat := 9223372036854775807

/-- The variables made of a response. -/
def responseFields (r : Http.Response) : Bindings :=
  [("response.status", .int (Int64.ofNat r.status)), ("response.body", .text r.bodyText),
    ("response.content_type", .text r.contentType), ("response.url", .text r.urlText),
    ("response.latency", .int (Int64.ofNat (min r.latency latencyLimit)))] ++
  headerFields Variables.responseName r.headers

/-! ### Binding -/

/-- Sets a variable of the context. -/
def setField (ctx : Bindings) (name : String) (v : Expression.Value) : Except EvalFault Bindings :=
  match ctx.set name v with
  | .ok ctx => .ok ctx
  | .error f => .error (.bind name f)

/-- Sets several variables of the context, one after the other. -/
def setFields (ctx : Bindings) : Bindings → Except EvalFault Bindings
  | [] => .ok ctx
  | (name, v) :: rest => do
    let ctx ← setField ctx name v
    setFields ctx rest

/-- What a variable adds to the context.  A scalar must be of the kind that its name is declared
with; a handle counts only under its own name. -/
def bindEntry (env : Environment) (ctx : Bindings) (name : String) (v : Value) :
    Except EvalFault Bindings :=
  match v with
  | .request r _ =>
    if name = Variables.requestName then setFields ctx (requestFields r) else .ok ctx
  | .response r _ =>
    if name = Variables.responseName then setFields ctx (responseFields r) else .ok ctx
  | .scalar s =>
    match env.kindOf? name with
    | some k =>
      if s.kind = k then setField ctx name (.ofScalar s)
      else .error (.kindMismatch name k s.kind)
    | none => setField ctx name (.ofScalar s)

/-- The context that variables add up to, in the order in which they are listed. -/
def bindFrom (env : Environment) (ctx : Bindings) :
    List (String × Value) → Except EvalFault Bindings
  | [] => .ok ctx
  | (name, v) :: rest => do
    let ctx ← env.bindEntry ctx name v
    env.bindFrom ctx rest

/-- The context of variables listed in any order. -/
def bind (env : Environment) (entries : List (String × Value)) : Except EvalFault Bindings :=
  env.bindFrom [] entries

end Environment

end HttpProbe
