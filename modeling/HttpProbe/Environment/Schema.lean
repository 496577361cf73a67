/-
**The schema of a definition.**

A definition declares variables, each with an expression for its default value.  The declarations are
compiled in order: an expression may use the variables declared before it.  The kind of a variable is
that of its default.

Main definitions:

* `Declaration` — a variable with its default;
* `Environment` — the declarations of a definition, and the expressions compiled so far;
* `Environment.compile` — the environment of a schema;
* `Environment.kindOf?`, `Environment.seed` — the declared kinds, and the defaults as variables.
-/

import HttpProbe.Expression.Eval
import HttpProbe.Fault
import HttpProbe.Variables

set_option autoImplicit false
set_option relaxedAutoImplicit false

namespace HttpProbe

/-- A variable with its default. -/
structure Declaration where
  name : String
  default : Scalar
  deriving DecidableEq

/-- The kind of a declared variable. -/
def Declaration.kind (d : Declaration) : Kind := d.default.kind

/-- The declarations of a definition, and the expressions compiled so far. -/
structure Environment where
  declarations : List Declaration
  compiled : List (String × Expression.Node)

namespace Environment

/-! ### Names -/

/-- A name that the exchange of a rule goes by. -/
def isReserved (name : String) : Bool :=
  name = Variables.requestName || name = Variables.responseName

/-- A letter of ASCII or an underscore, then letters, digits and underscores. -/
def isIdentifier (name : String) : Bool :=
  match name.toList with
  | [] => false
  | c :: rest => (c.isAlpha || c = '_') && rest.all fun d => d.isAlphanum || d = '_'

/-! ### Faults -/

/-- Why an entry of a schema is refused. -/
inductive EntryFault where
  | reserved
  | notIdentifier
  | duplicate
  | unreadable (f : Expression.Fault)
  | failed (f : Expression.Fault)
  | unsupported (v : Expression.Value)

/-- The wording of a fault of an entry with its name and expression. -/
def EntryFault.message (name expression : String) : EntryFault → String
  | .reserved => "'" ++ name ++ "' is a reserved variable name"
  | .notIdentifier => "Invalid variable name '" ++ name ++ "'"
  | .duplicate => "Duplicate variable '" ++ name ++ "'"
  | .unreadable f =>
    "Cannot parse default of '" ++ name ++ "' (" ++ expression ++ "): " ++ f.message
  | .failed f =>
    "Cannot evaluate default of '" ++ name ++ "' (" ++ expression ++ "): " ++ f.message
  | .unsupported v => "Default of '" ++ name ++ "' has unsupported type: " ++ v.shown

/-! ### Compiling -/

/-- The default of one more entry, after the declarations `ds`; the expression sees the context. -/
def defaultOf (chance : Chance) (ctx : Expression.Bindings) (ds : List Declaration)
    (name expression : String) : Except EntryFault Scalar :=
  if isReserved name then .error .reserved
  else if !isIdentifier name then .error .notIdentifier
  else if ds.any fun d => d.name = name then .error .duplicate
  else
    match Expression.parse expression with
    | .error f => .error (.unreadable f)
    | .ok node =>
      match node.eval chance ctx with
      | .error f => .error (.failed f)
      | .ok v =>
        match v.scalar? with
        | none => .error (.unsupported v)
        | some s => .ok s

/-- The declarations `ds` followed by those of a schema.  Each default is set in the context, where the
expressions after it see it. -/
def declare (chance : Chance) (ctx : Expression.Bindings) (ds : List Declaration) :
    List (String × String) → Except Fault (List Declaration)
  | [] => .ok ds
  | (name, expression) :: rest =>
    match defaultOf chance.left ctx ds name expression with
    | .error f => .error (.environment (f.message name expression))
    | .ok s =>
      match ctx.set name (.ofScalar s) with
      | .error f => .error (.environment f.message)
      | .ok ctx => declare chance.right ctx (ds ++ [⟨name, s⟩]) rest

/-- The environment of a schema. -/
def compile (chance : Chance) (schema : List (String × String)) : Except Fault Environment :=
  (declare chance [] [] schema).map fun ds => ⟨ds, []⟩

/-- The kind that a name is declared with. -/
def kindOf? (env : Environment) (name : String) : Option Kind :=
  (env.declarations.find? fun d => d.name = name).map Declaration.kind

/-- Puts the defaults into variables. -/
def seed (env : Environment) (vars : Variables) : Variables :=
  env.declarations.foldl (fun vars d => vars.insert d.name (.scalar d.default)) vars

end Environment

end HttpProbe
