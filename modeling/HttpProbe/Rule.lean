/-
**Rules and definitions.**

A definition describes how a weakness is recognised.  It declares variables and lists rules, all of
which must hold, or groups of rules, one of which must hold.  A rule says which request is sent, and
how the response is judged: by a search pattern, or else by an expression.

Main definitions:

* `joinUrl` — a target and a path joined by one slash;
* `Rule`, `RuleGroup`, `RuleSet`, `Definition`;
* `Rule.pattern?` — the search pattern of a rule, unless it is blank;
* `Rule.template` — the request of a rule, filled from variables;
* `Definition.validate` — what a definition must have.
-/

import HttpProbe.Fault
import HttpProbe.Variables

set_option autoImplicit false
set_option relaxedAutoImplicit false

namespace HttpProbe

/-! ### Targets -/

/-- The slash. -/
def isSlash (c : Char) : Bool := c = '/'

/-- A target and a path with one slash between them. -/
def joinUrl (target path : String) : String :=
  String.ofList (Text.dropTrailing isSlash target.toList ++
    '/' :: Text.dropLeading isSlash path.toList)

/-! ### Rules -/

/-- One request, and how its response is judged. -/
structure Rule where
  method : String
  path : String
  body : String
  headers : List (String × String)
  followRedirects : Bool
  search : Option String
  expression : String
  set : List (String × Scalar)
  deriving DecidableEq

namespace Rule

/-- The rule that nothing is said about. -/
def default : Rule := ⟨"GET", "", "", [], true, none, "", []⟩

/-- A rule that gets a path. -/
def get (path : String) : Rule := { default with path := path }

/-- A rule that posts a body to a path. -/
def post (path body : String) : Rule :=
  { default with method := "POST", path := path, body := body }

/-- The search pattern without the blanks at its ends, unless nothing is left. -/
def pattern? (r : Rule) : Option String :=
  match r.search with
  | none => none
  | some s => if Text.trim s = "" then none else some (Text.trim s)

/-- Is there an expression? -/
def hasExpression (r : Rule) : Bool := Text.trim r.expression ≠ ""

/-- The request of a rule, filled from variables. -/
def template (r : Rule) (target : String) (vars : Variables) : Http.Template where
  method := r.method
  url := joinUrl target (vars.render r.path)
  body := vars.render r.body
  headers := r.headers.map fun h => (h.1, vars.render h.2)

end Rule

/-! ### Definitions -/

/-- Rules under a name. -/
structure RuleGroup where
  name : String
  rules : List Rule
  deriving DecidableEq

/-- The rules of a definition: all of a chain must hold, or all of one group. -/
inductive RuleSet where
  | chain (rules : List Rule)
  | groups (groups : List RuleGroup)
  deriving DecidableEq

/-- What is told about a definition. -/
structure Detail where
  author : Option String
  description : Option String
  links : List String
  deriving DecidableEq

/-- How a weakness is recognised. -/
structure Definition where
  name : String
  set : List (String × String)
  rules : RuleSet
  detail : Detail
  deriving DecidableEq

/-- Nothing is told. -/
def Detail.blank : Detail := ⟨none, none, []⟩

/-! ### Validation -/

/-- What is wrong with the rules of a definition. -/
inductive RulesFault where
  | noRules
  | noCheck (index : Nat)
  deriving DecidableEq, Repr

/-- The wording of a fault of the rules at a place. -/
def RulesFault.message (place : String) : RulesFault → String
  | .noRules => place ++ " has no rules"
  | .noCheck i =>
    place ++ " rule #" ++ String.ofList (Decimal.natText i) ++
      " has neither search nor expression"

/-- Can the response be judged? -/
def Rule.hasCheck (r : Rule) : Bool := r.pattern?.isSome || r.hasExpression

/-- The first rule without a check; the first rule of the list has the index `index`. -/
def uncheckedFrom (index : Nat) : List Rule → Option Nat
  | [] => none
  | r :: rest => if r.hasCheck then uncheckedFrom (index + 1) rest else some index

/-- What is wrong with a list of rules. -/
def rulesFault? (rules : List Rule) : Option RulesFault :=
  if rules.isEmpty then some .noRules else (uncheckedFrom 0 rules).map .noCheck

/-- The definition's name between quotes. -/
def Definition.quotedName (d : Definition) : String := "'" ++ d.name ++ "'"

/-- What is wrong with the groups of a definition: the first group with a fault counts. -/
def groupsFault? (place : String) : List RuleGroup → Option String
  | [] => none
  | g :: rest =>
    match rulesFault? g.rules with
    | some f => some (f.message (place ++ " group '" ++ g.name ++ "'"))
    | none => groupsFault? place rest

/-- What a definition lacks, if it lacks something. -/
def Definition.lack? (d : Definition) : Option String :=
  if Text.trim d.name = "" then some "Definition name is empty"
  else
    match d.rules with
    | .chain rules => (rulesFault? rules).map (RulesFault.message d.quotedName)
    | .groups [] => some (d.quotedName ++ " has no rule groups")
    | .groups groups => groupsFault? d.quotedName groups

/-- A definition must have a name, and rules or groups; no list of rules may be empty, and each rule
needs a search pattern or an expression. -/
def Definition.validate (d : Definition) : Except Fault Unit :=
  match d.lack? with
  | some m => .error (.definition m)
  | none => .ok ()

end HttpProbe
