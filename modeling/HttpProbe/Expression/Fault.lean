/-
**What can go wrong with an expression.**

Main definitions:

* `Expression.Demand` — what an operator or a function asks of an argument;
* `Expression.Fault` — the causes, from reading a text to evaluating it;
* `Fault.message` — their wording.
-/

import HttpProbe.Expression.Value

set_option autoImplicit false
set_option relaxedAutoImplicit false

namespace HttpProbe.Expression

/-- What an operator or a function asks of an argument. -/
inductive Demand where
  | text
  | int
  | float
  | bool
  | number
  | numberOrText
  | tuple
  | pack (least most : Nat)
  deriving DecidableEq, Repr

/-- A natural number in messages. -/
def countText (n : Nat) : String := Decimal.intText n

/-- The wording of a demand. -/
def Demand.wording : Demand → String
  | .text => "Value::String"
  | .int => "Value::Int"
  | .float => "Value::Float"
  | .bool => "Value::Boolean"
  | .number => "Value::Float or Value::Int"
  | .numberOrText => "Value::Number or a Value::String"
  | .tuple => "Value::Tuple"
  | .pack least most =>
    "Value::Tuple of length " ++
      (if least = most then countText least else countText least ++ " to " ++ countText most)

/-- Arithmetic that can leave the range of integers. -/
inductive Arithmetic where
  | add
  | subtract
  | multiply
  | divide
  | modulo
  deriving DecidableEq, Repr

/-- What a fault of arithmetic says was being done, and the sign between the operands. -/
def Arithmetic.wording : Arithmetic → String × String
  | .add => ("adding", "+")
  | .subtract => ("subtracting", "-")
  | .multiply => ("multiplying", "*")
  | .divide => ("dividing", "/")
  | .modulo => ("modulating", "%")

/-- The causes of failure. -/
inductive Fault where
  -- reading
  | badEscape (sequence : String)
  | openQuote
  | openComment
  | loneSymbol (symbol : String) (next : Option String)
  | openParenthesis
  | closedParenthesis
  | missingOperator
  | appendedToLeaf
  | precedence
  -- evaluating
  | argumentCount (expected given : Nat)
  | unmet (demand : Demand) (given : Value)
  | unfit (allowed : List Shape) (given : Value)
  | badSum (shapes : List Shape)
  | overflow (op : Arithmetic) (a b : Value)
  | negation (a : Value)
  | unboundVariable (name : String)
  | unboundFunction (name : String)
  | readOnly
  | outOfBounds
  | emptyRange (least most : Int64)
  | badLength (n : Int64)
  | badPattern (pattern message : String)

/-- The names of shapes in brackets. -/
def shapeList (shapes : List Shape) : String := "[" ++ Text.join ", " (shapes.map Shape.name) ++ "]"

/-- The wording of a fault. -/
def Fault.message : Fault → String
  | .badEscape s => "Illegal escape sequence: " ++ s
  | .openQuote => "Found an unmatched double quote '\"'"
  | .openComment => "Error: unmatched inline comment"
  | .loneSymbol s none =>
    "Found a partial token '" ++ s ++ "' that should be followed by another partial token."
  | .loneSymbol s (some n) =>
    "Found a partial token '" ++ s ++ "' that should not be followed by '" ++ n ++ "'."
  | .openParenthesis => "Found an unmatched opening parenthesis '('."
  | .closedParenthesis => "Found an unmatched closing parenthesis ')'."
  | .missingOperator =>
    "Found an opening parenthesis that is preceded by something that does not take any " ++
      "arguments on the right, or found a closing parenthesis that is succeeded by something " ++
      "that does not take any arguments on the left."
  | .appendedToLeaf => "Tried to append a node to a leaf node."
  | .precedence => "Tried to append a node to another node with higher precedence."
  | .argumentCount e g =>
    "An operator expected " ++ countText e ++ " arguments, but got " ++ countText g ++ "."
  | .unmet d v => "Expected a " ++ d.wording ++ ", but got " ++ v.exact ++ "."
  | .unfit allowed v => "Expected one of " ++ shapeList allowed ++ ", but got " ++ v.exact ++ "."
  | .badSum shapes =>
    "The operator Add was called with a wrong combination of types: " ++ shapeList shapes
  | .overflow op a b =>
    "Error " ++ op.wording.1 ++ " " ++ a.shown ++ " " ++ op.wording.2 ++ " " ++ b.shown
  | .negation a => "Error negating -" ++ a.shown
  | .unboundVariable n =>
    "Variable identifier is not bound to anything by context: " ++ Text.quoted n ++ "."
  | .unboundFunction n =>
    "Function identifier is not bound to anything by context: " ++ Text.quoted n ++ "."
  | .readOnly => "Cannot manipulate context"
  | .outOfBounds => "Tried to access a tuple or string at an invalid index"
  | .emptyRange a b =>
    "Error: randomInt needs min < max, got " ++ intShown a ++ " and " ++ intShown b
  | .badLength n => "Error: randomLowercase length out of range: " ++ intShown n
  | .badPattern p m => "Error: invalid pattern '" ++ p ++ "': " ++ m

end HttpProbe.Expression
