/-
**Values of expressions.**

An expression evaluates to a scalar, to a tuple of values or to nothing.

Main definitions:

* `Expression.Value` — the values;
* `Expression.Shape` — what a value is, with the name that messages use;
* `Value.same` — equality, which compares numbers of double precision as numbers;
* `Value.exact`, `Value.shown` — the two texts of a value: the one in messages says what it is.
-/

import HttpProbe.Scalar
import HttpProbe.Text.Quoted
import HttpProbe.Text.Search

set_option autoImplicit false
set_option relaxedAutoImplicit false

namespace HttpProbe.Expression

/-- A value of an expression. -/
inductive Value where
  | text (s : String)
  | int (n : Int64)
  | float (x : Float)
  | bool (b : Bool)
  | tuple (vs : List Value)
  | empty

/-- What a value is. -/
inductive Shape where
  | text
  | int
  | float
  | bool
  | tuple
  | empty
  deriving DecidableEq, Repr

/-- The name of a sort in messages. -/
def Shape.name : Shape → String
  | .text => "String"
  | .int => "Int"
  | .float => "Float"
  | .bool => "Boolean"
  | .tuple => "Tuple"
  | .empty => "Empty"

/-- What a value is. -/
def Value.shape : Value → Shape
  | .text _ => .text
  | .int _ => .int
  | .float _ => .float
  | .bool _ => .bool
  | .tuple _ => .tuple
  | .empty => .empty

/-- The value of a scalar. -/
def Value.ofScalar : Scalar → Value
  | .text s => .text s
  | .int n => .int n
  | .float x => .float x
  | .bool b => .bool b

/-- The scalar that a value is, if it is one. -/
def Value.scalar? : Value → Option Scalar
  | .text s => some (.text s)
  | .int n => some (.int n)
  | .float x => some (.float x)
  | .bool b => some (.bool b)
  | .tuple _ => none
  | .empty => none

/-- The number that a value is, as one of double precision. -/
def Value.number? : Value → Option Float
  | .int n => some n.toFloat
  | .float x => some x
  | _ => none

@[simp] theorem Value.scalar?_ofScalar (s : Scalar) : (Value.ofScalar s).scalar? = some s := by
  cases s <;> rfl

/-! ### Equality -/

mutual
/-- Are the values equal?  Values of different shapes never are. -/
def Value.same : Value → Value → Bool
  | .text s, .text t => s = t
  | .int m, .int n => m = n
  | .float x, .float y => x == y
  | .bool a, .bool b => a = b
  | .tuple vs, .tuple ws => sameAll vs ws
  | .empty, .empty => true
  | _, _ => false

/-- Are the values of two lists equal, one by one? -/
def Value.sameAll : List Value → List Value → Bool
  | [], [] => true
  | v :: vs, w :: ws => v.same w && sameAll vs ws
  | _, _ => false
end

/-! ### Texts -/

/-- The text of an integer. -/
def intShown (n : Int64) : String := Decimal.intText n.toInt

mutual
/-- The text of a value that also says what it is. -/
def Value.exact : Value → String
  | .text s => "String(" ++ Text.quoted s ++ ")"
  | .int n => "Int(" ++ intShown n ++ ")"
  | .float x => "Float(" ++ Decimal.write Decimal.exact x ++ ")"
  | .bool b => "Boolean(" ++ boolText b ++ ")"
  | .tuple vs => "Tuple([" ++ Text.join ", " (exactAll vs) ++ "])"
  | .empty => "Empty"

/-- The texts of several values that also say what they are. -/
def Value.exactAll : List Value → List String
  | [] => []
  | v :: vs => v.exact :: exactAll vs
end

mutual
/-- The plain text of a value; a text stands between quotes as it is. -/
def Value.shown : Value → String
  | .text s => "\"" ++ s ++ "\""
  | .int n => intShown n
  | .float x => Decimal.write Decimal.plain x
  | .bool b => boolText b
  | .tuple vs => "(" ++ Text.join ", " (shownAll vs) ++ ")"
  | .empty => "()"

/-- The plain texts of several values. -/
def Value.shownAll : List Value → List String
  | [] => []
  | v :: vs => v.shown :: shownAll vs
end

/-- The text that a value is turned into: a text stays as it is. -/
def Value.asText : Value → String
  | .text s => s
  | v => v.shown

end HttpProbe.Expression
