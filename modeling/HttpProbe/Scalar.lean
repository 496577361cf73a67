/-
**Scalars.**

The plain values of a definition: texts, integers of 64 bits, numbers of double precision and truth
values.  A variable holds a scalar or a handle on a model of a message, and has the kind of what it
holds.

Main definitions:

* `Kind` — what a variable can hold;
* `Scalar` — a plain value;
* `Scalar.kind`, `Scalar.shown` — its kind, and the text that stands for it in a template.
-/

import HttpProbe.Decimal.Layout

set_option autoImplicit false
set_option relaxedAutoImplicit false

namespace HttpProbe

/-- What a variable can hold. -/
inductive Kind where
  | text
  | int
  | float
  | bool
  | request
  | response
  deriving DecidableEq, Repr

/-- The name of a kind in messages. -/
def Kind.name : Kind → String
  | .text => "string"
  | .int => "int"
  | .float => "float"
  | .bool => "bool"
  | .request => "request"
  | .response => "response"

/-- A plain value. -/
inductive Scalar where
  | text (s : String)
  | int (n : Int64)
  | float (x : Float)
  | bool (b : Bool)
  deriving DecidableEq

/-- The kind of a scalar. -/
def Scalar.kind : Scalar → Kind
  | .text _ => .text
  | .int _ => .int
  | .float _ => .float
  | .bool _ => .bool

/-- The text of a truth value. -/
def boolText (b : Bool) : String := if b then "true" else "false"

/-- The text of a scalar: a text stands for itself, a number has no exponent. -/
def Scalar.shown : Scalar → String
  | .text s => s
  | .int n => Decimal.intText n.toInt
  | .float x => Decimal.write Decimal.plain x
  | .bool b => boolText b

end HttpProbe
