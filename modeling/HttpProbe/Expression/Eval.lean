/-
**Evaluating an expression.**

The arguments of an operator are evaluated from left to right, then the operator is applied; no
operator leaves an argument out.  Variables are only read.

Main definitions:

* `Expression.Bindings` — the variables with their values;
* `Expression.operate` — applies an operator;
* `Node.eval` — the value of a tree;
* `Expression.truth` — the truth value that a tree evaluates to.
-/

import HttpProbe.Expression.Tree
import HttpProbe.Expression.Function

set_option autoImplicit false
set_option relaxedAutoImplicit false

namespace HttpProbe.Expression

/-! ### Variables -/

/-- Variables with their values, each name once. -/
abbrev Bindings := List (String × Value)

/-- The value of a variable. -/
def Bindings.get? (vars : Bindings) (name : String) : Option Value := vars.lookup name

/-- Puts a value in the place of the one that a variable has, or adds the variable at the end. -/
def Bindings.put (name : String) (v : Value) : Bindings → Bindings
  | [] => [(name, v)]
  | (n, w) :: rest => if n = name then (n, v) :: rest else (n, w) :: put name v rest

/-- What a value must be to take the place of another. -/
def Shape.demand : Shape → Demand
  | .text => .text
  | .int => .int
  | .float => .float
  | .bool => .bool
  | .tuple => .tuple
  | .empty => .tuple

/-- Sets a variable.  Its value may change, but not the shape of its value. -/
def Bindings.set (vars : Bindings) (name : String) (v : Value) : Except Fault Bindings :=
  match vars.get? name with
  | some w =>
    if w.shape = v.shape then .ok (vars.put name v) else .error (.unmet w.shape.demand v)
  | none => .ok (vars.put name v)

/-! ### Operators -/

/-- The integer with a value, if it is in range. -/
def inRange? (n : Int) : Option Int64 :=
  if intBounds.1 ≤ n && n ≤ intBounds.2 then some (Int64.ofInt n) else none

/-- Arithmetic on integers; `none` where there is no result or it is out of range. -/
def Arithmetic.onInts (op : Arithmetic) (m n : Int64) : Option Int64 :=
  match op with
  | .add => inRange? (m.toInt + n.toInt)
  | .subtract => inRange? (m.toInt - n.toInt)
  | .multiply => inRange? (m.toInt * n.toInt)
  | .divide => if n = 0 then none else inRange? (m.toInt.tdiv n.toInt)
  | .modulo =>
    if n = 0 || (n = -1 && m = Int64.minValue) then none else inRange? (m.toInt.tmod n.toInt)

/-- Arithmetic on numbers of double precision. -/
def Arithmetic.onFloats (op : Arithmetic) (x y : Float) : Float :=
  match op with
  | .add => x + y
  | .subtract => x - y
  | .multiply => x * y
  | .divide => x / y
  | .modulo => Decimal.remainder x y

/-- Arithmetic on two numbers: on integers if both are. -/
def Arithmetic.apply (op : Arithmetic) (a b : Value) : Except Fault Value :=
  match a, b with
  | .int m, .int n =>
    match op.onInts m n with
    | some k => .ok (.int k)
    | none => .error (.overflow op a b)
  | _, _ => do
    let x ← wantNumber a
    let y ← wantNumber b
    .ok (.float (op.onFloats x y))

/-- A number or a text. -/
def wantOrdered (v : Value) : Except Fault Unit :=
  match v with
  | .text _ => .ok ()
  | v => if v.number?.isSome then .ok () else .error (.unmet .numberOrText v)

/-- The sum of two numbers, or two texts joined. -/
def sum (a b : Value) : Except Fault Value := do
  wantOrdered a
  wantOrdered b
  match a, b with
  | .text s, .text t => .ok (.text (s ++ t))
  | .text _, _ => .error (.badSum [a.shape, b.shape])
  | _, .text _ => .error (.badSum [a.shape, b.shape])
  | _, _ => Arithmetic.add.apply a b

/-- Compares two texts by code points, two integers as integers, other numbers as numbers. -/
def compare (texts : String → String → Bool) (ints : Int64 → Int64 → Bool)
    (floats : Float → Float → Bool) (a b : Value) : Except Fault Value := do
  wantOrdered a
  wantOrdered b
  match a, b with
  | .text s, .text t => .ok (.bool (texts s t))
  | .int m, .int n => .ok (.bool (ints m n))
  | _, _ => do
    let x ← wantNumber a
    let y ← wantNumber b
    .ok (.bool (floats x y))

/-- The opposite of a number. -/
def negated : Value → Except Fault Value
  | .int n =>
    match inRange? (-n.toInt) with
    | some m => .ok (.int m)
    | none => .error (.negation (.int n))
  | .float x => .ok (.float (-x))
  | v => .error (.unmet .number v)

/-- An operator of two arguments. -/
def operateOnTwo (a b : Value) : Operator → Except Fault Value
  | .add => sum a b
  | .subtract => Arithmetic.subtract.apply a b
  | .multiply => Arithmetic.multiply.apply a b
  | .divide => Arithmetic.divide.apply a b
  | .modulo => Arithmetic.modulo.apply a b
  | .power => do
    let x ← wantNumber a
    let y ← wantNumber b
    .ok (.float (Float.pow x y))
  | .equal => .ok (.bool (a.same b))
  | .unequal => .ok (.bool (!a.same b))
  | .greater => compare (fun s t => t < s) (fun m n => n < m) (fun x y => y < x) a b
  | .less => compare (fun s t => s < t) (fun m n => m < n) (fun x y => x < y) a b
  | .atLeast => compare (fun s t => !(s < t)) (fun m n => n ≤ m) (fun x y => y ≤ x) a b
  | .atMost => compare (fun s t => !(t < s)) (fun m n => m ≤ n) (fun x y => x ≤ y) a b
  | .and => do
    let x ← wantBool a
    let y ← wantBool b
    .ok (.bool (x && y))
  | .or => do
    let x ← wantBool a
    let y ← wantBool b
    .ok (.bool (x || y))
  | _ => .error .readOnly

/-- Applies an operator to its arguments. -/
def operate (chance : Chance) (vars : Bindings) (op : Operator) (args : List Value) :
    Except Fault Value :=
  match op with
  | .group => .ok (args.headD .empty)
  | .tuple => .ok (.tuple args)
  | .chain =>
    match args.getLast? with
    | some v => .ok v
    | none => .error (.argumentCount 1 0)
  | .assign _ => .error .readOnly
  | .literal v => if args.isEmpty then .ok v else .error (.argumentCount 0 args.length)
  | .target name =>
    if args.isEmpty then .ok (.text name) else .error (.argumentCount 0 args.length)
  | .read name =>
    if !args.isEmpty then .error (.argumentCount 0 args.length)
    else match vars.get? name with
      | some v => .ok v
      | none => .error (.unboundVariable name)
  | .call name =>
    match args with
    | [v] => apply chance name v
    | _ => .error (.argumentCount 1 args.length)
  | .negate =>
    match args with
    | [v] => negated v
    | _ => .error (.argumentCount 1 args.length)
  | .not =>
    match args with
    | [v] => (wantBool v).map fun b => .bool (!b)
    | _ => .error (.argumentCount 1 args.length)
  | op =>
    match args with
    | [a, b] => operateOnTwo a b op
    | _ => .error (.argumentCount 2 args.length)

/-! ### Trees -/

mutual
/-- The value of a tree. -/
def Node.eval (chance : Chance) (vars : Bindings) : Node → Except Fault Value
  | .mk op args => do
    let vs ← evalAll chance.left vars args
    operate chance.right vars op vs.reverse

/-- The values of arguments that are kept last one first; the first of them is evaluated first. -/
def Node.evalAll (chance : Chance) (vars : Bindings) : List Node → Except Fault (List Value)
  | [] => .ok []
  | last :: earlier => do
    let vs ← evalAll chance.left vars earlier
    let v ← last.eval chance.right vars
    .ok (v :: vs)
end

/-- The truth value of a tree. -/
def truth (chance : Chance) (vars : Bindings) (n : Node) : Except Fault Bool := do
  let v ← n.eval chance vars
  wantBool v

end HttpProbe.Expression
