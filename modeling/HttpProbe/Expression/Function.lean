/-
**The functions of expressions.**

A function takes one argument, which is a tuple where it needs several values.

Main definitions:

* `Expression.wantText` and its like — an argument of the sort that is needed, or the fault;
* `Expression.mathFunction?`, `textFunction?`, `choiceFunction?`, `bitFunction?` — the general
  functions, by family;
* `Expression.probeFunction?` — the functions for looking at responses, and those that draw at
  random;
* `Expression.apply` — any function by name.
-/

import HttpProbe.Chance
import HttpProbe.Expression.Fault
import HttpProbe.Decimal.Binary
import HttpProbe.Regex.Match

set_option autoImplicit false
set_option relaxedAutoImplicit false

namespace HttpProbe.Expression

/-! ### Arguments -/

/-- A text. -/
def wantText : Value → Except Fault String
  | .text s => .ok s
  | v => .error (.unmet .text v)

/-- An integer. -/
def wantInt : Value → Except Fault Int64
  | .int n => .ok n
  | v => .error (.unmet .int v)

/-- A truth value. -/
def wantBool : Value → Except Fault Bool
  | .bool b => .ok b
  | v => .error (.unmet .bool v)

/-- An integer or a number of double precision, as the latter. -/
def wantNumber (v : Value) : Except Fault Float :=
  match v.number? with
  | some x => .ok x
  | none => .error (.unmet .number v)

/-- A tuple. -/
def wantTuple : Value → Except Fault (List Value)
  | .tuple vs => .ok vs
  | v => .error (.unmet .tuple v)

/-- A tuple with a number of members between two bounds. -/
def wantPack (least most : Nat) : Value → Except Fault (List Value)
  | .tuple vs =>
    if least ≤ vs.length && vs.length ≤ most then .ok vs
    else .error (.unmet (.pack least most) (.tuple vs))
  | v => .error (.unmet .tuple v)

/-- A tuple of two. -/
def wantPair (v : Value) : Except Fault (Value × Value) := do
  match ← wantPack 2 2 v with
  | [a, b] => .ok (a, b)
  | _ => .error (.unmet (.pack 2 2) v)

/-- A tuple of two texts. -/
def wantTexts (v : Value) : Except Fault (String × String) := do
  let (a, b) ← wantPair v
  let s ← wantText a
  let t ← wantText b
  .ok (s, t)

/-- A tuple of two integers. -/
def wantInts (v : Value) : Except Fault (Int64 × Int64) := do
  let (a, b) ← wantPair v
  let m ← wantInt a
  let n ← wantInt b
  .ok (m, n)

/-- A tuple of two numbers. -/
def wantNumbers (v : Value) : Except Fault (Float × Float) := do
  let (a, b) ← wantPair v
  let x ← wantNumber a
  let y ← wantNumber b
  .ok (x, y)

/-! ### Arithmetic -/

/-- The natural logarithm of `1 + x`, exact also where `1 + x` is not. -/
def logOnePlus (x : Float) : Float :=
  let u := 1 + x
  if u == 1 then x
  else if u.isInf then Float.log u
  else Float.log u * (x / (u - 1))

/-- The first number with the sign of the second. -/
def withSignOf (x y : Float) : Float :=
  if Decimal.signBit y then -x.abs else x.abs

/-- The inverse of the hyperbolic sine. -/
def arsinh (x : Float) : Float :=
  let a := x.abs
  let i := 1 / a
  withSignOf (logOnePlus (a + a / (Decimal.hypotenuse 1 i + i))) x

/-- The inverse of the hyperbolic cosine. -/
def arcosh (x : Float) : Float :=
  if x < 1 then 0.0 / 0.0 else Float.log (x + Float.sqrt (x - 1) * Float.sqrt (x + 1))

/-- The inverse of the hyperbolic tangent. -/
def artanh (x : Float) : Float := 0.5 * logOnePlus (2 * x / (1 - x))

/-- A number with an exponent that is neither the least nor the greatest. -/
def isNormal (x : Float) : Bool :=
  Decimal.exponentField x != 0 && Decimal.exponentField x != 2047

/-- The functions of one number. -/
def unary? (name : String) : Option (Float → Float) :=
  match name with
  | "math::ln" => some Float.log
  | "math::log2" => some Float.log2
  | "math::log10" => some Float.log10
  | "math::exp" => some Float.exp
  | "math::exp2" => some Float.exp2
  | "math::cos" => some Float.cos
  | "math::acos" => some Float.acos
  | "math::cosh" => some Float.cosh
  | "math::acosh" => some arcosh
  | "math::sin" => some Float.sin
  | "math::asin" => some Float.asin
  | "math::sinh" => some Float.sinh
  | "math::asinh" => some arsinh
  | "math::tan" => some Float.tan
  | "math::atan" => some Float.atan
  | "math::tanh" => some Float.tanh
  | "math::atanh" => some artanh
  | "math::sqrt" => some Float.sqrt
  | "math::cbrt" => some Float.cbrt
  | "floor" => some Float.floor
  | "round" => some Float.round
  | "ceil" => some Float.ceil
  | _ => none

/-- The functions of two numbers. -/
def binary? (name : String) : Option (Float → Float → Float) :=
  match name with
  | "math::log" => some fun x base => Float.log x / Float.log base
  | "math::pow" => some Float.pow
  | "math::atan2" => some Float.atan2
  | "math::hypot" => some Decimal.hypotenuse
  | _ => none

/-- The questions about a number. -/
def question? (name : String) : Option (Float → Bool) :=
  match name with
  | "math::is_nan" => some Float.isNaN
  | "math::is_finite" => some Float.isFinite
  | "math::is_infinite" => some Float.isInf
  | "math::is_normal" => some isNormal
  | _ => none

/-- The size of a number without its sign. -/
def magnitude : Value → Except Fault Value
  | .float x => .ok (.float x.abs)
  | .int n => .ok (.int (if n < 0 then -n else n))
  | v => .error (.unmet .number v)

/-- The functions of arithmetic. -/
def mathFunction? (name : String) : Option (Value → Except Fault Value) :=
  match unary? name with
  | some f => some fun v => (wantNumber v).map fun x => .float (f x)
  | none => match binary? name with
    | some f => some fun v => (wantNumbers v).map fun p => .float (f p.1 p.2)
    | none => match question? name with
      | some f => some fun v => (wantNumber v).map fun x => .bool (f x)
      | none => if name = "math::abs" then some magnitude else none

/-! ### Choices -/

/-- The smaller of two numbers, or the one that is a number. -/
def lesser (x y : Float) : Float := if x.isNaN then y else if y < x then y else x

/-- The greater of two numbers, or the one that is a number. -/
def greater (x y : Float) : Float := if x.isNaN then y else if x < y then y else x

/-- The best integer and the best number of double precision of a list. -/
def bestOf (ints : Int64 → Int64 → Int64) (floats : Float → Float → Float) :
    Int64 → Float → List Value → Except Fault (Int64 × Float)
  | n, x, [] => .ok (n, x)
  | n, x, .float y :: vs => bestOf ints floats n (floats x y) vs
  | n, x, .int m :: vs => bestOf ints floats (ints n m) x vs
  | _, _, v :: _ => .error (.unmet .number v)

/-- The least of a tuple of numbers; an integer only if it is less than all other numbers. -/
def least (v : Value) : Except Fault Value := do
  let vs ← wantTuple v
  let (n, x) ← bestOf (fun a b => if b < a then b else a) lesser Int64.maxValue (1.0 / 0.0) vs
  .ok (if n.toFloat < x then .int n else .float x)

/-- The greatest of a tuple of numbers; an integer only if it is greater than all other numbers. -/
def greatest (v : Value) : Except Fault Value := do
  let vs ← wantTuple v
  let (n, x) ← bestOf (fun a b => if a < b then b else a) greater Int64.minValue (-1.0 / 0.0) vs
  .ok (if x < n.toFloat then .int n else .float x)

/-- The sorts that can be looked for in a tuple. -/
def searchable : List Shape := [.text, .int, .float, .bool]

/-- Is a value among others? -/
def isAmong (vs : List Value) (v : Value) : Except Fault Bool :=
  if searchable.contains v.shape then .ok (vs.any fun w => w.same v)
  else .error (.unfit searchable v)

/-- Is one of the values among others? -/
def anyAmong (vs : List Value) : List Value → Except Fault Bool
  | [] => .ok false
  | w :: ws => do
    let found ← isAmong vs w
    let more ← anyAmong vs ws
    .ok (found || more)

/-- The name of a shape that `typeof` says. -/
def shapeName : Shape → String
  | .text => "string"
  | .int => "int"
  | .float => "float"
  | .bool => "boolean"
  | .tuple => "tuple"
  | .empty => "empty"

/-- The number of octets of a text, or of members of a tuple. -/
def lengthOf : Value → Except Fault Value
  | .text s => .ok (.int (Int64.ofNat s.utf8ByteSize))
  | .tuple vs => .ok (.int (Int64.ofNat vs.length))
  | v => .error (.unfit [.text, .tuple] v)

/-- The functions that choose and look for values. -/
def choiceFunction? (name : String) : Option (Value → Except Fault Value) :=
  match name with
  | "typeof" => some fun v => .ok (.text (shapeName v.shape))
  | "min" => some least
  | "max" => some greatest
  | "len" => some lengthOf
  | "if" => some fun v => do
    match ← wantPack 3 3 v with
    | [c, a, b] => do
      let c ← wantBool c
      .ok (if c then a else b)
    | _ => .error (.unmet (.pack 3 3) v)
  | "contains" => some fun v => do
    let (vs, w) ← wantPair v
    let vs ← wantTuple vs
    let found ← isAmong vs w
    .ok (.bool found)
  | "contains_any" => some fun v => do
    let (vs, ws) ← wantPair v
    let vs ← wantTuple vs
    let ws ← wantTuple ws
    let found ← anyAmong vs ws
    .ok (.bool found)
  | _ => none

/-! ### Texts -/

/-- An integer as a place in a text. -/
def wantPlace (v : Value) : Except Fault Nat := do
  let n ← wantInt v
  if n < 0 then .error .outOfBounds else .ok n.toInt.toNat

/-- The octets of a text between two places. -/
def substring (v : Value) : Except Fault Value := do
  match ← wantPack 2 3 v with
  | s :: start :: more => do
    let bytes := Text.octets (← wantText s)
    let start ← wantPlace start
    let stop ← match more with
      | stop :: _ => wantPlace stop
      | [] => .ok bytes.length
    if stop < start || bytes.length < stop then .error .outOfBounds
    else .ok (.text (Text.lossy ((bytes.drop start).take (stop - start))))
  | _ => .error (.unmet (.pack 2 3) v)

/-- The functions of texts. -/
def textFunction? (name : String) : Option (Value → Except Fault Value) :=
  match name with
  | "str::to_lowercase" => some fun v => (wantText v).map fun s => .text (Text.lower s)
  | "str::to_uppercase" => some fun v => (wantText v).map fun s => .text (Text.upper s)
  | "str::trim" => some fun v => (wantText v).map fun s => .text (Text.trim s)
  | "str::from" => some fun v => .ok (.text v.asText)
  | "str::substring" => some substring
  | _ => none

/-! ### Bits -/

/-- The functions of two integers. -/
def bitPair? (name : String) : Option (Int64 → Int64 → Int64) :=
  match name with
  | "bitand" => some fun m n => m &&& n
  | "bitor" => some fun m n => m ||| n
  | "bitxor" => some fun m n => m ^^^ n
  | "shl" => some fun m n => m <<< n
  | "shr" => some fun m n => m >>> n
  | _ => none

/-- The functions of bits. -/
def bitFunction? (name : String) : Option (Value → Except Fault Value) :=
  match bitPair? name with
  | some f => some fun v => (wantInts v).map fun p => .int (f p.1 p.2)
  | none => if name = "bitnot" then some fun v => (wantInt v).map fun n => .int (~~~n) else none

/-! ### Looking at responses, and chance -/

/-- Does the second text occur in the first? -/
def holds (s t : String) : Bool := Text.contains s t

/-- Does the second text occur in the first when case is ignored? -/
def holdsAnyCase (s t : String) : Bool := Text.contains (Text.lower s) (Text.lower t)

/-- A question about two texts. -/
def textQuestion? (name : String) : Option (String → String → Bool) :=
  match name with
  | "bcontains" => some holds
  | "icontains" => some holdsAnyCase
  | "starts_with" => some Text.startsWith
  | "ends_with" => some Text.endsWith
  | _ => none

/-- Does a pattern match somewhere in a text? -/
def patternMatches (v : Value) : Except Fault Value := do
  let (pattern, text) ← wantTexts v
  match Regex.compile pattern with
  | .ok r => .ok (.bool (r.isMatch text))
  | .error e => .error (.badPattern pattern e.message)

/-- An integer from the first bound up to but not including the second. -/
def drawInt (chance : Chance) (v : Value) : Except Fault Value := do
  let (lo, hi) ← wantInts v
  if hi ≤ lo then .error (.emptyRange lo hi)
  else .ok (.int (Int64.ofInt (lo.toInt + chance.below (hi.toInt - lo.toInt).toNat)))

/-- The most letters that are drawn at once. -/
def letterLimit : Int64 := 4096

/-- A number of small letters. -/
def drawLetters (chance : Chance) (v : Value) : Except Fault Value := do
  let n ← wantInt v
  if n < 0 || letterLimit < n then .error (.badLength n)
  else .ok (.text (String.ofList (chance.letters n.toInt.toNat)))

/-- The functions for looking at responses and for drawing at random. -/
def probeFunction? (chance : Chance) (name : String) : Option (Value → Except Fault Value) :=
  match textQuestion? name with
  | some f => some fun v => (wantTexts v).map fun p => .bool (f p.1 p.2)
  | none => match name with
    | "matches" => some patternMatches
    | "randomInt" => some (drawInt chance)
    | "randomLowercase" => some (drawLetters chance)
    | _ => none

/-! ### All functions -/

/-- The function with this name. -/
def function? (chance : Chance) (name : String) : Option (Value → Except Fault Value) :=
  (((((probeFunction? chance name).orElse fun _ => mathFunction? name).orElse
    fun _ => choiceFunction? name).orElse fun _ => textFunction? name).orElse
    fun _ => bitFunction? name)

/-- Applies the function with this name. -/
def apply (chance : Chance) (name : String) (v : Value) : Except Fault Value :=
  match function? chance name with
  | some f => f v
  | none => .error (.unboundFunction name)

end HttpProbe.Expression
