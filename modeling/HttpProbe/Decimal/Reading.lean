/-
**Reading a number.**

A decimal is an optional sign, digits with at most one point among them, at least one digit, and an
optional exponent; or one of the words `inf`, `infinity` and `nan` in any case, with an optional
sign.  It denotes the nearest number of double precision.

Main definitions:

* `Decimal.readFloat?` — the number written in a text;
* `Decimal.readNat?` — a natural number in a base, digits only;
* `Decimal.readInt?` — an integer with an optional sign, within bounds.
-/

import HttpProbe.Text.Case
import HttpProbe.Decimal.Binary

set_option autoImplicit false
set_option relaxedAutoImplicit false

namespace HttpProbe.Decimal

/-- The value of a digit in bases up to thirty-six. -/
def digitValue (c : Char) : Nat :=
  let n := c.toNat
  if 48 ≤ n && n ≤ 57 then n - 48
  else if 97 ≤ n && n ≤ 122 then n - 87
  else if 65 ≤ n && n ≤ 90 then n - 55
  else 99

/-- A digit of the base. -/
def isDigitOf (base : Nat) (c : Char) : Bool := digitValue c < base

/-- A decimal digit. -/
def isDigit (c : Char) : Bool := isDigitOf 10 c

/-- The natural number with these digits. -/
def natOfDigits (base : Nat) (cs : List Char) : Nat :=
  cs.foldl (fun n c => n * base + digitValue c) 0

/-- A natural number written with at least one digit and nothing else. -/
def readNat? (base : Nat) (cs : List Char) : Option Nat :=
  if cs.isEmpty || !cs.all (isDigitOf base) then none else some (natOfDigits base cs)

/-- A sign in front of a text, and the text after it. -/
def splitSign : List Char → Option Bool × List Char
  | '-' :: cs => (some true, cs)
  | '+' :: cs => (some false, cs)
  | cs => (none, cs)

/-- An integer between the bounds, with an optional sign. -/
def readInt? (base : Nat) (least most : Int) (cs : List Char) : Option Int :=
  let (sign, digits) := splitSign cs
  match readNat? base digits with
  | none => none
  | some n =>
    let v : Int := if sign = some true then -(n : Int) else n
    if least ≤ v && v ≤ most then some v else none

/-- The nearest number to `n · 10 ^ e`.  What is out of reach is not computed. -/
def scale (n : Nat) (e : Int) : Float :=
  if n = 0 then 0
  else
    let size : Int := e + (Nat.toDigits 10 n).length
    if size > 310 then Float.ofBits 0x7FF0000000000000
    else if size < -330 then 0
    else Float.ofScientific n (e < 0) e.natAbs

/-- The exponent after the digits: nothing, or `e` and an integer. -/
def readExponent? : List Char → Option Int
  | [] => some 0
  | c :: cs =>
    if c = 'e' || c = 'E' then
      let (sign, digits) := splitSign cs
      (readNat? 10 digits).map fun n => if sign = some true then -(n : Int) else n
    else none

/-- A decimal without sign. -/
def readDecimal? (cs : List Char) : Option Float :=
  let whole := cs.takeWhile isDigit
  let rest := cs.dropWhile isDigit
  let (fraction, tail) := match rest with
    | '.' :: more => (more.takeWhile isDigit, more.dropWhile isDigit)
    | _ => ([], rest)
  if whole.isEmpty && fraction.isEmpty then none
  else (readExponent? tail).map fun e =>
    scale (natOfDigits 10 (whole ++ fraction)) (e - fraction.length)

/-- One of the words for a number that is no decimal. -/
def readWord? (cs : List Char) : Option Float :=
  let word := String.ofList (cs.map Text.asciiLowerChar)
  if word = "inf" || word = "infinity" then some (Float.ofBits 0x7FF0000000000000)
  else if word = "nan" then some (Float.ofBits 0x7FF8000000000000)
  else none

/-- The number written in a text. -/
def readFloat? (cs : List Char) : Option Float :=
  let (sign, body) := splitSign cs
  let value := (readWord? body).orElse fun _ => readDecimal? body
  value.map fun x => if sign = some true then -x else x

end HttpProbe.Decimal
