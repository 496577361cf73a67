/-
**The text of a number.**

Once the digits are chosen, a layout decides how they are written: whether a whole number ends in
`.0`, and from which size on the exponent is written out.

Main definitions:

* `Decimal.Layout` — the two decisions;
* `Decimal.plain` — every digit, no exponent: `1`, `0.001`, `1000000000000000000000`;
* `Decimal.exact` — a whole number ends in `.0`, and very large and very small numbers have an
  exponent: `1.0`, `1e21`, `1e-7`;
* `Decimal.write` — the text of a number in a layout.
-/

import HttpProbe.Decimal.Shortest

set_option autoImplicit false
set_option relaxedAutoImplicit false

namespace HttpProbe.Decimal

/-- How the digits of a number are written.  The exponent of the first digit of a number without
one lies in `positional`, if that is given. -/
structure Layout where
  pointZero : Bool
  positional : Option (Int × Int)

/-- No exponent, and no fraction where there is none. -/
def plain : Layout := ⟨false, none⟩

/-- A fraction always, and an exponent below `1e-5` and from `1e16` on. -/
def exact : Layout := ⟨true, some (-5, 15)⟩

/-- The digits of a natural number. -/
def natText (n : Nat) : List Char := Nat.toDigits 10 n

/-- The text of an integer. -/
def intText (n : Int) : String :=
  String.ofList (if n < 0 then '-' :: natText n.natAbs else natText n.natAbs)

/-- Digits with the point in its place and no exponent. -/
def positionalText (pointZero : Bool) (d : Digits) : List Char :=
  let ds := natText d.n
  if 0 ≤ d.p then
    ds ++ List.replicate d.p.toNat '0' ++ (if pointZero then ['.', '0'] else [])
  else
    let k := (-d.p).toNat
    if k < ds.length then ds.take (ds.length - k) ++ '.' :: ds.drop (ds.length - k)
    else '0' :: '.' :: List.replicate (k - ds.length) '0' ++ ds

/-- Digits with one digit before the point and an exponent. -/
def scientificText (d : Digits) : List Char :=
  let ds := natText d.n
  let e := d.p + ds.length - 1
  let mantissa := match ds with
    | c :: [] => [c]
    | c :: rest => c :: '.' :: rest
    | [] => []
  mantissa ++ 'e' :: (intText e).toList

/-- The text of digits in a layout. -/
def Layout.digitsText (l : Layout) (d : Digits) : List Char :=
  let e := d.p + digitCount d.n - 1
  match l.positional with
  | none => positionalText l.pointZero d
  | some (least, most) =>
    if least ≤ e && e ≤ most then positionalText l.pointZero d else scientificText d

/-- The text of a number in a layout. -/
def write (l : Layout) (x : Float) : String :=
  match Dyadic.ofFloat? x with
  | none => if x.isNaN then "NaN" else if signBit x then "-inf" else "inf"
  | some ⟨negative, m, q⟩ =>
    let body :=
      if m = 0 then positionalText l.pointZero ⟨0, 0⟩
      else l.digitsText (shortest m q).trim
    String.ofList (if negative then '-' :: body else body)

end HttpProbe.Decimal
