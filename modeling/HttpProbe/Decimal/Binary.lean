/-
**Floating-point numbers as integers times a power of two.**

A finite number of double precision is `± m · 2 ^ q` with natural `m < 2 ^ 53`.  Taking it apart and
putting an exact value back with rounding to nearest, ties to even, is all that printing,
remainders and square roots of sums need; the arithmetic in between is done on integers.

Main definitions:

* `Decimal.Dyadic` — sign, `m` and `q`;
* `Decimal.Dyadic.ofFloat?` — the parts of a finite number;
* `Decimal.roundDyadic` — the nearest number to `± m · 2 ^ q`, ties to even;
* `Decimal.remainder` — the exact remainder of a division, with the sign of the dividend.
-/

set_option autoImplicit false
set_option relaxedAutoImplicit false

namespace HttpProbe.Decimal

-- Powers are those of the core library, also where Mathlib is in scope.  A literal exponent needs its
-- type for that.
attribute [local instance (1100)] instPowNat

/-- The number `± m · 2 ^ q`. -/
structure Dyadic where
  negative : Bool
  m : Nat
  q : Int
  deriving DecidableEq, Repr

/-- The sign bit of a number. -/
def signBit (x : Float) : Bool := x.toBits.toNat / 2 ^ (63 : Nat) == 1

/-- The exponent field of a number, with its bias. -/
def exponentField (x : Float) : Nat := x.toBits.toNat / 2 ^ (52 : Nat) % 2 ^ (11 : Nat)

/-- The fraction field of a number. -/
def fractionField (x : Float) : Nat := x.toBits.toNat % 2 ^ (52 : Nat)

/-- The parts of a finite number; `none` for the infinities and for what is no number. -/
def Dyadic.ofFloat? (x : Float) : Option Dyadic :=
  let e := exponentField x
  if e = 2047 then none
  else if e = 0 then some ⟨signBit x, fractionField x, -1074⟩
  else some ⟨signBit x, 2 ^ (52 : Nat) + fractionField x, (e : Int) - 1075⟩

/-- How many binary digits a natural number has. -/
def bitLength (n : Nat) : Nat := if n = 0 then 0 else n.log2 + 1

/-- The quotient `n / 2 ^ k` rounded to nearest, ties to even. -/
def shiftRound (n k : Nat) : Nat :=
  let d := 2 ^ k
  let quot := n / d
  let rest := n % d
  if 2 * rest < d then quot
  else if 2 * rest > d then quot + 1
  else quot + quot % 2

/-- The bits of a number with exponent field `e` and fraction `f`; a carry out of the fraction
raises the exponent. -/
def assemble (negative : Bool) (e f : Nat) : Float :=
  let magnitude := min (e * 2 ^ (52 : Nat) + f) (2047 * 2 ^ (52 : Nat))
  Float.ofBits (UInt64.ofNat ((if negative then 2 ^ (63 : Nat) else 0) + magnitude))

/-- The number nearest to `± m · 2 ^ q`, ties to even. -/
def roundDyadic (negative : Bool) (m : Nat) (q : Int) : Float :=
  if m = 0 then assemble negative 0 0
  else
    -- the last place of the result: 53 binary digits, but no place below 2 ^ -1074
    let place : Int := max (q + bitLength m - 53) (-1074)
    let f : Nat :=
      if q < place then shiftRound m (place - q).toNat else m * 2 ^ (q - place).toNat
    if f < 2 ^ (52 : Nat) then assemble negative 0 f
    else assemble negative (place + 1075).toNat (f - 2 ^ (52 : Nat))

/-- The remainder of `x / y` when the quotient is cut towards zero; its sign is that of `x`. -/
def remainder (x y : Float) : Float :=
  match Dyadic.ofFloat? x, Dyadic.ofFloat? y with
  | some a, some b =>
    if b.m = 0 then Float.ofBits 0x7FF8000000000000
    else
      let q := min a.q b.q
      roundDyadic a.negative
        (a.m * 2 ^ (a.q - q).toNat % (b.m * 2 ^ (b.q - q).toNat)) q
  | some _, none => if y.isNaN then y else x
  | none, _ => Float.ofBits 0x7FF8000000000000

/-- The number `√(x² + y²)`, computed from the exact sum of the squares. -/
def hypotenuse (x y : Float) : Float :=
  match Dyadic.ofFloat? x, Dyadic.ofFloat? y with
  | some a, some b =>
    let q := min a.q b.q
    let u := a.m * 2 ^ (a.q - q).toNat
    let v := b.m * 2 ^ (b.q - q).toNat
    -- two hundred more binary places, and one digit that says whether the root is inexact
    let sum := (u * u + v * v) * 2 ^ (400 : Nat)
    let root := Nat.sqrt sum
    roundDyadic false (2 * root + (if root * root = sum then 0 else 1)) (q - 201)
  | _, _ =>
    if x.isInf || y.isInf then Float.ofBits 0x7FF0000000000000
    else Float.ofBits 0x7FF8000000000000

end HttpProbe.Decimal
