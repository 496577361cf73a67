/-
**The shortest decimal that reads back.**

Every number of double precision is the nearest one to a whole interval of reals.  Its shortest
decimal is the decimal with the fewest digits in that interval, and among those the nearest to the
number.  For one digit, two digits and so on, only the two neighbours of the number on the decimal
grid need to be tried: if any point of the grid lies in the interval, one of them does.

Main definitions:

* `Decimal.Interval` — a number and the ends of its interval on a common denominator;
* `Decimal.Digits` — `n · 10 ^ p`;
* `Decimal.shortest` — the digits of a positive finite number.
-/

import HttpProbe.Decimal.Binary

set_option autoImplicit false
set_option relaxedAutoImplicit false

namespace HttpProbe.Decimal

-- Powers are those of the core library, also where Mathlib is in scope.  A literal exponent needs its
-- type for that.
attribute [local instance (1100)] instPowNat

/-- The decimal `n · 10 ^ p`. -/
structure Digits where
  n : Nat
  p : Int
  deriving DecidableEq, Repr

/-- The number `at / den` and the reals from `low / den` to `high / den` that round to it; the ends
belong to the interval if `closed`. -/
structure Interval where
  low : Nat
  value : Nat
  high : Nat
  den : Nat
  closed : Bool

/-- The interval of `m · 2 ^ q`.  Below a power of two the neighbours are half as far away. -/
def Interval.of (m : Nat) (q : Int) : Interval :=
  let up := 2 ^ (q - 2).toNat
  let edge := m = 2 ^ (52 : Nat) && q > -1074
  ⟨(4 * m - if edge then 1 else 2) * up, 4 * m * up, (4 * m + 2) * up, 2 ^ (2 - q).toNat,
    m % 2 == 0⟩

/-- Does `n · 10 ^ p` lie in the interval? -/
def Interval.holds (i : Interval) (d : Digits) : Bool :=
  let x := d.n * 10 ^ d.p.toNat * i.den
  let s := 10 ^ (-d.p).toNat
  if i.closed then i.low * s ≤ x && x ≤ i.high * s else i.low * s < x && x < i.high * s

/-- The largest `n` with `n · 10 ^ p` at most the number. -/
def Interval.floorAt (i : Interval) (p : Int) : Nat :=
  i.value * 10 ^ (-p).toNat / (i.den * 10 ^ p.toNat)

/-- Is the number nearer to `(n + 1) · 10 ^ p` than to `n · 10 ^ p`?  Half way counts as nearer to
the even one. -/
def Interval.nearerAbove (i : Interval) (n : Nat) (p : Int) : Bool :=
  let twice := 2 * i.value * 10 ^ (-p).toNat
  let middle := (2 * n + 1) * i.den * 10 ^ p.toNat
  if twice = middle then n % 2 == 1 else twice > middle

/-- The neighbour of the number on the grid of `10 ^ p` that lies in its interval, if one does. -/
def Interval.onGrid? (i : Interval) (p : Int) : Option Digits :=
  let n := i.floorAt p
  match i.holds ⟨n, p⟩, i.holds ⟨n + 1, p⟩ with
  | true, true => some (if i.nearerAbove n p then ⟨n + 1, p⟩ else ⟨n, p⟩)
  | true, false => some ⟨n, p⟩
  | false, true => some ⟨n + 1, p⟩
  | false, false => none

/-- How many decimal digits a natural number has. -/
def digitCount (n : Nat) : Nat := (Nat.toDigits 10 n).length

/-- The exponent of ten of the first digit of the number. -/
def Interval.magnitude (i : Interval) : Int :=
  if i.den ≤ i.value then (digitCount (i.value / i.den) : Int) - 1
  else
    -- below one: the count of digits of the reciprocal, less one where it is a power of ten
    (-(digitCount ((i.den - 1) / i.value) : Int))

/-- The first of the grids from coarse to fine that has a point in the interval. -/
def Interval.search (i : Interval) (e : Int) : Nat → Nat → Digits
  | 0, k => ⟨i.floorAt (e - k), e - k⟩
  | left + 1, k =>
    match i.onGrid? (e - k) with
    | some d => d
    | none => i.search e left (k + 1)

/-- The digits of `m · 2 ^ q` with `m ≠ 0`, the fewest that read back. -/
def shortest (m : Nat) (q : Int) : Digits :=
  let i := Interval.of m q
  i.search i.magnitude 20 0

/-- Removes trailing zeros; `fuel` is at least their number. -/
def dropZeros : Nat → Digits → Digits
  | 0, d => d
  | fuel + 1, d => if d.n % 10 = 0 && d.n ≠ 0 then dropZeros fuel ⟨d.n / 10, d.p + 1⟩ else d

/-- The digits without trailing zeros. -/
def Digits.trim (d : Digits) : Digits := dropZeros 20 d

end HttpProbe.Decimal
