/-
**Punycode.**

A label with characters beyond ASCII is written in letters, digits and hyphens: first its characters
of ASCII and a hyphen, then for each other character, in the order of code points, how far one has
to count to arrive at it.  The counts are numbers with digits of varying weight, which adapts to the
counts so far.

Main definitions:

* `Punycode.adapt` — the weight after a count;
* `Punycode.encode` — the written form of a label;
* `Punycode.decode?` — the label with a written form.
-/

set_option autoImplicit false
set_option relaxedAutoImplicit false

namespace HttpProbe.Url.Punycode

/-! ### Weights -/

/-- Divides until the rest is small; `k` counts the divisions. -/
def reduce : Nat → Nat → Nat → Nat
  | 0, delta, k => k + 36 * delta / (delta + 38)
  | fuel + 1, delta, k =>
    if 455 < delta then reduce fuel (delta / 35) (k + 36) else k + 36 * delta / (delta + 38)

/-- The weight after a count. -/
def adapt (delta points : Nat) (isFirst : Bool) : Nat :=
  let delta := if isFirst then delta / 700 else delta / 2
  reduce 16 (delta + delta / points) 0

/-- The digit from which on a number goes on, at place `k`. -/
def threshold (k bias : Nat) : Nat := if k ≤ bias then 1 else min 26 (k - bias)

/-! ### Writing -/

/-- The digits `a` to `z` and `0` to `9`. -/
def digit (n : Nat) : Char := Char.ofNat (if n < 26 then 97 + n else 22 + n)

/-- A number written with a weight. -/
def number : Nat → Nat → Nat → Nat → List Char
  | 0, _, _, _ => []
  | fuel + 1, bias, k, q =>
    let t := threshold k bias
    if q < t then [digit q]
    else digit (t + (q - t) % (36 - t)) :: number fuel bias (k + 36) ((q - t) / (36 - t))

/-- Where writing stands: the count in hand, the weight, how many characters are written, and the
text so far. -/
structure Writing where
  delta : Nat
  bias : Nat
  written : Nat
  out : List Char

/-- Passes one character of the label while the code point `n` is written. -/
def Writing.pass (basic n : Nat) (w : Writing) (c : Nat) : Writing :=
  if c < n then { w with delta := w.delta + 1 }
  else if c = n then
    { delta := 0,
      bias := adapt w.delta (w.written + 1) (w.written == basic),
      written := w.written + 1,
      out := w.out ++ number 16 w.bias 36 w.delta }
  else w

/-- Writes the code points from `n` on, the least first. -/
def writeFrom (label : List Nat) (basic : Nat) : Nat → Nat → Writing → Writing
  | 0, _, w => w
  | fuel + 1, n, w =>
    match (label.filter (n ≤ ·)).min? with
    | none => w
    | some m =>
      let w := { w with delta := w.delta + (m - n) * (w.written + 1) }
      let w := label.foldl (Writing.pass basic m) w
      writeFrom label basic fuel (m + 1) { w with delta := w.delta + 1 }

/-- The written form of a label. -/
def encode (label : List Nat) : List Char :=
  let basic := label.filter (· < 128)
  let start := basic.map Char.ofNat ++ (if basic.isEmpty then [] else ['-'])
  (writeFrom label basic.length label.length 128 ⟨0, 72, basic.length, start⟩).out

/-! ### Reading -/

/-- The value of a digit. -/
def digitValue? (c : Char) : Option Nat :=
  let n := c.toNat
  if 97 ≤ n && n ≤ 122 then some (n - 97)
  else if 48 ≤ n && n ≤ 57 then some (n - 22)
  else none

/-- Where reading stands: the code point, the count, the count before the number in hand, the weight,
the value of the next digit, its place, and the label so far. -/
structure Progress where
  n : Nat
  i : Nat
  before : Nat
  bias : Nat
  w : Nat
  k : Nat
  label : List Nat

/-- One digit. -/
def Progress.step (p : Progress) (c : Char) : Option Progress :=
  match digitValue? c with
  | none => none
  | some d =>
    let i := p.i + d * p.w
    let t := threshold p.k p.bias
    if d < t then
      let points := p.label.length + 1
      let n := p.n + i / points
      let at' := i % points
      if n.isValidChar then
        some ⟨n, at' + 1, at' + 1, adapt (i - p.before) points (p.before == 0), 1, 36,
          p.label.take at' ++ n :: p.label.drop at'⟩
      else none
    else some { p with i := i, w := p.w * (36 - t), k := p.k + 36 }

/-- All digits. -/
def readDigits : List Char → Progress → Option (List Nat)
  | [], p => if p.k = 36 then some p.label else none
  | c :: cs, p => (p.step c).bind (readDigits cs)

/-- The label with a written form. -/
def decode? (cs : List Char) : Option (List Nat) :=
  let digits := (cs.reverse.takeWhile (· != '-')).reverse
  let basic := cs.take (cs.length - digits.length - 1)
  if digits.length < cs.length && basic.isEmpty then none
  else readDigits digits ⟨128, 0, 0, 72, 1, 36, basic.map Char.toNat⟩

end HttpProbe.Url.Punycode
