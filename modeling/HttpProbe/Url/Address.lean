/-
**Addresses of hosts.**

A host whose last label is a number has to be an address of four octets.  The parts of such an
address are decimal, octal after `0` or hexadecimal after `0x`, and the last part fills all octets
that are left.  An address between brackets has eight pieces of sixteen bits, of which one run of
zeros may be left out and the last two may be written as four octets.

Main definitions:

* `Url.endsInNumber`, `Url.ipv4?` — addresses of four octets;
* `Url.ipv6?` — addresses of eight pieces;
* `Url.ipv4Text`, `Url.ipv6Text` — their written forms.
-/

import HttpProbe.Decimal.Reading
import HttpProbe.Decimal.Layout
import HttpProbe.Text.Search

set_option autoImplicit false
set_option relaxedAutoImplicit false

namespace HttpProbe.Url

-- Powers are those of the core library, also where Mathlib is in scope.  A literal exponent needs its
-- type for that.
attribute [local instance (1100)] instPowNat

/-! ### Four octets -/

/-- A part of an address of four octets; a number that is far too large counts as the largest. -/
def ipv4Part? (cs : List Char) : Option Nat :=
  match cs with
  | [] => none
  | '0' :: c :: rest =>
    if c = 'x' || c = 'X' then (if rest.isEmpty then some 0 else Decimal.readNat? 16 rest)
    else Decimal.readNat? 8 (c :: rest)
  | _ => Decimal.readNat? 10 cs

/-- The parts between the dots, without an empty one at the end. -/
def ipv4Parts (cs : List Char) : List (List Char) :=
  let parts := Text.splitChars (· = '.') cs
  match parts.getLast? with
  | some [] => parts.dropLast
  | _ => parts

/-- Is the last part of a name a number, or one with digits only? -/
def endsInNumber (cs : List Char) : Bool :=
  match (ipv4Parts cs).getLast? with
  | none => false
  | some part => (!part.isEmpty && part.all Decimal.isDigit) || (ipv4Part? part).isSome

/-- The number that the parts of an address make up: each but the last is an octet. -/
def joinParts : Nat → List Nat → Option Nat
  | _, [] => none
  | places, [n] => if n < 256 ^ places then some n else none
  | places, n :: rest =>
    if 255 < n then none else (joinParts (places - 1) rest).map (n * 256 ^ (places - 1) + ·)

/-- The address with this text. -/
def ipv4? (cs : List Char) : Option Nat :=
  let parts := (ipv4Parts cs).map ipv4Part?
  if 4 < parts.length || parts.any Option.isNone then none
  else joinParts 4 (parts.filterMap id)

/-- The text of an address of four octets. -/
def ipv4Text (n : Nat) : List Char :=
  List.intercalate ['.'] ([n / 2 ^ (24 : Nat), n / 2 ^ (16 : Nat) % 256, n / 2 ^ (8 : Nat) % 256,
    n % 256].map Decimal.natText)

/-! ### Eight pieces -/

/-- An octet in decimal digits without a leading zero, and what follows. -/
def readOctet? (cs : List Char) : Option (Nat × List Char) :=
  let digits := cs.takeWhile Decimal.isDigit
  match digits with
  | [] => none
  | c :: more =>
    let n := Decimal.natOfDigits 10 digits
    if (c = '0' && !more.isEmpty) || 255 < n then none
    else some (n, cs.drop digits.length)

/-- Four octets with dots between them, and nothing after them. -/
def readOctets : Nat → List Char → Option (List Nat)
  | 0, cs => if cs.isEmpty then some [] else none
  | left + 1, cs =>
    match readOctet? cs with
    | none => none
    | some (n, rest) =>
      match left, rest with
      | 0, rest => (readOctets 0 rest).map (n :: ·)
      | left, '.' :: rest => (readOctets left rest).map (n :: ·)
      | _, _ => none

/-- The two pieces that four octets make up. -/
def octetPieces? (cs : List Char) : Option (List Nat) :=
  match readOctets 4 cs with
  | some [a, b, c, d] => some [a * 256 + b, c * 256 + d]
  | _ => none

/-- The pieces of an address from left to right, last one first, and how many pieces stood before
the run that is left out. -/
def readPieces : Nat → List Char → List Nat → Option Nat → Option (List Nat × Option Nat)
  | 0, _, _, _ => none
  | _ + 1, [], out, gap => some (out, gap)
  | fuel + 1, cs, out, gap =>
    if 8 ≤ out.length + (if gap.isSome then 1 else 0) then none
    else
      match cs with
      | ':' :: rest => if gap.isSome then none else readPieces fuel rest out (some out.length)
      | cs =>
        let digits := (cs.take 4).takeWhile (Decimal.isDigitOf 16)
        let rest := cs.drop digits.length
        match rest with
        | [] => readPieces fuel [] (Decimal.natOfDigits 16 digits :: out) gap
        | ':' :: [] => none
        | ':' :: rest => readPieces fuel rest (Decimal.natOfDigits 16 digits :: out) gap
        | '.' :: _ =>
          if digits.isEmpty || 6 < out.length + (if gap.isSome then 1 else 0) then none
          else (octetPieces? cs).map fun ps => (ps.reverse ++ out, gap)
        | _ => none

/-- The address with this text, brackets taken off. -/
def ipv6? (cs : List Char) : Option (List Nat) :=
  let start := match cs with
    | ':' :: ':' :: rest => some (rest, some 0)
    | ':' :: _ => none
    | _ => some (cs, none)
  match start with
  | none => none
  | some (rest, gap) =>
    if cs.length < 2 then none
    else match readPieces (cs.length + 1) rest [] gap with
      | none => none
      | some (out, none) => if out.length = 8 then some out.reverse else none
      | some (out, some g) =>
        let pieces := out.reverse
        if 7 < pieces.length then none
        else some (pieces.take g ++ List.replicate (8 - pieces.length) 0 ++ pieces.drop g)

/-- The longest run of zeros, the first of several: where it starts and how long it is.  `run` is the
run that ends at the place `i`. -/
def longestZeros : Nat → Nat → Nat × Nat → List Nat → Nat × Nat
  | _, _, best, [] => best
  | i, run, best, n :: rest =>
    if n = 0 then
      let run := run + 1
      longestZeros (i + 1) run (if best.2 < run then (i + 1 - run, run) else best) rest
    else longestZeros (i + 1) 0 best rest

/-- Pieces with colons between them. -/
def piecesText (ns : List Nat) : List Char :=
  List.intercalate [':'] (ns.map (Nat.toDigits 16))

/-- The text of an address of eight pieces; the longest run of two zeros or more is left out. -/
def ipv6Text (ns : List Nat) : List Char :=
  let (start, len) := longestZeros 0 0 (0, 0) ns
  if len < 2 then piecesText ns
  else piecesText (ns.take start) ++ [':', ':'] ++ piecesText (ns.drop (start + len))

end HttpProbe.Url
