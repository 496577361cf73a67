/-
**The meaning of a scalar.**

A plain scalar may mean nothing, a truth value or a number; any other means its text.  A tag may ask
for one of these meanings.  Integers may have a sign and be written with the digits of other bases;
digits after a leading zero are no number.

Main definitions:

* `Yaml.Meaning`;
* `Yaml.unsigned?`, `Yaml.negative?`, `Yaml.float?`, `Yaml.bool?`, `Yaml.isNull` — the forms;
* `Yaml.meaning?` — the meaning of a scalar.
-/

import HttpProbe.Decimal.Reading
import HttpProbe.Text.Search
import HttpProbe.Yaml.Token

set_option autoImplicit false
set_option relaxedAutoImplicit false

namespace HttpProbe.Yaml

-- Powers are those of the core library, also where Mathlib is in scope.
attribute [local instance (1100)] instPowNat

/-- What a scalar means. -/
inductive Meaning where
  | null
  | bool (b : Bool)
  | int (n : Int)
  | float (x : Float)
  | text (s : String)

/-! ### Forms -/

/-- Words for nothing. -/
def isNull (s : String) : Bool := s = "null" || s = "Null" || s = "NULL" || s = "~"

/-- Words for truth values. -/
def bool? (s : String) : Option Bool :=
  if s = "true" || s = "True" || s = "TRUE" then some true
  else if s = "false" || s = "False" || s = "FALSE" then some false
  else none

/-- Digits after a leading zero, perhaps with a sign. -/
def isPadded (cs : List Char) : Bool :=
  match (Decimal.splitSign cs).2 with
  | '0' :: d :: rest => (d :: rest).all Decimal.isDigit
  | _ => false

/-- The bases other than ten, with the letters that show them. -/
def bases : List (Char × Nat) := [('x', 16), ('o', 8), ('b', 2)]

/-- A natural number with the mark of a base, not above a limit. -/
def based? (limit : Nat) (cs : List Char) : Option Nat :=
  match cs with
  | '0' :: letter :: digits =>
    match bases.lookup letter with
    | none => none
    | some base => (Decimal.readNat? base digits).filter (· ≤ limit)
  | _ => none

/-- A natural number in decimal digits, not above a limit. -/
def decimal? (limit : Nat) (cs : List Char) : Option Nat :=
  (Decimal.readNat? 10 cs).filter (· ≤ limit)

/-- A natural number, perhaps with a plus sign. -/
def unsigned? (limit : Nat) (cs : List Char) : Option Nat :=
  let body := match cs with
    | '+' :: rest => rest
    | _ => cs
  match based? limit body with
  | some n => some n
  | none => if isPadded cs then none else decimal? limit body

/-- The opposite of a natural number after a minus sign. -/
def negative? (limit : Nat) (cs : List Char) : Option Int :=
  match cs with
  | '-' :: body =>
    match based? limit body with
    | some n => some (-n)
    | none => if isPadded cs then none else (decimal? limit body).map fun n => -n
  | _ => none

/-- The bounds of integers of a number of bits: the greatest one, and the opposite of the least one. -/
def bounds (bits : Nat) : Nat × Nat := (2 ^ bits - 1, 2 ^ (bits - 1))

/-- An integer of at most a number of bits, with or without a sign. -/
def int? (bits : Nat) (cs : List Char) : Option Int :=
  match unsigned? (bounds bits).1 cs with
  | some n => some n
  | none => negative? (bounds bits).2 cs

/-- A number of double precision: a decimal that is not too great, or a word after a point. -/
def float? (cs : List Char) : Option Float :=
  let (plus, body) := match cs with
    | '+' :: rest => (true, rest)
    | _ => (false, cs)
  let word := String.ofList body
  let whole := String.ofList cs
  if plus && (body.head? = some '+' || body.head? = some '-') then none
  else if word = ".inf" || word = ".Inf" || word = ".INF" then
    some (Float.ofBits 0x7FF0000000000000)
  else if whole = "-.inf" || whole = "-.Inf" || whole = "-.INF" then
    some (Float.ofBits 0xFFF0000000000000)
  else if whole = ".nan" || whole = ".NaN" || whole = ".NAN" then
    some (Float.ofBits 0x7FF8000000000000)
  else (Decimal.readFloat? body).filter Float.isFinite

/-! ### Tags -/

/-- The tag of a type that every reader knows. -/
def coreTag (name : String) : String := "tag:yaml.org,2002:" ++ name

/-- A tag of the document's own. -/
def isOwnTag (tag : String) : Bool := Text.startsWith tag "!"

/-- An integer of at most 128 bits; one of more than 64 bits cannot be held. -/
inductive Width where
  | fits (n : Int)
  | wide
  deriving DecidableEq, Repr

/-- Reads an integer of at most 128 bits. -/
def width? (cs : List Char) : Option Width :=
  match int? 64 cs with
  | some n => some (.fits n)
  | none => (int? 128 cs).map fun _ => .wide

/-- The meaning of a plain scalar without a tag; `none` for an integer that cannot be held. -/
def plainMeaning? (s : String) : Option Meaning :=
  let cs := s.toList
  if s = "" || isNull s then some .null
  else
    match bool? s with
    | some b => some (.bool b)
    | none =>
      match width? cs with
      | some (.fits n) => some (.int n)
      | some .wide => none
      | none =>
        if isPadded cs then some (.text s)
        else
          match float? cs with
          | some x => some (.float x)
          | none => some (.text s)

/-- The meaning that a tag asks for; `none` if the scalar cannot have it. -/
def taggedMeaning? (tag s : String) : Option Meaning :=
  if isOwnTag tag then none
  else if tag = coreTag "bool" then (bool? s).map .bool
  else if tag = coreTag "int" then
    match width? s.toList with
    | some (.fits n) => some (.int n)
    | _ => none
  else if tag = coreTag "float" then (float? s.toList).map .float
  else if tag = coreTag "null" then if isNull s then some .null else none
  else some (.text s)

/-- The meaning of a scalar. -/
def meaning? (tag : Option String) (s : String) (style : Style) : Option Meaning :=
  match tag with
  | some t => taggedMeaning? t s
  | none => if style = .plain then plainMeaning? s else some (.text s)

end HttpProbe.Yaml
