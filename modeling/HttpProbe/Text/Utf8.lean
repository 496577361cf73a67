/-
**Octets of a text.**

Bodies and header values are octets; the engine reads them as UTF-8.  Reading never fails: each
longest run of octets that starts like a character and is then broken off counts as one character
`U+FFFD`.  The reader is a machine that takes one octet at a time and remembers how many octets
the character it is in still owes, and between which bounds the next one must lie.

Main definitions:

* `Text.encode` — the octets of a list of characters;
* `Text.decode` — the characters of a list of octets, with `U+FFFD` for what is not UTF-8;
* `Text.decode?` — the characters of a list of octets that is UTF-8.
-/

set_option autoImplicit false
set_option relaxedAutoImplicit false

namespace HttpProbe.Text

/-- The octets of a list of characters. -/
def encode (cs : List Char) : List UInt8 := cs.flatMap String.utf8EncodeChar

/-- The octets of a text. -/
def octets (s : String) : List UInt8 := encode s.toList

/-- The character that stands for octets which are no character. -/
def replacement : Char := Char.ofNat 0xFFFD

/-- Where the reader stands: how many octets the current character still owes, the bounds of the
next one, and the bits read so far. -/
structure Pending where
  owed : Nat
  low : UInt8
  high : UInt8
  bits : Nat
  deriving DecidableEq, Repr

/-- The state between two characters. -/
def Pending.none : Pending := ⟨0, 0x80, 0xBF, 0⟩

/-- The state after the first octet of a character of several octets. -/
def Pending.lead? (b : UInt8) : Option Pending :=
  if 0xC2 ≤ b && b ≤ 0xDF then some ⟨1, 0x80, 0xBF, b.toNat - 0xC0⟩
  else if b == 0xE0 then some ⟨2, 0xA0, 0xBF, 0⟩
  else if b == 0xED then some ⟨2, 0x80, 0x9F, 0xD⟩
  else if 0xE1 ≤ b && b ≤ 0xEF then some ⟨2, 0x80, 0xBF, b.toNat - 0xE0⟩
  else if b == 0xF0 then some ⟨3, 0x90, 0xBF, 0⟩
  else if 0xF1 ≤ b && b ≤ 0xF3 then some ⟨3, 0x80, 0xBF, b.toNat - 0xF0⟩
  else if b == 0xF4 then some ⟨3, 0x80, 0x8F, 4⟩
  else Option.none

/-- Reading an octet between two characters; `out` holds what was read, last character first. -/
def readLead (b : UInt8) (out : List Char) : Pending × List Char :=
  if b < 0x80 then (Pending.none, Char.ofNat b.toNat :: out)
  else match Pending.lead? b with
    | some p => (p, out)
    | none => (Pending.none, replacement :: out)

/-- Reading one octet. -/
def readOctet (p : Pending) (out : List Char) (b : UInt8) : Pending × List Char :=
  match p.owed with
  | 0 => readLead b out
  | owed + 1 =>
    if p.low ≤ b && b ≤ p.high then
      let bits := p.bits * 64 + (b.toNat - 0x80)
      if owed = 0 then (Pending.none, Char.ofNat bits :: out)
      else (⟨owed, 0x80, 0xBF, bits⟩, out)
    else readLead b (replacement :: out)

/-- Reading the octets that are left, from the state `p`. -/
def readOctets : Pending → List Char → List UInt8 → List Char
  | p, out, [] => (if p.owed = 0 then out else replacement :: out).reverse
  | p, out, b :: rest =>
    let next := readOctet p out b
    readOctets next.1 next.2 rest

/-- The characters of a list of octets; what is not UTF-8 becomes `U+FFFD`. -/
def decode (bs : List UInt8) : List Char := readOctets Pending.none [] bs

/-- The text of a list of octets; what is not UTF-8 becomes `U+FFFD`. -/
def lossy (bs : List UInt8) : String := String.ofList (decode bs)

/-- The characters of a list of octets that is the encoding of some. -/
def decode? (bs : List UInt8) : Option (List Char) :=
  let cs := decode bs
  if encode cs = bs then some cs else none

end HttpProbe.Text
