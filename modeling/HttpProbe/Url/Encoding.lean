/-
**Percent encoding.**

In a URL an octet can be written as a percent sign and two hexadecimal digits.  What lies outside
ASCII always is; which characters of ASCII are depends on the part of the URL.

Main definitions:

* `Url.EncodeSet` — the characters of ASCII that are encoded in a part of a URL;
* `Url.percentEncode` — the text of a part;
* `Url.percentDecode` — the octets that a text stands for.
-/

import HttpProbe.Text.Utf8
import HttpProbe.Unicode.CodeSet

set_option autoImplicit false
set_option relaxedAutoImplicit false

namespace HttpProbe.Url

/-- The printing characters of ASCII that are encoded in a part of a URL. -/
abbrev EncodeSet := List Char

/-- Nothing but the controls. -/
def controlSet : EncodeSet := []

/-- Fragments: also the space, quotes, angle brackets and the grave accent. -/
def fragmentSet : EncodeSet := [' ', Char.ofNat 0x22, '<', '>', Char.ofNat 0x60]

/-- Queries: also the number sign, but not the grave accent. -/
def querySet : EncodeSet := [' ', Char.ofNat 0x22, '#', '<', '>']

/-- Queries where the scheme is a special one: also the apostrophe. -/
def specialQuerySet : EncodeSet := Char.ofNat 0x27 :: querySet

/-- Paths: what fragments encode, and the marks that would end the path or stand in a template. -/
def pathSet : EncodeSet := fragmentSet ++ ['#', '?', Char.ofNat 0x7B, Char.ofNat 0x7D]

/-- Names and passwords: also the marks that have a meaning in front of a host. -/
def userSet : EncodeSet :=
  pathSet ++ ['/', ':', ';', '=', '@', '[', Char.ofNat 0x5C, ']', '^', '|']

/-- A hexadecimal digit, in upper case. -/
def upperHex (n : Nat) : Char := Char.ofNat (if n < 10 then 48 + n else 55 + n)

/-- An octet as a percent sign and two digits. -/
def encodeOctet (b : UInt8) : List Char :=
  ['%', upperHex (b.toNat / 16), upperHex (b.toNat % 16)]

/-- Is the character encoded? -/
def isEncoded (set : EncodeSet) (c : Char) : Bool :=
  c.toNat < 0x20 || 0x7E < c.toNat || set.contains c

/-- A character as it stands in a part of a URL. -/
def encodeChar (set : EncodeSet) (c : Char) : List Char :=
  if isEncoded set c then (Text.encode [c]).flatMap encodeOctet else [c]

/-- The text of a part of a URL. -/
def percentEncode (set : EncodeSet) (cs : List Char) : List Char := cs.flatMap (encodeChar set)

/-- The value of a hexadecimal digit among octets. -/
def hexOctet? (b : UInt8) : Option Nat := Unicode.CodeSet.hexDigit? (Char.ofNat b.toNat)

/-- The octets that a text stands for; a percent sign without two digits stands for itself. -/
def percentDecode : List UInt8 → List UInt8
  | 0x25 :: a :: b :: rest =>
    match hexOctet? a, hexOctet? b with
    | some x, some y => UInt8.ofNat (x * 16 + y) :: percentDecode rest
    | _, _ => 0x25 :: percentDecode (a :: b :: rest)
  | b :: rest => b :: percentDecode rest
  | [] => []

end HttpProbe.Url
