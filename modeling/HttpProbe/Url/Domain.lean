/-
**Names of hosts.**

A name of a host consists of labels with dots between them.  It is compared in folded compatibility
form, with every kind of full stop taken for a dot; a label beyond ASCII is then written in punycode
after `xn--`.  Not every text is a name: characters that show nothing or look like a part of the URL
are refused, marks may not come first, joiners need letters to join, and labels written from right
to left have to keep to the rules of direction.

Main definitions:

* `Domain.mapped?` — the form in which a name is compared;
* `Domain.isLabel` — the conditions on a label;
* `Domain.toAscii?` — the written form of a name.
-/

import HttpProbe.Unicode.Composition
import HttpProbe.Unicode.Direction
import HttpProbe.Unicode.Category
import HttpProbe.Url.Punycode

set_option autoImplicit false
set_option relaxedAutoImplicit false

namespace HttpProbe.Url.Domain

open HttpProbe.Unicode

/-! ### The form in which names are compared -/

/-- Characters that show nothing and may be left out. -/
def ignorable : CodeSet :=
  CodeSet.ofText "ad 34f 180b-180d 180f 200b 2060 2064 fe00-fe0f feff 1bca0-1bca3 e0100-e01ef"

/-- Full stops that count as dots. -/
def fullStops : List Nat := [0x3002, 0xFF61]

/-- Characters that stay although their folded form is another. -/
def kept : List Nat := [0xDF, 0x3C2, 0x200C, 0x200D]

/-- The image of a character in the form in which names are compared. -/
def image? (n : Nat) : Option (List Nat) :=
  if n < 128 then some [if 65 ≤ n && n ≤ 90 then n + 32 else n]
  else if fullStops.contains n then some [0x2E]
  else if kept.contains n then some [n]
  else if n = 0x1E9E then some [0xDF]
  else match folded n with
    | [] => if ignorable.contains n then some [] else none
    | image => some image

/-- Characters that no name holds, apart from those without a place of their own. -/
def excluded : CodeSet := CodeSet.ofText "2ff0-2fff fffc-fffd"

/-- May the character stand in a name? -/
def isAllowed (n : Nat) : Bool :=
  n < 128 || kept.contains n ||
    !(excluded.contains n || ((category? "c").getD []).contains n ||
      ((category? "z").getD []).contains n)

/-- The images of several characters. -/
def images? : List Nat → Option (List Nat)
  | [] => some []
  | n :: ns =>
    match image? n, images? ns with
    | some a, some b => some (a ++ b)
    | _, _ => none

/-- The form in which a name is compared. -/
def mapped? (ns : List Nat) : Option (List Nat) :=
  match images? ns with
  | some out => if out.all isAllowed then some (composed out) else none
  | none => none

/-! ### Labels -/

/-- Characters of ASCII that no name holds: controls, the space and the marks of a URL. -/
def isDenied (n : Nat) : Bool :=
  n ≤ 0x20 || n = 0x7F || ("%#/:<>?@[\\]^|".toList.map Char.toNat).contains n

/-- Can letters join across the place between two runs of characters?  Nearest characters first. -/
def joins (before after : List Nat) : Bool :=
  let left := (before.dropWhile fun n => joining n == "T").head?
  let right := (after.dropWhile fun n => joining n == "T").head?
  (left.any fun n => joining n == "L" || joining n == "D") &&
    (right.any fun n => joining n == "R" || joining n == "D")

/-- Does every joiner have something to join?  `before` has the nearest character first. -/
def joinersFit (before : List Nat) : List Nat → Bool
  | [] => true
  | n :: rest =>
    let afterVirama := before.head?.any fun m => combiningClass m == 9
    let fits :=
      if n = 0x200D then afterVirama
      else if n = 0x200C then afterVirama || joins before rest
      else true
    fits && joinersFit (n :: before) rest

/-- The conditions on a label beyond ASCII. -/
def isLabel (ns : List Nat) : Bool :=
  !(ns.head?.any fun n => ((category? "m").getD []).contains n) && joinersFit [] ns

/-- The classes of direction that end a label. -/
def endsWell (ends : List String) (classes : List String) : Bool :=
  (classes.reverse.dropWhile (· == "NSM")).head?.any ends.contains

/-- The rules of direction for a label. -/
def keepsDirection (ns : List Nat) : Bool :=
  let classes := ns.map direction
  let neutral := ["EN", "ES", "CS", "ET", "ON", "BN", "NSM"]
  match classes.head? with
  | none => true
  | some first =>
    if first == "R" || first == "AL" then
      classes.all (fun c => (["R", "AL", "AN"] ++ neutral).contains c) &&
        endsWell ["R", "AL", "EN", "AN"] classes &&
        !(classes.contains "EN" && classes.contains "AN")
    else if first == "L" then
      classes.all (fun c => ("L" :: neutral).contains c) && endsWell ["L", "EN"] classes
    else false

/-- Is the character written from right to left? -/
def isRightToLeft (n : Nat) : Bool :=
  let c := direction n
  c == "R" || c == "AL" || c == "AN"

/-! ### Names -/

/-- The labels between the dots. -/
def labels (ns : List Nat) : List (List Nat) :=
  ns.foldr (fun n acc =>
    if n = 0x2E then [] :: acc
    else match acc with
      | l :: ls => (n :: l) :: ls
      | [] => [[n]]) [[]]

/-- The code points of `xn--`. -/
def mark : List Nat := [0x78, 0x6E, 0x2D, 0x2D]

/-- A label, with what it stands for if it is written in punycode. -/
def read? (label : List Nat) : Option (List Nat) :=
  if mark.isPrefixOf label then
    if label.all (· < 128) then
      match Punycode.decode? ((label.drop 4).map Char.ofNat) with
      | some ns =>
        if ns.any (128 ≤ ·) && mapped? ns = some ns && isLabel ns then some ns else none
      | none => none
    else none
  else if label.all (· < 128) then some label
  else if isLabel label then some label
  else none

/-- The written form of a label. -/
def write (label : List Nat) : List Char :=
  if label.all (· < 128) then label.map Char.ofNat
  else mark.map Char.ofNat ++ Punycode.encode label

/-- All elements, if there are all. -/
def allSome {α : Type} : List (Option α) → Option (List α)
  | [] => some []
  | some a :: rest => (allSome rest).map (a :: ·)
  | none :: _ => none

/-- The written form of a name. -/
def toAscii? (cs : List Char) : Option (List Char) :=
  match mapped? (cs.map Char.toNat) with
  | none => none
  | some ns =>
    if ns.any isDenied then none
    else match allSome ((labels ns).map read?) with
      | none => none
      | some ls =>
        if ls.any (fun l => l.any isRightToLeft) && !ls.all keepsDirection then none
        else some (List.intercalate ['.'] ((labels ns).map write))

end HttpProbe.Url.Domain
