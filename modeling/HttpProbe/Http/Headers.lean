/-
**Headers of a message.**

Headers keep the names in the order in which they first appeared, and with each name its values in
the order in which they were added.  A name is a token in small letters; a value is made of octets
without controls other than the tab.

Main definitions:

* `Http.Headers` — names with their values, each name once;
* `Headers.append` — one more value;
* `Headers.values`, `Headers.entries` — the values of a name, and all headers in order;
* `Http.headerName?`, `Http.headerValue?`, `Http.method?` — the parts of a request that are tokens.
-/

import HttpProbe.Text.Blank
import HttpProbe.Text.Case
import HttpProbe.Text.Search
import HttpProbe.Text.Utf8

set_option autoImplicit false
set_option relaxedAutoImplicit false

namespace HttpProbe.Http

/-- The octets of a body or of the value of a header. -/
abbrev Octets := List UInt8

/-- Adds a value to the group of a name, or opens a group for it at the end. -/
def addTo (name : String) (value : Octets) :
    List (String × List Octets) → List (String × List Octets)
  | [] => [(name, [value])]
  | (n, vs) :: rest =>
    if n = name then (n, vs ++ [value]) :: rest else (n, vs) :: addTo name value rest

theorem mem_map_fst_addTo {name : String} {value : Octets} {m : String}
    {groups : List (String × List Octets)} :
    m ∈ (addTo name value groups).map Prod.fst ↔ m = name ∨ m ∈ groups.map Prod.fst := by
  induction groups with
  | nil => simp [addTo]
  | cons g rest ih =>
    by_cases h : g.1 = name
    · simp [addTo, h]
    · simp only [addTo, h, if_false, List.map_cons, List.mem_cons, ih]
      exact or_left_comm

theorem nodup_addTo {name : String} {value : Octets} {groups : List (String × List Octets)}
    (h : (groups.map Prod.fst).Nodup) : ((addTo name value groups).map Prod.fst).Nodup := by
  induction groups with
  | nil => simp [addTo]
  | cons g rest ih =>
    simp only [List.map_cons, List.nodup_cons] at h
    by_cases hg : g.1 = name
    · simp only [addTo, hg, if_true, List.map_cons, List.nodup_cons]
      exact hg ▸ h
    · simp only [addTo, hg, if_false, List.map_cons, List.nodup_cons]
      refine ⟨fun hm => ?_, ih h.2⟩
      rcases mem_map_fst_addTo.1 hm with he | hm
      · exact hg he
      · exact h.1 hm

/-- Names with their values, each name once. -/
structure Headers where
  groups : List (String × List Octets)
  nodup : (groups.map Prod.fst).Nodup

namespace Headers

@[ext] theorem ext' {a b : Headers} (h : a.groups = b.groups) : a = b := by
  cases a; cases b; cases h; rfl

instance : DecidableEq Headers := fun a b =>
  if h : a.groups = b.groups then isTrue (ext' h) else isFalse fun he => h (he ▸ rfl)

/-- No headers. -/
def empty : Headers := ⟨[], by simp⟩

/-- One more value of a name. -/
def append (h : Headers) (name : String) (value : Octets) : Headers :=
  ⟨addTo name value h.groups, nodup_addTo h.nodup⟩

/-- The headers of a list, added one by one. -/
def ofList (l : List (String × Octets)) : Headers :=
  l.foldl (fun h p => h.append p.1 p.2) empty

/-- The names, in order of first appearance. -/
def names (h : Headers) : List String := h.groups.map Prod.fst

/-- The values of a name, in the order in which they were added. -/
def values (h : Headers) (name : String) : List Octets := (h.groups.lookup name).getD []

/-- All headers: the values of one name stand together. -/
def entries (h : Headers) : List (String × Octets) :=
  h.groups.flatMap fun g => g.2.map fun v => (g.1, v)

/-- The first value of a name. -/
def first? (h : Headers) (name : String) : Option Octets := (h.values name).head?

end Headers

/-! ### Tokens -/

/-- A character of a token. -/
def isTokenChar (c : Char) : Bool :=
  c.isAlphanum || "!#$%&'*+-.^_|~".toList.contains c || c.toNat = 0x60

/-- The most octets that the name of a header may have. -/
def nameLimit : Nat := 65535

/-- The name of a header: a token, blanks at its ends left out, in small letters. -/
def headerName? (s : String) : Option String :=
  let cs := Text.trimChars s.toList
  if cs.isEmpty || nameLimit < cs.length || !cs.all isTokenChar then none
  else some (String.ofList (cs.map Text.asciiLowerChar))

/-- An octet that the value of a header may hold. -/
def isValueOctet (b : UInt8) : Bool := (0x20 ≤ b && b != 0x7F) || b = 9

/-- The value of a header. -/
def headerValue? (s : String) : Option Octets :=
  let bs := Text.octets s
  if bs.all isValueOctet then some bs else none

/-- The method written in a text: a token in capitals; blanks stand for `GET`. -/
def method? (s : String) : Option String :=
  let cs := (Text.trimChars s.toList).map Text.asciiUpperChar
  if cs.isEmpty then some "GET"
  else if cs.all isTokenChar then some (String.ofList cs)
  else none

end HttpProbe.Http
