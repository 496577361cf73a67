/-
**Patterns of names.**

A pattern is a list of parts, one for each step of a path.  In a part `?` stands for any character,
`*` for any characters, and brackets for one character of a set, or outside of it.  The part `**`
stands for any number of folders.

Main definitions:

* `Folder.Token`, `Folder.Part` — the parts of a pattern;
* `Folder.matchesName` — does a name fit?
* `Folder.tokens?`, `Folder.parts?` — reading patterns.
-/

set_option autoImplicit false
set_option relaxedAutoImplicit false

namespace HttpProbe.Folder

/-! ### Matching -/

/-- A piece of the pattern of a name. -/
inductive Token where
  | char (c : Char)
  | any
  | run
  | within (ranges : List (Char × Char))
  | outside (ranges : List (Char × Char))
  deriving DecidableEq, Repr

/-- Does the character lie in one of the ranges? -/
def inRanges (ranges : List (Char × Char)) (c : Char) : Bool :=
  ranges.any fun r => r.1 ≤ c && c ≤ r.2

/-- Does a token stand for the character? -/
def Token.accepts : Token → Char → Bool
  | .char d, c => d = c
  | .any, _ => true
  | .run, _ => true
  | .within ranges, c => inRanges ranges c
  | .outside ranges, c => !inRanges ranges c

/-- What may be left of a text after a run of any characters. -/
def leftovers : List Char → List (List Char)
  | [] => [[]]
  | c :: cs => (c :: cs) :: leftovers cs

/-- Do the characters fit the tokens? -/
def matchesChars : List Token → List Char → Bool
  | [], cs => cs.isEmpty
  | .run :: ts, cs => (leftovers cs).any (matchesChars ts)
  | _ :: _, [] => false
  | t :: ts, c :: cs => t.accepts c && matchesChars ts cs

/-- Does the name fit the tokens? -/
def matchesName (ts : List Token) (name : String) : Bool := matchesChars ts name.toList

/-- The character that a token stands for, if it stands for one alone. -/
def Token.char? : Token → Option Char
  | .char c => some c
  | _ => none

/-- The name that tokens stand for, if they stand for one alone. -/
def literal? (ts : List Token) : Option String := (ts.mapM Token.char?).map String.ofList

/-! ### Reading -/

/-- The opening bracket. -/
def openBracket : Char := Char.ofNat 91

/-- The closing bracket. -/
def closeBracket : Char := Char.ofNat 93

/-- The ranges written between brackets; a single character is a range of its own. -/
def ranges : List Char → List (Char × Char)
  | a :: '-' :: b :: rest => (a, b) :: ranges rest
  | a :: rest => (a, a) :: ranges rest
  | [] => []

/-- The characters between brackets, after the opening one, and what follows the closing one.  The
first character does not close. -/
def bracketed? : List Char → Option (List Char × List Char)
  | [] => none
  | c :: cs =>
    match cs.dropWhile (· ≠ closeBracket) with
    | [] => none
    | _ :: rest => some (c :: cs.takeWhile (· ≠ closeBracket), rest)

theorem length_of_bracketed? {cs inside rest : List Char} (h : bracketed? cs = some (inside, rest)) :
    rest.length < cs.length := by
  cases cs with
  | nil => simp [bracketed?] at h
  | cons c cs =>
    simp only [bracketed?] at h
    split at h
    · cases h
    · rename_i b r hd
      have hr : r = rest := by simpa using (Prod.mk.inj (Option.some.inj h)).2
      have hle := (List.dropWhile_sublist (l := cs) (· ≠ closeBracket)).length_le
      rw [hd, hr] at hle
      simp only [List.length_cons] at hle ⊢
      omega

/-- The set written after an opening bracket, and what follows it. -/
def set? (cs : List Char) : Option (Token × List Char) :=
  match cs with
  | '!' :: rest => (bracketed? rest).map fun b => (.outside (ranges b.1), b.2)
  | cs => (bracketed? cs).map fun b => (.within (ranges b.1), b.2)

theorem length_of_set? {cs rest : List Char} {t : Token} (h : set? cs = some (t, rest)) :
    rest.length < cs.length := by
  unfold set? at h
  split at h
  · obtain ⟨b, hb, he⟩ := Option.map_eq_some_iff.1 h
    have hlt := length_of_bracketed? hb
    rw [(Prod.mk.inj he).2] at hlt
    simp only [List.length_cons]
    omega
  · obtain ⟨b, hb, he⟩ := Option.map_eq_some_iff.1 h
    have hlt := length_of_bracketed? hb
    rw [(Prod.mk.inj he).2] at hlt
    exact hlt

/-- The tokens of the pattern of one name.  Stars stand alone, and a bracket is closed. -/
def tokens? (cs : List Char) : Option (List Token) :=
  match cs with
  | [] => some []
  | '*' :: '*' :: _ => none
  | '*' :: rest => (tokens? rest).map (.run :: ·)
  | '?' :: rest => (tokens? rest).map (.any :: ·)
  | c :: rest =>
    if c = openBracket then
      match h : set? rest with
      | none => none
      | some (t, after) =>
        have : after.length < rest.length := length_of_set? h
        (tokens? after).map (t :: ·)
    else (tokens? rest).map (.char c :: ·)
termination_by cs.length
decreasing_by all_goals simp only [List.length_cons]; omega

/-! ### Parts -/

/-- A part of a pattern: what an entry is called, and whether it may lie any number of folders
deep. -/
structure Part where
  deep : Bool
  tokens : List Token
  deriving DecidableEq, Repr

/-- The parts that steps are read as; `deep` tells whether `**` came before them. -/
def partsFrom? (deep : Bool) : List String → Option (List Part)
  | [] => some []
  | step :: rest =>
    if step = "**" then partsFrom? true rest
    else
      match tokens? step.toList with
      | none => none
      | some ts => (partsFrom? false rest).map (⟨deep, ts⟩ :: ·)

/-- The parts that steps are read as. -/
def parts? (steps : List String) : Option (List Part) := partsFrom? false steps

end HttpProbe.Folder
