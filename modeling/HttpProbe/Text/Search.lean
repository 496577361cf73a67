/-
**Searching and splitting a text.**

Plain searches on lists of characters: is one text inside another, at its start, at its end; and
cutting a text at a character.

Main definitions:

* `Text.contains`, `Text.startsWith`, `Text.endsWith`;
* `Text.replaceChar` — one character for another throughout;
* `Text.splitChars`, `Text.join` — the pieces between the occurrences of a character, and pieces put
  together.

Main results:

* `Text.contains_iff` — searching finds the pieces of a text.
-/

set_option autoImplicit false
set_option relaxedAutoImplicit false

namespace HttpProbe.Text

/-- Does `needle` occur in the characters? -/
def containsChars (needle : List Char) : List Char → Bool
  | [] => needle.isEmpty
  | c :: rest => needle.isPrefixOf (c :: rest) || containsChars needle rest

theorem containsChars_iff {needle cs : List Char} : containsChars needle cs = true ↔ needle <:+: cs := by
  induction cs with
  | nil => rw [containsChars, List.isEmpty_iff, List.infix_nil]
  | cons c rest ih =>
      rw [containsChars, Bool.or_eq_true, List.isPrefixOf_iff_prefix, ih, List.infix_cons_iff]

/-- Does `needle` occur in `hay`? -/
def contains (hay needle : String) : Bool := containsChars needle.toList hay.toList

/-- **Searching finds the pieces of a text.** -/
theorem contains_iff {hay needle : String} :
    contains hay needle = true ↔ ∃ before after, hay.toList = before ++ needle.toList ++ after := by
  rw [contains, containsChars_iff]
  exact exists₂_congr fun _ _ => eq_comm

/-- Does `text` begin with `start`? -/
def startsWith (text start : String) : Bool := start.toList.isPrefixOf text.toList

/-- Does `text` end with `stop`? -/
def endsWith (text stop : String) : Bool := stop.toList.isSuffixOf text.toList

/-- The text with `new` for every `old`. -/
def replaceChar (old new : Char) (s : String) : String :=
  String.ofList (s.toList.map fun c => if c = old then new else c)

/-- The text after `start`, if it begins with it. -/
def after? : List Char → List Char → Option (List Char)
  | [], cs => some cs
  | _ :: _, [] => none
  | s :: start, c :: cs => if s = c then after? start cs else none

theorem eq_append_of_after? {start cs rest : List Char} (h : after? start cs = some rest) :
    cs = start ++ rest := by
  induction start generalizing cs with
  | nil => simp only [after?, Option.some.injEq] at h; simp [h]
  | cons s start ih =>
    cases cs with
    | nil => simp [after?] at h
    | cons c cs =>
      simp only [after?] at h
      by_cases hs : s = c
      · rw [if_pos hs] at h
        rw [hs, ih h]
        rfl
      · rw [if_neg hs] at h
        cases h

/-- Puts a character at the front of the first piece. -/
def consPiece (c : Char) : List (List Char) → List (List Char)
  | [] => [[c]]
  | piece :: pieces => (c :: piece) :: pieces

/-- The pieces between the characters that satisfy `cut`, empty ones included. -/
def splitChars (cut : Char → Bool) (cs : List Char) : List (List Char) :=
  cs.foldr (fun c pieces => if cut c then [] :: pieces else consPiece c pieces) [[]]

/-- Texts joined with `sep` between them. -/
def join (sep : String) (parts : List String) : String := sep.intercalate parts

end HttpProbe.Text
