/-
**Templates.**

A template is a text with placeholders: two opening braces, a name, two closing braces, blanks
allowed around the name.  A name begins with a letter of ASCII or an underscore and goes on with
letters, digits, underscores and dots.  Rendering reads the template once, from left to right, and
puts the text of the named variable in the place of each placeholder; what was put there is not read
again, and a placeholder whose name has no text stays as it is.

Main definitions:

* `Template.Piece` — a character of the template, or a placeholder;
* `Template.pieces` — a template as a list of pieces;
* `Template.render` — the template with texts in the place of placeholders;
* `Template.hasPlaceholder` — is there a placeholder left?
-/

import HttpProbe.Text.Blank
import HttpProbe.Text.Search

set_option autoImplicit false
set_option relaxedAutoImplicit false

namespace HttpProbe.Template

/-! ### Placeholders -/

/-- What a placeholder begins with. -/
def opening : List Char := [Char.ofNat 0x7B, Char.ofNat 0x7B]

/-- What a placeholder ends with. -/
def closing : List Char := [Char.ofNat 0x7D, Char.ofNat 0x7D]

/-- A letter of ASCII or an underscore. -/
def startsName (c : Char) : Bool := c.isAlpha || c = '_'

/-- A character that a name goes on with. -/
def continuesName (c : Char) : Bool := c.isAlphanum || c = '_' || c = '.'

/-- A name in the way a placeholder may hold it. -/
def isName (cs : List Char) : Bool :=
  match cs with
  | [] => false
  | c :: rest => startsName c && rest.all continuesName

/-- The placeholder that the characters begin with: the way it is written, its name, and what follows
it. -/
def placeholder? (cs : List Char) : Option (List Char × List Char × List Char) :=
  match Text.after? opening cs with
  | none => none
  | some inside =>
    let before := inside.takeWhile Text.isBlank
    let name := (inside.dropWhile Text.isBlank).takeWhile continuesName
    let inside := (inside.dropWhile Text.isBlank).dropWhile continuesName
    if isName name then
      match Text.after? closing (inside.dropWhile Text.isBlank) with
      | some rest =>
        some (opening ++ before ++ name ++ inside.takeWhile Text.isBlank ++ closing, name, rest)
      | none => none
    else none

/-- A placeholder and what follows it make up the characters. -/
theorem eq_append_of_placeholder? {cs written name rest : List Char}
    (h : placeholder? cs = some (written, name, rest)) : cs = written ++ rest := by
  unfold placeholder? at h
  split at h
  · cases h
  · rename_i inside hopen
    dsimp only at h
    split at h
    · split at h
      · rename_i rest' hclose
        simp only [Option.some.injEq, Prod.mk.injEq] at h
        obtain ⟨hw, hn, hr⟩ := h
        rw [Text.eq_append_of_after? hopen, ← hw, ← hr]
        simp only [List.append_assoc]
        rw [← Text.eq_append_of_after? hclose, List.takeWhile_append_dropWhile,
          List.takeWhile_append_dropWhile, List.takeWhile_append_dropWhile]
      · cases h
    · cases h

/-- A placeholder begins with its opening. -/
theorem length_written_of_placeholder? {cs written name rest : List Char}
    (h : placeholder? cs = some (written, name, rest)) : 0 < written.length := by
  unfold placeholder? at h
  split at h
  · cases h
  · dsimp only at h
    split at h
    · split at h
      · simp only [Option.some.injEq, Prod.mk.injEq] at h
        rw [← h.1]
        simp [opening]
      · cases h
    · cases h

/-- What follows a placeholder is shorter than what begins with it. -/
theorem length_lt_of_placeholder? {cs written name rest : List Char}
    (h : placeholder? cs = some (written, name, rest)) : rest.length < cs.length := by
  have hpos := length_written_of_placeholder? h
  rw [eq_append_of_placeholder? h, List.length_append]
  omega

/-! ### Pieces -/

/-- A piece of a template: a character that stands for itself, or a placeholder with the way it is
written. -/
inductive Piece where
  | plain (c : Char)
  | slot (written name : List Char)
  deriving DecidableEq, Repr

/-- The characters of a template that a piece stands for. -/
def Piece.written : Piece → List Char
  | .plain c => [c]
  | .slot w _ => w

/-- The pieces of a template. -/
def pieces : List Char → List Piece
  | [] => []
  | c :: rest =>
    match _h : placeholder? (c :: rest) with
    | some (written, name, after) => .slot written name :: pieces after
    | none => .plain c :: pieces rest
termination_by cs => cs.length
decreasing_by
  · exact length_lt_of_placeholder? _h
  · simp

/-! ### Rendering -/

/-- The characters that a piece is rendered to. -/
def Piece.render (text? : String → Option String) : Piece → List Char
  | .plain c => [c]
  | .slot w name =>
    match text? (String.ofList name) with
    | some s => s.toList
    | none => w

/-- The template with the texts of names in the place of placeholders.  Without opening braces there
is nothing to do. -/
def render (text? : String → Option String) (template : String) : String :=
  if Text.containsChars opening template.toList then
    String.ofList ((pieces template.toList).flatMap (Piece.render text?))
  else template

/-- Is the piece a placeholder? -/
def Piece.isSlot : Piece → Bool
  | .plain _ => false
  | .slot _ _ => true

/-- Is there a placeholder in the text? -/
def hasPlaceholder (text : String) : Bool := (pieces text.toList).any Piece.isSlot

end HttpProbe.Template
