/-
**Steps, and what they lead to.**

A path is written with slashes between its steps.  Cut at the slashes it gives its steps again, as
long as no step has a slash in it.  Steps that are nothing change nothing, and the last step is
taken from the folder that the others lead to.

Main definitions:

* `Folder.way` — the steps of a path that are not nothing;
* `Folder.SlashFree` — no name in a folder has a slash in it.

Main results:

* `Folder.steps_join` — **steps that are written are read again**;
* `Folder.slashFree_write` — folders made of files that texts lead to have no slash in their names;
* `Folder.locate?_append`, `Folder.locate?_way` — steps in two parts, and without those that are nothing.
-/

import HttpProbe.Folder.Basic
import Mathlib.Data.List.Basic

set_option autoImplicit false
set_option relaxedAutoImplicit false

namespace HttpProbe

/-! ### Cutting at a character -/

namespace Text

variable {cut : Char → Bool}

theorem splitChars_cons_of_cut {c : Char} (h : cut c = true) (cs : List Char) :
    splitChars cut (c :: cs) = [] :: splitChars cut cs := by
  simp [splitChars, h]

theorem splitChars_cons_of_not_cut {c : Char} (h : cut c = false) (cs : List Char) :
    splitChars cut (c :: cs) = consPiece c (splitChars cut cs) := by
  simp [splitChars, h]

/-- A piece without cuts stays whole. -/
theorem splitChars_append {piece : List Char} (h : ∀ c ∈ piece, cut c = false) {c : Char}
    (hc : cut c = true) (cs : List Char) :
    splitChars cut (piece ++ c :: cs) = piece :: splitChars cut cs := by
  induction piece with
  | nil => exact splitChars_cons_of_cut hc cs
  | cons d piece ih =>
      obtain ⟨hd, hpiece⟩ := List.forall_mem_cons.1 h
      rw [List.cons_append, splitChars_cons_of_not_cut hd, ih hpiece]
      rfl

theorem splitChars_of_no_cut {piece : List Char} (h : ∀ c ∈ piece, cut c = false) :
    splitChars cut piece = [piece] := by
  induction piece with
  | nil => rfl
  | cons d piece ih =>
      obtain ⟨hd, hpiece⟩ := List.forall_mem_cons.1 h
      rw [splitChars_cons_of_not_cut hd, ih hpiece]
      rfl

theorem mem_of_mem_consPiece {d c : Char} {piece : List Char} {pieces : List (List Char)}
    (h : piece ∈ consPiece d pieces) (hc : c ∈ piece) : c = d ∨ ∃ p ∈ pieces, c ∈ p := by
  cases pieces with
  | nil =>
      rw [consPiece, List.mem_singleton] at h
      exact .inl (List.mem_singleton.1 (h ▸ hc))
  | cons first rest =>
      rcases List.mem_cons.1 h with rfl | hrest
      · rcases List.mem_cons.1 hc with hd | hfirst
        · exact .inl hd
        · exact .inr ⟨first, List.mem_cons_self, hfirst⟩
      · exact .inr ⟨piece, List.mem_cons_of_mem _ hrest, hc⟩

/-- The characters of the pieces are those of the whole that are no cuts. -/
theorem mem_of_mem_splitChars {cs piece : List Char} (h : piece ∈ splitChars cut cs) {c : Char}
    (hc : c ∈ piece) : c ∈ cs ∧ cut c = false := by
  induction cs generalizing piece with
  | nil =>
      rw [splitChars, List.foldr_nil, List.mem_singleton] at h
      exact absurd (h ▸ hc) List.not_mem_nil
  | cons d cs ih =>
      have hrest : (∃ p ∈ splitChars cut cs, c ∈ p) → c ∈ d :: cs ∧ cut c = false := by
        rintro ⟨p, hp, hcp⟩
        exact ⟨List.mem_cons_of_mem _ (ih hp hcp).1, (ih hp hcp).2⟩
      cases hd : cut d with
      | true =>
          rw [splitChars_cons_of_cut hd] at h
          rcases List.mem_cons.1 h with rfl | hpiece
          · cases hc
          · exact hrest ⟨piece, hpiece, hc⟩
      | false =>
          rw [splitChars_cons_of_not_cut hd] at h
          rcases mem_of_mem_consPiece h hc with rfl | hother
          · exact ⟨List.mem_cons_self, hd⟩
          · exact hrest hother

end Text

namespace Folder

/-! ### Steps in a text -/

theorem mem_of_mem_steps {text step : String} (h : step ∈ steps text) {c : Char}
    (hc : c ∈ step.toList) : c ∈ text.toList ∧ c ≠ '/' := by
  obtain ⟨piece, hpiece, rfl⟩ := List.mem_map.1 h
  rw [String.toList_ofList] at hc
  obtain ⟨hmem, hcut⟩ := Text.mem_of_mem_splitChars hpiece hc
  exact ⟨hmem, by simpa using hcut⟩

theorem slash_not_mem_of_mem_steps {text step : String} (h : step ∈ steps text) : '/' ∉ step.toList :=
  fun hslash => (mem_of_mem_steps h hslash).2 rfl

/-- **Steps that are written are read again.** -/
theorem steps_join {ss : List String} (hne : ss ≠ []) (h : ∀ s ∈ ss, '/' ∉ s.toList) :
    steps (Text.join separator ss) = ss := by
  have hchars : (Text.join separator ss).toList = ['/'].intercalate (ss.map String.toList) :=
    String.toList_intercalate
  rw [steps, hchars]
  clear hchars
  induction ss with
  | nil => exact absurd rfl hne
  | cons s ss ih =>
      obtain ⟨hs, hss⟩ := List.forall_mem_cons.1 h
      have hwhole : ∀ c ∈ s.toList, decide (c = '/') = false := fun c hc =>
        decide_eq_false fun hslash => hs (hslash ▸ hc)
      cases ss with
      | nil =>
          simp [Text.splitChars_of_no_cut hwhole, List.intercalate]
      | cons t ss =>
          rw [List.map_cons, List.map_cons, List.intercalate_cons_cons, List.append_assoc,
            List.singleton_append, Text.splitChars_append hwhole (by decide), List.map_cons,
            String.ofList_toList]
          exact congrArg (s :: ·) (ih (List.cons_ne_nil _ _) hss)

/-! ### Names without slashes -/

/-- No name in the folder has a slash in it. -/
def SlashFree (f : Folder) : Prop := ∀ e ∈ f.entries, ∀ step ∈ e.1, '/' ∉ step.toList

theorem slashFree_empty (name : String) : (empty name).SlashFree := by
  intro e he
  cases he

theorem slashFree_put {f : Folder} (hf : f.SlashFree) {p : Path} (hp : ∀ step ∈ p, '/' ∉ step.toList)
    (e : Entry) : (f.put p e).SlashFree := by
  intro d hd
  rcases List.mem_append.1 hd with hold | hnew
  · exact hf d (List.mem_filter.1 hold).1
  · rw [List.mem_singleton.1 hnew]
    exact hp

theorem mem_of_mem_trail {p q : Path} (h : q ∈ trail p) {step : String} (hstep : step ∈ q) :
    step ∈ p := by
  induction p generalizing q with
  | nil => cases h
  | cons name rest ih =>
      rcases List.mem_cons.1 h with rfl | hrest
      · exact List.mem_singleton.1 hstep ▸ List.mem_cons_self
      · obtain ⟨r, hr, rfl⟩ := List.mem_map.1 hrest
        rcases List.mem_cons.1 hstep with rfl | hbelow
        · exact List.mem_cons_self
        · exact List.mem_cons_of_mem _ (ih hr hbelow)

theorem slashFree_makeFolders {f : Folder} (hf : f.SlashFree) {p : Path}
    (hp : ∀ step ∈ p, '/' ∉ step.toList) : (f.makeFolders p).SlashFree := by
  have hway : ∀ q ∈ trail p, ∀ step ∈ q, '/' ∉ step.toList := fun q hq step hstep =>
    hp step (mem_of_mem_trail hq hstep)
  rw [makeFolders]
  generalize trail p = ways at hway
  induction ways generalizing f with
  | nil => exact hf
  | cons q ways ih =>
      obtain ⟨hq, hways⟩ := List.forall_mem_cons.1 hway
      refine ih ?_ hways
      rw [makeFolder]
      split
      · exact hf
      · exact slashFree_put hf hq _

/-- **Folders made of files that texts lead to have no slash in their names.** -/
theorem slashFree_write {f : Folder} (hf : f.SlashFree) (text : String) (content : List UInt8) :
    (f.write (steps text) content).SlashFree := by
  have hsteps : ∀ step ∈ steps text, '/' ∉ step.toList := fun _ => slash_not_mem_of_mem_steps
  refine slashFree_put (slashFree_makeFolders hf ?_) hsteps _
  exact fun step hstep => hsteps step (List.dropLast_subset _ hstep)

/-! ### Taking steps -/

/-- The steps that are not nothing. -/
def way (ss : List String) : List String := ss.filter (· ≠ "")

theorem locate?_append (f : Folder) (p : Path) (ss more : List String) :
    f.locate? p (ss ++ more) = (f.locate? p ss).bind (f.locate? · more) := by
  induction ss generalizing p with
  | nil => rfl
  | cons s ss ih =>
      rw [List.cons_append, locate?, locate?]
      cases f.enter? p s with
      | none => rfl
      | some q => exact ih q

theorem locate?_singleton (f : Folder) (p : Path) (step : String) :
    f.locate? p [step] = f.enter? p step := by
  rw [locate?]
  cases f.enter? p step <;> rfl

theorem eq_of_enter?_nothing {f : Folder} {p q : Path} (h : f.enter? p "" = some q) : q = p := by
  rw [enter?] at h
  cases hp : f.isFolder p with
  | false => simp [hp] at h
  | true => simpa [hp, eq_comm] using h

/-- Steps that are nothing change nothing. -/
theorem locate?_way {f : Folder} {p q : Path} {ss : List String} (h : f.locate? p ss = some q) :
    f.locate? p (way ss) = some q := by
  induction ss generalizing p with
  | nil => exact h
  | cons s ss ih =>
      rw [locate?] at h
      cases hstep : f.enter? p s with
      | none =>
          rw [hstep] at h
          cases h
      | some r =>
          rw [hstep] at h
          by_cases hs : s = ""
          · subst hs
            have hr := eq_of_enter?_nothing hstep
            subst hr
            exact ih h
          · have hway : way (s :: ss) = s :: way ss := by simp [way, hs]
            rw [hway, locate?, hstep]
            exact ih h

end Folder

end HttpProbe
