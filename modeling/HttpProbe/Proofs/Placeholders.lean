/-
**Rendering is a single pass.**

Whatever a template is, the placeholders in it never overlap: a placeholder begins with two opening
braces and holds no other.  So there is one way only to split a template into its placeholders and the
characters between them, and reading from left to right finds it.  Rendering keeps these characters, puts
the text of a variable in the place of a placeholder that names one, and leaves every other placeholder as
it is written; what was put in is not looked at again.

Main definitions:

* `Template.Placeholder` — how a placeholder is written;
* `Template.Occurrence` — a placeholder in a template, and what stands on both sides of it;
* `Template.Splits` — pieces that make up a template, with every placeholder among them;
* `Variables.fill` — what stands for a piece once the template is rendered.

Main results:

* `Template.placeholder?_eq_some_iff` — reading a placeholder is undoing how it is written;
* `Template.Occurrence.disjoint` — **placeholders never overlap**;
* `Template.splits_pieces`, `Template.Splits.unique` — **a template is split in one way**;
* `Template.hasPlaceholder_iff` — a text has a placeholder if one occurs in it;
* `Variables.render_placeholder` — a placeholder anywhere in a template is filled;
* `Variables.render_eq_pass` — rendering, as a whole.
-/

import Mathlib.Data.List.Basic
import HttpProbe.Variables

set_option autoImplicit false
set_option relaxedAutoImplicit false

namespace HttpProbe

namespace Template

/-! ### How a placeholder is written -/

/-- How a placeholder with a name is written: two opening braces, blanks, the name, blanks, two closing
braces. -/
inductive Placeholder : List Char → List Char → Prop
  | intro {before name after : List Char} (hbefore : ∀ c ∈ before, Text.isBlank c = true)
      (hname : isName name = true) (hafter : ∀ c ∈ after, Text.isBlank c = true) :
      Placeholder (opening ++ before ++ name ++ after ++ closing) name

theorem toNat_of_continuesName {c : Char} (h : continuesName c = true) :
    c.toNat = 0x2E ∨ 0x30 ≤ c.toNat ∧ c.toNat ≤ 0x39 ∨ 0x41 ≤ c.toNat ∧ c.toNat ≤ 0x5A ∨
      c.toNat = 0x5F ∨ 0x61 ≤ c.toNat ∧ c.toNat ≤ 0x7A := by
  have hranges : (decide ('A'.val ≤ c.val ∧ c.val ≤ 'Z'.val) ||
      (decide ('a'.val ≤ c.val) && decide (c.val ≤ 'z'.val)) ||
      (decide ('0'.val ≤ c.val) && decide (c.val ≤ '9'.val)) || c = '_' || c = '.') = true := h
  simp only [Bool.or_eq_true, Bool.and_eq_true, decide_eq_true_eq, UInt32.le_iff_toNat_le] at hranges
  rcases hranges with (((hupper | hlower) | hdigit) | rfl) | rfl
  · exact .inr (.inr (.inl hupper))
  · exact .inr (.inr (.inr (.inr hlower)))
  · exact .inr (.inl hdigit)
  · exact .inr (.inr (.inr (.inl rfl)))
  · exact .inl rfl

/-- No character of a name is blank. -/
theorem isBlank_of_continuesName {c : Char} (h : continuesName c = true) :
    Text.isBlank c = false := by
  have hrange := toNat_of_continuesName h
  cases hblank : Text.isBlank c with
  | false => rfl
  | true =>
      simp only [Text.isBlank, Bool.or_eq_true, Bool.and_eq_true, decide_eq_true_eq,
        beq_iff_eq] at hblank
      omega

theorem continuesName_of_isBlank {c : Char} (h : Text.isBlank c = true) :
    continuesName c = false := by
  cases hname : continuesName c with
  | false => rfl
  | true =>
      rw [isBlank_of_continuesName hname] at h
      cases h

/-- A name begins with a character that it could also go on with. -/
theorem continuesName_of_isName {name : List Char} (h : isName name = true) :
    ∀ c ∈ name, continuesName c = true := by
  cases name with
  | nil => cases h
  | cons d rest =>
      simp only [isName, startsName, Bool.and_eq_true, List.all_eq_true] at h
      intro c hc
      rcases List.mem_cons.1 hc with rfl | hc
      · have hfirst := h.1
        simp only [Bool.or_eq_true, decide_eq_true_eq] at hfirst
        rcases hfirst with halpha | rfl
        · simp [continuesName, Char.isAlphanum, halpha]
        · rfl
      · exact h.2 c hc

theorem after?_append (start rest : List Char) : Text.after? start (start ++ rest) = some rest := by
  induction start with
  | nil => cases rest <;> rfl
  | cons s start ih => rw [List.cons_append, Text.after?, if_pos rfl, ih]

/-- What `takeWhile` and `dropWhile` make of characters that satisfy `p`, with one behind them that does
not. -/
theorem span_append {p : Char → Bool} {front : List Char} (hfront : ∀ c ∈ front, p c = true)
    {c : Char} (hc : p c = false) (rest : List Char) :
    (front ++ c :: rest).takeWhile p = front ∧ (front ++ c :: rest).dropWhile p = c :: rest := by
  have hstop : ¬ p c = true := by simp [hc]
  rw [List.takeWhile_append_of_pos hfront, List.dropWhile_append_of_pos hfront,
    List.takeWhile_cons_of_neg hstop, List.dropWhile_cons_of_neg hstop, List.append_nil]
  exact ⟨rfl, rfl⟩

/-- **A placeholder is read if it is there.** -/
theorem placeholder?_append {written name : List Char} (h : Placeholder written name)
    (rest : List Char) : placeholder? (written ++ rest) = some (written, name, rest) := by
  cases h with
  | @intro before name after hbefore hname hafter =>
      have hchars := continuesName_of_isName hname
      obtain ⟨first, others, rfl⟩ : ∃ first others, name = first :: others := by
        cases name with
        | nil => cases hname
        | cons first others => exact ⟨first, others, rfl⟩
      -- each of the three runs of characters ends where the next thing begins
      have hfirst : Text.isBlank first = false :=
        isBlank_of_continuesName (hchars first List.mem_cons_self)
      have hbrace : Text.isBlank (Char.ofNat 0x7D) = false := by decide
      have hblanks := span_append hbefore hfirst (others ++ after ++ closing ++ rest)
      have hend := span_append hafter hbrace (Char.ofNat 0x7D :: rest)
      have hnamed : ∃ c tail, after ++ closing ++ rest = c :: tail ∧ continuesName c = false := by
        cases after with
        | nil => exact ⟨_, _, rfl, by decide⟩
        | cons c tail => exact ⟨c, _, rfl, continuesName_of_isBlank (hafter c List.mem_cons_self)⟩
      obtain ⟨c, tail, htail, hc⟩ := hnamed
      have hrun := span_append hchars hc tail
      rw [← htail] at hrun
      have hinside : opening ++ before ++ first :: others ++ after ++ closing ++ rest =
          opening ++ (before ++ first :: (others ++ after ++ closing ++ rest)) := by
        simp
      have hname' : first :: (others ++ after ++ closing ++ rest) =
          first :: others ++ (after ++ closing ++ rest) := by
        simp
      have hafter' : after ++ closing ++ rest =
          after ++ Char.ofNat 0x7D :: Char.ofNat 0x7D :: rest := by
        simp [closing]
      rw [placeholder?, hinside, after?_append]
      dsimp only
      rw [hblanks.1, hblanks.2, hname', hrun.1, hrun.2, if_pos hname, hafter', hend.1, hend.2]
      have hclosed : Text.after? closing (Char.ofNat 0x7D :: Char.ofNat 0x7D :: rest) = some rest :=
        after?_append closing rest
      rw [hclosed]

/-- What is read is a placeholder. -/
theorem placeholder_of_placeholder? {cs written name rest : List Char}
    (h : placeholder? cs = some (written, name, rest)) : Placeholder written name := by
  unfold placeholder? at h
  split at h
  · cases h
  · dsimp only at h
    split at h
    · rename_i inside _ hname
      split at h
      · simp only [Option.some.injEq, Prod.mk.injEq] at h
        obtain ⟨rfl, rfl, rfl⟩ := h
        exact .intro (List.all_eq_true.1 List.all_takeWhile) hname
          (List.all_eq_true.1 List.all_takeWhile)
      · cases h
    · cases h

/-- **Reading a placeholder is undoing how it is written.** -/
theorem placeholder?_eq_some_iff {cs written name rest : List Char} :
    placeholder? cs = some (written, name, rest) ↔
      Placeholder written name ∧ cs = written ++ rest := by
  constructor
  · intro h
    exact ⟨placeholder_of_placeholder? h, eq_append_of_placeholder? h⟩
  · rintro ⟨h, rfl⟩
    exact placeholder?_append h rest

/-! ### Placeholders in a template -/

/-- A placeholder in a template, with what stands before it and after it. -/
structure Occurrence (t : List Char) where
  before : List Char
  written : List Char
  name : List Char
  after : List Char
  placeholder : Placeholder written name
  whole : t = before ++ (written ++ after)

namespace Occurrence

variable {t : List Char}

/-- How many characters stand before the placeholder. -/
def start (o : Occurrence t) : Nat := o.before.length

/-- How many characters stand before the end of the placeholder. -/
def stop (o : Occurrence t) : Nat := o.before.length + o.written.length

/-- The variable that the placeholder names. -/
def key (o : Occurrence t) : String := String.ofList o.name

end Occurrence

/-- Two opening braces begin a placeholder, and it holds no other. -/
theorem Placeholder.eq_cons {written name : List Char} (h : Placeholder written name) :
    ∃ body, body ≠ [] ∧ Char.ofNat 0x7B ∉ body ∧
      written = Char.ofNat 0x7B :: Char.ofNat 0x7B :: body := by
  cases h with
  | @intro before name after hbefore hname hafter =>
      refine ⟨before ++ name ++ after ++ closing, by simp [closing], ?_, by simp [opening]⟩
      have hblank : Text.isBlank (Char.ofNat 0x7B) = false := by decide
      have hnot : ∀ run : List Char, (∀ c ∈ run, Text.isBlank c = true) →
          Char.ofNat 0x7B ∉ run := by
        intro run hrun hmem
        rw [hrun _ hmem] at hblank
        cases hblank
      have hchar : Char.ofNat 0x7B ∉ name := by
        intro hmem
        have hcontinues := continuesName_of_isName hname _ hmem
        revert hcontinues
        decide
      simp only [List.mem_append, not_or]
      exact ⟨⟨⟨hnot before hbefore, hchar⟩, hnot after hafter⟩, by decide⟩

theorem Placeholder.ne_nil {written name : List Char} (h : Placeholder written name) :
    written ≠ [] := by
  obtain ⟨body, _, _, rfl⟩ := h.eq_cons
  exact List.cons_ne_nil _ _

/-- A placeholder does not begin within another one: two opening braces stand at the beginning only. -/
theorem Placeholder.not_inside {written name written' name' front back rest : List Char}
    (h : Placeholder written name) (h' : Placeholder written' name') (hsplit : written = front ++ back)
    (hfront : front ≠ []) (hback : back ≠ []) {after : List Char} :
    back ++ after ≠ written' ++ rest := by
  obtain ⟨body, hbody, hnot, rfl⟩ := h.eq_cons
  obtain ⟨body', _, _, rfl⟩ := h'.eq_cons
  obtain ⟨c, front, rfl⟩ := List.exists_cons_of_ne_nil hfront
  obtain ⟨d, back, rfl⟩ := List.exists_cons_of_ne_nil hback
  intro heq
  simp only [List.cons_append, List.cons.injEq] at heq hsplit
  obtain ⟨rfl, heq⟩ := heq
  obtain ⟨-, hsplit⟩ := hsplit
  cases front with
  | nil =>
      -- the second brace begins the other placeholder, so the third character would be a brace
      obtain ⟨-, rfl⟩ := List.cons.inj hsplit
      obtain ⟨e, body, rfl⟩ := List.exists_cons_of_ne_nil hbody
      obtain ⟨rfl, -⟩ := List.cons.inj heq
      exact hnot List.mem_cons_self
  | cons e front =>
      obtain ⟨-, rfl⟩ := List.cons.inj hsplit
      exact hnot (by simp)

/-- A placeholder that begins where another one does is the same. -/
theorem Placeholder.unique {written name written' name' rest rest' : List Char}
    (h : Placeholder written name) (h' : Placeholder written' name')
    (heq : written ++ rest = written' ++ rest') : written = written' ∧ name = name' ∧ rest = rest' := by
  have hread := placeholder?_append h rest
  rw [heq, placeholder?_append h' rest'] at hread
  simp only [Option.some.injEq, Prod.mk.injEq] at hread
  exact ⟨hread.1.symm, hread.2.1.symm, hread.2.2.symm⟩

namespace Occurrence

variable {t : List Char}

/-- Of two placeholders the one that begins first ends first. -/
theorem stop_le_of_start_lt {o o' : Occurrence t} (h : o.start < o'.start) :
    o.stop ≤ o'.start := by
  refine Nat.le_of_not_lt fun hlt => ?_
  have hwhole := o.whole.symm.trans o'.whole
  rw [List.append_eq_append_iff] at hwhole
  rcases hwhole with ⟨front, hbefore, hrest⟩ | ⟨front, hbefore, -⟩
  · have hlength := congrArg List.length hbefore
    rw [List.length_append] at hlength
    simp only [start, stop] at h hlt
    -- the other placeholder begins after `front`, which is a part of this one
    rw [List.append_eq_append_iff] at hrest
    rcases hrest with ⟨back, hfront, -⟩ | ⟨back, hwritten, hafter⟩
    · have hlong := congrArg List.length hfront
      rw [List.length_append] at hlong
      omega
    · have hshort := congrArg List.length hwritten
      rw [List.length_append] at hshort
      have hfront : front ≠ [] := List.ne_nil_of_length_pos (by omega)
      have hback : back ≠ [] := List.ne_nil_of_length_pos (by omega)
      exact o.placeholder.not_inside o'.placeholder hwritten hfront hback hafter.symm
  · have hlength := congrArg List.length hbefore
    rw [List.length_append] at hlength
    simp only [start] at h
    omega

theorem eq_of_start_eq {o o' : Occurrence t} (h : o.start = o'.start) : o = o' := by
  have hwhole := o.whole.symm.trans o'.whole
  obtain ⟨hbefore, hrest⟩ := List.append_inj hwhole h
  obtain ⟨hwritten, hname, hafter⟩ := o.placeholder.unique o'.placeholder hrest
  cases o
  cases o'
  dsimp only at hbefore hwritten hname hafter
  subst hbefore hwritten hname hafter
  rfl

/-- **Placeholders never overlap.** -/
theorem disjoint (o o' : Occurrence t) : o = o' ∨ o.stop ≤ o'.start ∨ o'.stop ≤ o.start := by
  rcases Nat.lt_trichotomy o.start o'.start with hlt | heq | hgt
  · exact .inr (.inl (stop_le_of_start_lt hlt))
  · exact .inl (eq_of_start_eq heq)
  · exact .inr (.inr (stop_le_of_start_lt hgt))

end Occurrence

/-! ### Splitting a template -/

/-- The characters that pieces in a row stand for. -/
def spell (ps : List Piece) : List Char := ps.flatMap Piece.written

@[simp] theorem spell_cons (p : Piece) (ps : List Piece) :
    spell (p :: ps) = p.written ++ spell ps := rfl

@[simp] theorem spell_append (ps qs : List Piece) : spell (ps ++ qs) = spell ps ++ spell qs :=
  List.flatMap_append

/-- **Pieces that a template is split into.**  They make up the template, what counts as a placeholder
is one, and every placeholder in the template is among them, where it stands. -/
structure Splits (t : List Char) (ps : List Piece) : Prop where
  whole : spell ps = t
  placeholder : ∀ {written name}, Piece.slot written name ∈ ps → Placeholder written name
  complete : ∀ o : Occurrence t, ∃ front back, ps = front ++ .slot o.written o.name :: back ∧
    spell front = o.before ∧ spell back = o.after

theorem pieces_of_placeholder {written name : List Char} (h : Placeholder written name)
    (rest : List Char) : pieces (written ++ rest) = .slot written name :: pieces rest := by
  have hread := placeholder?_append h rest
  obtain ⟨body, _, _, rfl⟩ := h.eq_cons
  rw [List.cons_append, pieces, ← List.cons_append]
  split
  · rename_i written' name' rest' hread'
    rw [hread] at hread'
    cases hread'
    rfl
  · rename_i hnone
    rw [hread] at hnone
    cases hnone

theorem pieces_of_none {c : Char} {rest : List Char} (h : placeholder? (c :: rest) = none) :
    pieces (c :: rest) = .plain c :: pieces rest := by
  rw [pieces]
  split
  · rename_i hread
    rw [h] at hread
    cases hread
  · rfl

namespace Splits

theorem nil : Splits [] [] := by
  refine ⟨rfl, fun h => absurd h List.not_mem_nil, fun o => ?_⟩
  have hwhole := o.whole
  have hempty := (List.append_eq_nil_iff.1 (List.append_eq_nil_iff.1 hwhole.symm).2).1
  exact absurd hempty o.placeholder.ne_nil

/-- A template that begins with a placeholder. -/
theorem slot {written name t : List Char} {ps : List Piece} (h : Placeholder written name)
    (hps : Splits t ps) : Splits (written ++ t) (.slot written name :: ps) := by
  refine ⟨?_, ?_, fun o => ?_⟩
  · rw [spell_cons, hps.whole]
    rfl
  · intro written' name' hmem
    rcases List.mem_cons.1 hmem with heq | hmem
    · cases heq
      exact h
    · exact hps.placeholder hmem
  · let first : Occurrence (written ++ t) := ⟨[], written, name, t, h, rfl⟩
    rcases Nat.eq_zero_or_pos o.start with hzero | hpos
    · obtain rfl : first = o := Occurrence.eq_of_start_eq hzero.symm
      exact ⟨[], ps, rfl, rfl, hps.whole⟩
    · -- a later placeholder stands wholly behind the first one
      have hlater : first.stop ≤ o.start := Occurrence.stop_le_of_start_lt hpos
      have hlength : written.length ≤ o.before.length := by
        simpa [first, Occurrence.stop, Occurrence.start] using hlater
      obtain ⟨middle, hbefore⟩ : written <+: o.before :=
        List.prefix_of_prefix_length_le ⟨t, rfl⟩ ⟨o.written ++ o.after, o.whole.symm⟩ hlength
      have hrest : t = middle ++ (o.written ++ o.after) := by
        have hwhole := o.whole
        rw [← hbefore, List.append_assoc] at hwhole
        exact List.append_cancel_left hwhole
      obtain ⟨front, back, hsplit, hfront, hback⟩ :=
        hps.complete ⟨middle, o.written, o.name, o.after, o.placeholder, hrest⟩
      refine ⟨.slot written name :: front, back, congrArg _ hsplit, ?_, hback⟩
      rw [spell_cons, hfront]
      exact hbefore

/-- A template that does not begin with a placeholder. -/
theorem plain {c : Char} {t : List Char} {ps : List Piece}
    (h : placeholder? (c :: t) = none) (hps : Splits t ps) : Splits (c :: t) (.plain c :: ps) := by
  refine ⟨?_, ?_, fun o => ?_⟩
  · rw [spell_cons, hps.whole]
    rfl
  · intro written name hmem
    rcases List.mem_cons.1 hmem with heq | hmem
    · cases heq
    · exact hps.placeholder hmem
  · have hwhole := o.whole
    cases hbefore : o.before with
    | nil =>
        rw [hbefore, List.nil_append] at hwhole
        rw [hwhole, placeholder?_append o.placeholder o.after] at h
        cases h
    | cons d middle =>
        rw [hbefore, List.cons_append] at hwhole
        obtain ⟨rfl, hrest⟩ := List.cons.inj hwhole
        obtain ⟨front, back, hsplit, hfront, hback⟩ :=
          hps.complete ⟨middle, o.written, o.name, o.after, o.placeholder, hrest⟩
        refine ⟨.plain c :: front, back, congrArg _ hsplit, ?_, hback⟩
        rw [spell_cons, hfront]
        rfl

end Splits

/-- **Reading from left to right splits a template.** -/
theorem splits_pieces (t : List Char) : Splits t (pieces t) := by
  induction t using pieces.induct with
  | case1 => rw [pieces]; exact .nil
  | case2 c rest written name after hread ih =>
      obtain ⟨hplaceholder, heq⟩ := placeholder?_eq_some_iff.1 hread
      rw [heq, pieces_of_placeholder hplaceholder]
      exact .slot hplaceholder ih
  | case3 c rest hread ih =>
      rw [pieces_of_none hread]
      exact .plain hread ih

/-- Pieces stand for at least one character each. -/
theorem Splits.eq_nil_of_spell {t : List Char} {ps front back : List Piece} (h : Splits t ps)
    (hps : ps = front ++ back) (hfront : spell front = []) : front = [] := by
  cases front with
  | nil => rfl
  | cons p front =>
      rw [spell_cons, List.append_eq_nil_iff] at hfront
      cases p with
      | plain c => cases hfront.1
      | slot written name =>
          have hmem : Piece.slot written name ∈ ps := by simp [hps]
          exact absurd hfront.1 (h.placeholder hmem).ne_nil

/-- A split without its first piece splits the rest. -/
theorem Splits.tail {p : Piece} {t : List Char} {ps : List Piece}
    (h : Splits (p.written ++ t) (p :: ps)) : Splits t ps := by
  refine ⟨List.append_cancel_left h.whole, fun hmem => h.placeholder (List.mem_cons_of_mem p hmem),
    fun o => ?_⟩
  have hwhole : p.written ++ t = p.written ++ o.before ++ (o.written ++ o.after) := by
    rw [List.append_assoc, ← o.whole]
  obtain ⟨front, back, hsplit, hfront, hback⟩ :=
    h.complete ⟨p.written ++ o.before, o.written, o.name, o.after, o.placeholder, hwhole⟩
  cases front with
  | nil =>
      have hp : p = .slot o.written o.name := (List.cons.inj hsplit).1
      have hshort : p.written = [] := (List.append_eq_nil_iff.1 hfront.symm).1
      rw [hp] at hshort
      exact absurd hshort o.placeholder.ne_nil
  | cons q front =>
      obtain ⟨rfl, rfl⟩ := List.cons.inj hsplit
      exact ⟨front, back, rfl, List.append_cancel_left hfront, hback⟩

/-- **A template is split in one way.** -/
theorem Splits.unique {t : List Char} {ps : List Piece} (h : Splits t ps) : ps = pieces t := by
  induction ps generalizing t with
  | nil =>
      obtain rfl := h.whole
      rw [spell, List.flatMap_nil, pieces]
  | cons p ps ih =>
      obtain rfl := h.whole
      have hrest : ps = pieces (spell ps) := ih h.tail
      cases p with
      | slot written name =>
          rw [spell_cons, Piece.written, pieces_of_placeholder (h.placeholder List.mem_cons_self),
            ← hrest]
      | plain c =>
          have hnone : placeholder? (c :: spell ps) = none := by
            cases hread : placeholder? (c :: spell ps) with
            | none => rfl
            | some found =>
                obtain ⟨written, name, after⟩ := found
                obtain ⟨hplaceholder, hwhole⟩ := placeholder?_eq_some_iff.1 hread
                obtain ⟨front, back, hsplit, hfront, _⟩ :=
                  h.complete ⟨[], written, name, after, hplaceholder, hwhole⟩
                obtain rfl := h.eq_nil_of_spell hsplit hfront
                cases hsplit
          rw [spell_cons, Piece.written, List.singleton_append, pieces_of_none hnone, ← hrest]

/-! ### Parts of a template -/

/-- **Two templates in a row** are split one after the other, if no placeholder begins in the first and
ends in the second. -/
theorem pieces_append {a b : List Char}
    (h : ∀ o : Occurrence (a ++ b), o.stop ≤ a.length ∨ a.length ≤ o.start) :
    pieces (a ++ b) = pieces a ++ pieces b := by
  have ha := splits_pieces a
  have hb := splits_pieces b
  refine (Splits.unique ⟨?_, ?_, fun o => ?_⟩).symm
  · rw [spell_append, ha.whole, hb.whole]
  · intro written name hmem
    rcases List.mem_append.1 hmem with hmem | hmem
    · exact ha.placeholder hmem
    · exact hb.placeholder hmem
  · have hwhole := o.whole
    rcases h o with hstop | hstart
    · have hlength : (o.before ++ o.written).length ≤ a.length := by
        rw [List.length_append]
        exact hstop
      rw [← List.append_assoc] at hwhole
      obtain ⟨rest, hrest⟩ : o.before ++ o.written <+: a :=
        List.prefix_of_prefix_length_le ⟨o.after, hwhole.symm⟩ ⟨b, rfl⟩ hlength
      have hafter : rest ++ b = o.after := by
        have hfirst : o.before ++ o.written ++ (rest ++ b) = o.before ++ o.written ++ o.after := by
          rw [← List.append_assoc, hrest]
          exact hwhole
        exact List.append_cancel_left hfirst
      rw [List.append_assoc] at hrest
      obtain ⟨front, back, hsplit, hfront, hback⟩ :=
        ha.complete ⟨o.before, o.written, o.name, rest, o.placeholder, hrest.symm⟩
      refine ⟨front, back ++ pieces b, ?_, hfront, ?_⟩
      · rw [hsplit, List.append_assoc, List.cons_append]
      · rw [spell_append, hback, hb.whole]
        exact hafter
    · obtain ⟨rest, hrest⟩ : a <+: o.before :=
        List.prefix_of_prefix_length_le ⟨b, rfl⟩ ⟨_, hwhole.symm⟩ hstart
      have hbehind : b = rest ++ (o.written ++ o.after) := by
        rw [← hrest, List.append_assoc] at hwhole
        exact List.append_cancel_left hwhole
      obtain ⟨front, back, hsplit, hfront, hback⟩ :=
        hb.complete ⟨rest, o.written, o.name, o.after, o.placeholder, hbehind⟩
      refine ⟨pieces a ++ front, back, ?_, ?_, hback⟩
      · rw [hsplit, List.append_assoc]
      · rw [spell_append, ha.whole, hfront]
        exact hrest

/-- A placeholder anywhere in a template is a piece of it, between those of what stands on both sides. -/
theorem pieces_between {written name : List Char} (h : Placeholder written name)
    (before after : List Char) :
    pieces (before ++ (written ++ after)) =
      pieces before ++ .slot written name :: pieces after := by
  let here : Occurrence (before ++ (written ++ after)) := ⟨before, written, name, after, h, rfl⟩
  rw [pieces_append, pieces_of_placeholder h]
  intro o
  rcases o.disjoint here with rfl | hstop | hstart
  · exact .inr (Nat.le_refl _)
  · exact .inl hstop
  · exact .inr (Nat.le_trans (Nat.le_add_right _ _) hstart)

/-- The pieces that count as placeholders are the placeholders in the template. -/
theorem slot_mem_pieces_iff {t written name : List Char} :
    Piece.slot written name ∈ pieces t ↔
      ∃ o : Occurrence t, o.written = written ∧ o.name = name := by
  have hsplits := splits_pieces t
  constructor
  · intro hmem
    obtain ⟨front, back, hsplit⟩ := List.append_of_mem hmem
    have hwhole := hsplits.whole
    rw [hsplit, spell_append, spell_cons] at hwhole
    exact ⟨⟨spell front, written, name, spell back, hsplits.placeholder hmem, hwhole.symm⟩, rfl, rfl⟩
  · rintro ⟨o, rfl, rfl⟩
    obtain ⟨front, back, hsplit, _⟩ := hsplits.complete o
    simp [hsplit]

/-- A text has a placeholder if one occurs in it. -/
theorem hasPlaceholder_iff (text : String) :
    hasPlaceholder text = true ↔ Nonempty (Occurrence text.toList) := by
  rw [hasPlaceholder, List.any_eq_true]
  constructor
  · rintro ⟨p, hp, hslot⟩
    cases p with
    | plain c => cases hslot
    | slot written name =>
        obtain ⟨o, _⟩ := slot_mem_pieces_iff.1 hp
        exact ⟨o⟩
  · rintro ⟨o⟩
    exact ⟨_, slot_mem_pieces_iff.2 ⟨o, rfl, rfl⟩, rfl⟩

/-- What has a placeholder has two opening braces. -/
theorem Occurrence.containsChars {t : List Char} (o : Occurrence t) :
    Text.containsChars opening t = true := by
  obtain ⟨body, _, _, hwritten⟩ := o.placeholder.eq_cons
  have hopening : o.written = opening ++ body := hwritten
  have hwhole : t = o.before ++ opening ++ (body ++ o.after) := by
    rw [List.append_assoc, ← List.append_assoc opening, ← hopening]
    exact o.whole
  exact Text.containsChars_iff.2 ⟨o.before, body ++ o.after, hwhole.symm⟩

end Template

/-! ### Rendering -/

namespace Variables

open Template (Piece Occurrence Placeholder Splits pieces)

/-- What stands for a piece once the template is rendered.  A placeholder that names a scalar gives way to
the text of the scalar; any other stays as it is written. -/
def fill (vars : Variables) : Piece → List Char
  | .plain c => [c]
  | .slot written name =>
    match vars.get? (String.ofList name) with
    | some (.scalar s) => s.shown.toList
    | _ => written

theorem render_shown? (vars : Variables) (p : Piece) : p.render vars.shown? = vars.fill p := by
  cases p with
  | plain c => rfl
  | slot written name =>
      rw [Piece.render, fill, shown?]
      rcases vars.get? (String.ofList name) with _ | _ | _ | _ <;> rfl

/-- **Rendering fills the pieces of a template**, whether or not there are opening braces in it. -/
theorem toList_render (vars : Variables) (template : String) :
    (vars.render template).toList = (pieces template.toList).flatMap vars.fill := by
  have hfill : (pieces template.toList).flatMap (Piece.render vars.shown?) =
      (pieces template.toList).flatMap vars.fill :=
    congrArg (List.flatMap · _) (funext vars.render_shown?)
  rw [render, Template.render]
  split
  · rw [String.toList_ofList, hfill]
  · rename_i hbraces
    -- without opening braces every piece is a character that stays
    have hplain : ∀ p ∈ pieces template.toList, vars.fill p = p.written := by
      intro p hp
      cases p with
      | plain c => rfl
      | slot written name =>
          obtain ⟨o, _⟩ := Template.slot_mem_pieces_iff.1 hp
          exact absurd o.containsChars hbraces
    rw [List.flatMap_congr hplain]
    exact (Template.splits_pieces template.toList).whole.symm

/-- A template depends on the variables that the placeholders in it name. -/
theorem render_eq_of_keys {vars vars' : Variables} {template : String}
    (h : ∀ o : Occurrence template.toList, vars.get? o.key = vars'.get? o.key) :
    vars.render template = vars'.render template := by
  refine String.toList_injective ?_
  rw [toList_render, toList_render]
  refine List.flatMap_congr fun p hp => ?_
  cases p with
  | plain c => rfl
  | slot written name =>
      obtain ⟨o, _, rfl⟩ := Template.slot_mem_pieces_iff.1 hp
      have hkey := h o
      rw [Occurrence.key] at hkey
      rw [fill, fill, hkey]

/-- Two templates in a row are rendered one after the other, if no placeholder begins in the first and
ends in the second. -/
theorem render_append (vars : Variables) {a b : String}
    (h : ∀ o : Occurrence (a ++ b).toList, o.stop ≤ a.length ∨ a.length ≤ o.start) :
    vars.render (a ++ b) = vars.render a ++ vars.render b := by
  refine String.toList_injective ?_
  rw [String.toList_append] at h
  rw [String.toList_append, toList_render, toList_render, toList_render, String.toList_append,
    Template.pieces_append h, List.flatMap_append]

/-- **A placeholder anywhere in a template is filled**, and what stands on both sides of it is rendered by
itself. -/
theorem render_placeholder (vars : Variables) {written name : List Char}
    (h : Placeholder written name) (before after : String) :
    vars.render (before ++ String.ofList written ++ after) =
      vars.render before ++ String.ofList (vars.fill (.slot written name)) ++ vars.render after := by
  refine String.toList_injective ?_
  simp only [String.toList_append, toList_render, String.toList_ofList, List.append_assoc,
    Template.pieces_between h, List.flatMap_append, List.flatMap_cons]

/-- **Rendering is a single pass.**  Placeholders in a template never overlap, so there is one way to split
it into them and the characters between them.  The rendered template is what stands for these pieces, one
after the other: a character stands for itself, a placeholder for the text of the scalar that it names, or
else for the way it is written.  There is a placeholder in a text if there is one among its pieces.  So a
template depends on the variables that its placeholders name, and two templates in a row are rendered one
after the other unless a placeholder lies across the boundary. -/
theorem render_eq_pass (template : String) :
    (∀ o o' : Occurrence template.toList, o = o' ∨ o.stop ≤ o'.start ∨ o'.stop ≤ o.start) ∧
      (∃ ps, Splits template.toList ps ∧ (∀ qs, Splits template.toList qs → qs = ps) ∧
        (∀ vars : Variables, (vars.render template).toList = ps.flatMap vars.fill) ∧
        (Template.hasPlaceholder template = true ↔ 0 < ps.countP Piece.isSlot)) ∧
      (∀ vars vars' : Variables,
        (∀ o : Occurrence template.toList, vars.get? o.key = vars'.get? o.key) →
          vars.render template = vars'.render template) ∧
      ∀ (vars : Variables) (more : String),
        (∀ o : Occurrence (template ++ more).toList,
          o.stop ≤ template.length ∨ template.length ≤ o.start) →
            vars.render (template ++ more) = vars.render template ++ vars.render more := by
  refine ⟨Occurrence.disjoint, ⟨pieces template.toList, Template.splits_pieces _, ?_, ?_, ?_⟩, ?_, ?_⟩
  · intro qs hqs
    exact hqs.unique
  · intro vars
    exact vars.toList_render template
  · rw [Template.hasPlaceholder, List.any_eq_true, List.countP_pos_iff]
  · intro vars vars' hkeys
    exact render_eq_of_keys hkeys
  · intro vars more hboundary
    exact vars.render_append hboundary

end Variables

end HttpProbe
