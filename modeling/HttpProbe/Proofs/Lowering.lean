/-
**Searching a text in any case.**

To search a text in any case, the text and what is looked for are put in lower case, each by itself.  All
characters but one have a lower case of their own, so a piece of a text is found again, whatever case it is
written in.  The exception is the capital sigma: it is written otherwise at the end of a word, and a word may
end in a piece where it goes on in the whole.  So `ΑΣ` stands in `ΑΣΑ`, but is not found there in any case.
This is the only way to miss a piece that stands in a text.  The case of the letters of ASCII never makes a
difference: they are all cased, so they end no word of which they are a part.

Main definitions:

* `Text.endsWord` — does a word end between characters?
* `Text.lowerAmid` — the lower case of a piece amid other characters;
* `Text.Turns` — **a capital sigma of a piece is written otherwise in the whole**;
* `Text.AsciiAlike` — texts that differ at most in the case of letters of ASCII.

Main results:

* `Text.lowerChars_append` — the lower case of a text, put together from that of its pieces;
* `Text.lowerAmid_eq_iff` — **a piece has its own lower case unless a sigma turns**;
* `Text.lower_of_asciiAlike` — the case of letters of ASCII makes no difference;
* `Expression.found_in_any_case` — **what stands in a text is found in any case, or a sigma turns**.
-/

import HttpProbe.Expression.Function

set_option autoImplicit false
set_option relaxedAutoImplicit false

namespace HttpProbe

open Unicode

namespace Text

/-! ### The lower case of a piece -/

/-- Does a word end between the characters before, nearest first, and those after? -/
def endsWord (before after : List Char) : Bool := meetsCased before && !meetsCased after

/-- The lower case of a capital sigma, which depends on whether it ends a word. -/
def lowerSigma (final : Bool) : Char := if final then Char.ofNat 0x3C2 else Char.ofNat 0x3C3

/-- The lower case of a piece of a text; `before` holds the characters that precede it, nearest first, and
`after` those that follow. -/
def lowerAmid (before after : List Char) : List Char → List Char
  | [] => []
  | c :: rest =>
    (if c.toNat = 0x3A3 then [lowerSigma (endsWord before (rest ++ after))] else lowerChar c) ++
      lowerAmid (c :: before) after rest

/-- **A capital sigma of a piece is written otherwise in the whole**: it ends a word amid the characters
before and after the piece, and not in the piece, or the other way round. -/
def Turns (before piece after : List Char) : Prop :=
  ∃ front c back, piece = front ++ c :: back ∧ c.toNat = 0x3A3 ∧
    endsWord (front.reverse ++ before.reverse) (back ++ after) ≠ endsWord front.reverse back

theorem lowerChars_cons (before : List Char) (c : Char) (rest : List Char) :
    lowerChars before (c :: rest) =
      (if c.toNat = 0x3A3 then [lowerSigma (endsWord before rest)] else lowerChar c) ++
        lowerChars (c :: before) rest := by
  rw [lowerChars, lowerSigma, endsWord]
  congr 2
  split <;> rfl

/-- **The lower case of a text is put together from that of its pieces.** -/
theorem lowerChars_append (before piece after : List Char) :
    lowerChars before (piece ++ after) =
      lowerAmid before after piece ++ lowerChars (piece.reverse ++ before) after := by
  induction piece generalizing before with
  | nil => rfl
  | cons c rest ih =>
      rw [List.cons_append, lowerChars_cons, ih, lowerAmid, List.reverse_cons, List.append_assoc,
        List.append_assoc]
      rfl

theorem lowerAmid_nil (piece : List Char) : lowerAmid [] [] piece = lowerChars [] piece := by
  have h := lowerChars_append [] piece []
  rw [List.append_nil, lowerChars, List.append_nil] at h
  exact h.symm

theorem lowerSigma_inj {a b : Bool} : lowerSigma a = lowerSigma b ↔ a = b := by
  revert a b
  decide

/-- The places of a piece are its first character, and the places of the rest. -/
theorem forall_place_cons {P : List Char → Char → List Char → Prop} {c : Char} {rest : List Char} :
    (∀ front d back, c :: rest = front ++ d :: back → P front d back) ↔
      P [] c rest ∧ ∀ front d back, rest = front ++ d :: back → P (c :: front) d back := by
  constructor
  · intro h
    exact ⟨h [] c rest rfl, fun front d back heq => h (c :: front) d back (congrArg (c :: ·) heq)⟩
  · rintro ⟨hfirst, hrest⟩ front d back heq
    cases front with
    | nil =>
        obtain ⟨rfl, rfl⟩ := List.cons_eq_cons.1 heq
        exact hfirst
    | cons e front =>
        obtain ⟨rfl, hback⟩ := List.cons_eq_cons.1 heq
        exact hrest front d back hback

/-- Amid different characters a piece has the same lower case exactly if the same sigmas end a word. -/
theorem lowerAmid_congr_iff {piece : List Char} (before after before' after' : List Char) :
    lowerAmid before after piece = lowerAmid before' after' piece ↔
      ∀ front c back, piece = front ++ c :: back → c.toNat = 0x3A3 →
        endsWord (front.reverse ++ before) (back ++ after) =
          endsWord (front.reverse ++ before') (back ++ after') := by
  induction piece generalizing before before' with
  | nil => simp [lowerAmid]
  | cons c rest ih =>
      rw [forall_place_cons, lowerAmid, lowerAmid]
      simp only [List.reverse_cons, List.append_assoc]
      by_cases hc : c.toNat = 0x3A3
      · rw [if_pos hc, if_pos hc]
        refine List.cons_eq_cons.trans (and_congr ?_ (ih (c :: before) (c :: before')))
        exact lowerSigma_inj.trans ⟨fun h _ => h, fun h => h hc⟩
      · rw [if_neg hc, if_neg hc, List.append_right_inj]
        exact (ih (c :: before) (c :: before')).trans
          ⟨fun h => ⟨fun hc' => absurd hc' hc, h⟩, fun h => h.2⟩

/-- **A piece has its own lower case in the whole unless a sigma turns.** -/
theorem lowerAmid_eq_iff {before piece after : List Char} :
    lowerAmid before.reverse after piece = lowerChars [] piece ↔ ¬ Turns before piece after := by
  rw [← lowerAmid_nil, lowerAmid_congr_iff, Turns]
  simp only [List.append_nil, not_exists, not_and, ne_eq, Decidable.not_not]

/-- Only a piece with a capital sigma turns. -/
theorem Turns.exists_sigma {before piece after : List Char} (h : Turns before piece after) :
    ∃ c ∈ piece, c.toNat = 0x3A3 := by
  obtain ⟨front, c, back, rfl, hc, _⟩ := h
  exact ⟨c, List.mem_append_right front List.mem_cons_self, hc⟩

/-- Characters that meet no cased one make no difference to what stands before them. -/
theorem meetsCased_append {cs more : List Char} (h : meetsCased more = false) :
    meetsCased (cs ++ more) = meetsCased cs := by
  induction cs with
  | nil => exact h
  | cons c rest ih =>
      rw [meetsCased, meetsCased, List.cons_append]
      by_cases hc : isCaseIgnorable c = true
      · rw [List.dropWhile_cons_of_pos hc, List.dropWhile_cons_of_pos hc]
        exact ih
      · rw [List.dropWhile_cons_of_neg hc, List.dropWhile_cons_of_neg hc]

/-- **A piece turns nowhere if it meets no cased character on either side.** -/
theorem not_turns_of_apart {before piece after : List Char} (hbefore : meetsCased before.reverse = false)
    (hafter : meetsCased after = false) : ¬ Turns before piece after := by
  rintro ⟨front, c, back, _, _, hends⟩
  rw [endsWord, endsWord, meetsCased_append hbefore, meetsCased_append hafter] at hends
  exact hends rfl

/-! ### Letters of ASCII -/

/-- Texts that differ at most in the case of letters of ASCII. -/
def AsciiAlike (s t : String) : Prop := s.toList.map asciiLowerChar = t.toList.map asciiLowerChar

instance (s t : String) : Decidable (AsciiAlike s t) := inferInstanceAs (Decidable (_ = _))

/-- What is the same for each small letter of ASCII as for its capital does not depend on their case. -/
theorem apply_asciiLowerChar {α : Type} {f : Char → α}
    (h : ∀ i < 26, f (Char.ofNat (65 + i + 32)) = f (Char.ofNat (65 + i))) (c : Char) :
    f (asciiLowerChar c) = f c := by
  rw [asciiLowerChar]
  split
  · rename_i hletter
    simp only [Bool.and_eq_true, decide_eq_true_eq] at hletter
    have hc := h (c.toNat - 65) (by omega)
    rw [Nat.add_sub_cancel' hletter.1, Char.ofNat_toNat] at hc
    exact hc
  · rfl

theorem lowerChar_asciiLowerChar (c : Char) : lowerChar (asciiLowerChar c) = lowerChar c :=
  apply_asciiLowerChar (by decide) c

theorem isCased_asciiLowerChar (c : Char) : isCased (asciiLowerChar c) = isCased c :=
  apply_asciiLowerChar (by decide) c

theorem isCaseIgnorable_asciiLowerChar (c : Char) :
    isCaseIgnorable (asciiLowerChar c) = isCaseIgnorable c :=
  apply_asciiLowerChar (by decide) c

theorem isSigma_asciiLowerChar (c : Char) :
    (asciiLowerChar c).toNat = 0x3A3 ↔ c.toNat = 0x3A3 := by
  have h : decide ((asciiLowerChar c).toNat = 0x3A3) = decide (c.toNat = 0x3A3) :=
    apply_asciiLowerChar (f := fun c => decide (c.toNat = 0x3A3)) (by decide) c
  exact decide_eq_decide.1 h

theorem meetsCased_map (cs : List Char) : meetsCased (cs.map asciiLowerChar) = meetsCased cs := by
  induction cs with
  | nil => rfl
  | cons c rest ih =>
      rw [List.map_cons, meetsCased, meetsCased]
      by_cases hc : isCaseIgnorable c = true
      · have hc' : isCaseIgnorable (asciiLowerChar c) = true :=
          (isCaseIgnorable_asciiLowerChar c).trans hc
        rw [List.dropWhile_cons_of_pos hc, List.dropWhile_cons_of_pos hc']
        exact ih
      · have hc' : ¬ isCaseIgnorable (asciiLowerChar c) = true := by
          rwa [isCaseIgnorable_asciiLowerChar]
        rw [List.dropWhile_cons_of_neg hc, List.dropWhile_cons_of_neg hc']
        exact isCased_asciiLowerChar c

/-- A text in which the letters of ASCII are small has the same lower case. -/
theorem lowerChars_map (before cs : List Char) :
    lowerChars (before.map asciiLowerChar) (cs.map asciiLowerChar) = lowerChars before cs := by
  induction cs generalizing before with
  | nil => rfl
  | cons c rest ih =>
      have hends : endsWord (before.map asciiLowerChar) (rest.map asciiLowerChar) =
          endsWord before rest := by
        rw [endsWord, endsWord, meetsCased_map, meetsCased_map]
      rw [List.map_cons, lowerChars_cons, lowerChars_cons, ← List.map_cons, ih, hends,
        lowerChar_asciiLowerChar]
      simp only [isSigma_asciiLowerChar]

/-- **The case of letters of ASCII makes no difference** to the lower case of a text. -/
theorem lower_of_asciiAlike {s t : String} (h : AsciiAlike s t) : lower s = lower t := by
  rw [lower, lower, ← lowerChars_map [] s.toList, ← lowerChars_map [] t.toList, h]

end Text

/-! ### The two questions -/

namespace Expression

/-- Two texts as the argument of a function. -/
def twoTexts (hay needle : String) : Value := .tuple [.text hay, .text needle]

/-- A question about two texts has an answer. -/
theorem apply_textQuestion {name : String} {f : String → String → Bool}
    (h : textQuestion? name = some f) (chance : Chance) (hay needle : String) :
    apply chance name (twoTexts hay needle) = .ok (.bool (f hay needle)) := by
  unfold apply function? probeFunction?
  rw [h]
  rfl

theorem apply_bcontains (chance : Chance) (hay needle : String) :
    apply chance "bcontains" (twoTexts hay needle) = .ok (.bool (holds hay needle)) :=
  apply_textQuestion rfl chance hay needle

theorem apply_icontains (chance : Chance) (hay needle : String) :
    apply chance "icontains" (twoTexts hay needle) = .ok (.bool (holdsAnyCase hay needle)) :=
  apply_textQuestion rfl chance hay needle

/-- The lower case of a text holds that of a piece of it in which no sigma turns. -/
theorem holdsAnyCase_of_not_turns {hay needle : String} {before after : List Char}
    (hhay : hay.toList = before ++ needle.toList ++ after)
    (hturns : ¬ Text.Turns before needle.toList after) : holdsAnyCase hay needle = true := by
  rw [holdsAnyCase, Text.contains_iff, Text.lower, Text.lower, String.toList_ofList,
    String.toList_ofList, hhay, List.append_assoc, Text.lowerChars_append, Text.lowerChars_append,
    List.append_nil, Text.lowerAmid_eq_iff.2 hturns, ← List.append_assoc]
  exact ⟨_, _, rfl⟩

/-- **What stands in a text is found in any case, or a sigma turns.**  If a text holds another one, it holds
it in any case, too, unless the other one has a capital sigma and wherever it stands in the text a capital
sigma in it is written otherwise than by itself.  The case of letters of ASCII, be it in the one or in the
other, makes no difference to what is found in any case. -/
theorem found_in_any_case (chance : Chance) (hay needle : String) :
    (apply chance "bcontains" (twoTexts hay needle) = .ok (.bool true) →
      apply chance "icontains" (twoTexts hay needle) = .ok (.bool true) ∨
        (∃ c ∈ needle.toList, c.toNat = 0x3A3) ∧
          ∀ before after, hay.toList = before ++ needle.toList ++ after →
            Text.Turns before needle.toList after) ∧
    ∀ hay' needle', Text.AsciiAlike hay' hay → Text.AsciiAlike needle' needle →
      apply chance "icontains" (twoTexts hay' needle') =
        apply chance "icontains" (twoTexts hay needle) := by
  simp only [apply_bcontains, apply_icontains]
  constructor
  · intro hholds
    obtain ⟨before, after, hhay⟩ : ∃ before after, hay.toList = before ++ needle.toList ++ after := by
      injection hholds with hholds
      injection hholds with hholds
      exact Text.contains_iff.1 hholds
    by_cases hfound : holdsAnyCase hay needle = true
    · exact .inl (by rw [hfound])
    · have hturns : ∀ before after, hay.toList = before ++ needle.toList ++ after →
          Text.Turns before needle.toList after :=
        fun _ _ hplace => Classical.byContradiction fun hnot =>
          hfound (holdsAnyCase_of_not_turns hplace hnot)
      exact .inr ⟨(hturns before after hhay).exists_sigma, hturns⟩
  · intro hay' needle' hhay hneedle
    rw [holdsAnyCase, holdsAnyCase, Text.lower_of_asciiAlike hhay, Text.lower_of_asciiAlike hneedle]

/-- A word that ends with a sigma in the text as well as by itself, and the same text with a small letter. -/
theorem found_in_any_case_of_word :
    Text.AsciiAlike "Id ΟΔΟΣ" "ID ΟΔΟΣ" ∧
      apply (.constant 0) "bcontains" (twoTexts "ID ΟΔΟΣ" "ΟΔΟΣ") = .ok (.bool true) ∧
      apply (.constant 0) "icontains" (twoTexts "ID ΟΔΟΣ" "ΟΔΟΣ") = .ok (.bool true) ∧
      apply (.constant 0) "icontains" (twoTexts "Id ΟΔΟΣ" "ΟΔΟΣ") = .ok (.bool true) := by
  have halike : Text.AsciiAlike "Id ΟΔΟΣ" "ID ΟΔΟΣ" := by decide +kernel
  have hholds : holds "ID ΟΔΟΣ" "ΟΔΟΣ" = true := by decide +kernel
  have hstands : apply (.constant 0) "bcontains" (twoTexts "ID ΟΔΟΣ" "ΟΔΟΣ") = .ok (.bool true) := by
    rw [apply_bcontains, hholds]
  obtain ⟨hfound, hsame⟩ := found_in_any_case (.constant 0) "ID ΟΔΟΣ" "ΟΔΟΣ"
  have hicontains : apply (.constant 0) "icontains" (twoTexts "ID ΟΔΟΣ" "ΟΔΟΣ") = .ok (.bool true) := by
    rcases hfound hstands with h | ⟨_, hturns⟩
    · exact h
    · -- the word stands apart, so nothing turns in it
      have hturn := hturns ['I', 'D', ' '] [] (by decide +kernel)
      exact absurd hturn (Text.not_turns_of_apart (by decide +kernel) (by decide +kernel))
  exact ⟨halike, hstands, hicontains, (hsame _ _ halike rfl).trans hicontains⟩

/-- A capital sigma that ends a word in what is looked for, and not in the text. -/
theorem missed_in_any_case_of_sigma :
    apply (.constant 0) "bcontains" (twoTexts "ΑΣΑ" "ΑΣ") = .ok (.bool true) ∧
      apply (.constant 0) "icontains" (twoTexts "ΑΣΑ" "ΑΣ") = .ok (.bool false) := by
  have hholds : holds "ΑΣΑ" "ΑΣ" = true := by decide +kernel
  have hmissed : holdsAnyCase "ΑΣΑ" "ΑΣ" = false := by decide +kernel
  rw [apply_bcontains, apply_icontains, hholds, hmissed]
  exact ⟨rfl, rfl⟩

end Expression

end HttpProbe
