/-
**Patterns without signs, and patterns that begin with one.**

A pattern is read from a text, and the signs in it are `*`, `?` and the opening bracket.  A text without
them stands for itself: its steps lead where they lead as a path.  A star in front of such a text stands for
the names that end in it.  So the entries of a folder whose names end in a text are found by a pattern as long
as the path of the folder is without signs.

Main definitions:

* `Folder.IsSign`, `Folder.Plain` — the signs, and the texts without them;
* `Folder.namesEnding` — the names in a folder that end in a text.

Main results:

* `Folder.tokens?_of_plain` — a text without signs stands for itself;
* `Folder.matchesChars_run` — a star and characters fit what ends in them;
* `Folder.search_of_locate` — steps without signs lead where they lead as a path;
* `Folder.named?_of_plain` — **what is found in a folder whose path is without signs**.
-/

import HttpProbe.Folder.Search
import HttpProbe.Proofs.Paths

set_option autoImplicit false
set_option relaxedAutoImplicit false

namespace HttpProbe.Folder

/-! ### Reading -/

/-- A character that stands for something else in a pattern. -/
def IsSign (c : Char) : Prop := c = '*' ∨ c = '?' ∨ c = openBracket

instance : DecidablePred IsSign := fun c => inferInstanceAs (Decidable (c = '*' ∨ c = '?' ∨ c = openBracket))

/-- A text without signs. -/
def Plain (text : String) : Prop := ∀ c ∈ text.toList, ¬ IsSign c

instance : DecidablePred Plain := fun text => List.decidableBAll (fun c => ¬ IsSign c) text.toList

theorem tokens?_cons_char {c : Char} (h : ¬ IsSign c) (cs : List Char) :
    tokens? (c :: cs) = (tokens? cs).map (.char c :: ·) := by
  have hstar : c ≠ '*' := fun hc => h (.inl hc)
  have hany : c ≠ '?' := fun hc => h (.inr (.inl hc))
  have hopen : c ≠ openBracket := fun hc => h (.inr (.inr hc))
  rw [tokens?.eq_def]
  split
  case h_1 heq => cases heq
  case h_2 heq => exact absurd (List.cons.inj heq).1 hstar
  case h_3 heq => exact absurd (List.cons.inj heq).1 hstar
  case h_4 heq => exact absurd (List.cons.inj heq).1 hany
  case h_5 heq =>
    cases heq
    exact if_neg hopen

/-- **A text without signs stands for itself.** -/
theorem tokens?_of_plain {cs : List Char} (h : ∀ c ∈ cs, ¬ IsSign c) :
    tokens? cs = some (cs.map .char) := by
  induction cs with
  | nil => rw [tokens?.eq_def]; rfl
  | cons c cs ih =>
      obtain ⟨hc, hcs⟩ := List.forall_mem_cons.1 h
      rw [tokens?_cons_char hc, ih hcs]
      rfl

theorem tokens?_star {cs : List Char} (h : ∀ c ∈ cs, ¬ IsSign c) :
    tokens? ('*' :: cs) = some (.run :: cs.map .char) := by
  cases cs with
  | nil => rw [tokens?.eq_def]; simp [tokens?_of_plain h]
  | cons c cs =>
      have hstar : c ≠ '*' := fun hc => h c List.mem_cons_self (.inl hc)
      rw [tokens?.eq_def]
      split
      case h_1 heq => cases heq
      case h_2 heq => exact absurd (List.cons.inj (List.cons.inj heq).2).1 hstar
      case h_3 heq =>
        cases heq
        rw [tokens?_of_plain h]
        rfl
      case h_4 heq => cases heq
      case h_5 hno _ heq => exact absurd (List.cons.inj heq).1.symm hno

theorem literal?_chars (cs : List Char) : literal? (cs.map .char) = some (String.ofList cs) := by
  have hchars : (cs.map Token.char).mapM Token.char? = some cs := by
    rw [List.mapM_map]
    exact List.mapM_pure.trans (by simp)
  rw [literal?, hchars]
  rfl

/-! ### Fitting -/

theorem matchesChars_chars (cs l : List Char) : matchesChars (cs.map .char) l = true ↔ l = cs := by
  induction cs generalizing l with
  | nil => exact List.isEmpty_iff
  | cons c cs ih =>
      cases l with
      | nil => exact ⟨fun h => (Bool.false_ne_true h).elim, fun h => by cases h⟩
      | cons d l =>
          have hstep : matchesChars (.char c :: cs.map .char) (d :: l) =
              (decide (c = d) && matchesChars (cs.map .char) l) := rfl
          rw [List.map_cons, hstep, Bool.and_eq_true, decide_eq_true_eq, ih, List.cons.injEq, eq_comm]

theorem mem_leftovers {rest l : List Char} : rest ∈ leftovers l ↔ rest <:+ l := by
  induction l with
  | nil => simp [leftovers]
  | cons c l ih => simp [leftovers, List.suffix_cons_iff, ih]

/-- **A star and characters fit what ends in them.** -/
theorem matchesChars_run (cs l : List Char) :
    matchesChars (.run :: cs.map .char) l = true ↔ cs <:+ l := by
  have hstep : matchesChars (.run :: cs.map .char) l =
      (leftovers l).any (matchesChars (cs.map .char)) := by
    rw [matchesChars]
  rw [hstep, List.any_eq_true]
  constructor
  · rintro ⟨rest, hrest, hfits⟩
    rw [matchesChars_chars] at hfits
    exact hfits ▸ mem_leftovers.1 hrest
  · exact fun h => ⟨cs, mem_leftovers.2 h, (matchesChars_chars cs cs).2 rfl⟩

theorem matchesName_run (ending name : String) :
    matchesName (.run :: ending.toList.map .char) name = Text.endsWith name ending := by
  rw [Bool.eq_iff_iff, matchesName, matchesChars_run, Text.endsWith, List.isSuffixOf_iff_suffix]

/-! ### Searching -/

/-- What a step without signs is read as. -/
def stepPart (step : String) : Part := ⟨false, step.toList.map .char⟩

/-- What a star and a text without signs are read as. -/
def endingPart (ending : String) : Part := ⟨false, .run :: ending.toList.map .char⟩

/-- The names in a folder that end in a text, in order. -/
def namesEnding (f : Folder) (p : Path) (ending : String) : List String :=
  ((f.childNames p).filter (Text.endsWith · ending)).mergeSort

theorem ne_stars_of_plain {s : String} (h : Plain s) : s ≠ "**" := by
  rintro rfl
  exact h '*' List.mem_cons_self (.inl rfl)

theorem partsFrom?_of_plain {ss : List String} (h : ∀ s ∈ ss, Plain s) {ending : String}
    (hending : Plain ending) :
    partsFrom? false (ss ++ ["*" ++ ending]) = some (ss.map stepPart ++ [endingPart ending]) := by
  induction ss with
  | nil =>
      have hchars : ("*" ++ ending).toList = '*' :: ending.toList := String.toList_append
      have hne : "*" ++ ending ≠ "**" := by
        intro heq
        have hlist : ending.toList = ['*'] := by
          have hsame := congrArg String.toList heq
          rw [hchars] at hsame
          exact (List.cons.inj hsame).2
        exact hending '*' (by rw [hlist]; exact List.mem_cons_self) (.inl rfl)
      rw [List.nil_append, partsFrom?, if_neg hne, hchars, tokens?_star hending]
      rfl
  | cons s ss ih =>
      obtain ⟨hs, hss⟩ := List.forall_mem_cons.1 h
      rw [List.cons_append, partsFrom?, if_neg (ne_stars_of_plain hs), tokens?_of_plain hs, ih hss]
      rfl

theorem candidates_stepPart (f : Folder) (step : String) (p : Place) :
    f.candidates (stepPart step) p = (p.enter? f step).toList := by
  simp [candidates, stepPart, literal?_chars]

theorem candidates_endingPart (f : Folder) (ending : String) (p : Place) :
    f.candidates (endingPart ending) p =
      (f.namesEnding p.path ending).map fun name => p.down [name] := by
  have hliteral : literal? (.run :: ending.toList.map .char) = none := by
    simp [literal?, List.mapM_cons, Token.char?]
  have hfits : matchesName (.run :: ending.toList.map .char) = (Text.endsWith · ending) :=
    funext (matchesName_run ending)
  have hdots : dotSteps (.run :: ending.toList.map .char) = [] := rfl
  simp [candidates, endingPart, hliteral, hfits, hdots, namesEnding]

/-- **Steps without signs lead where they lead as a path.** -/
theorem search_of_locate {f : Folder} {ss : List String} {place : Place} {q : Path}
    (h : f.locate? place.path ss = some q) (rest : List Part) :
    f.search (ss.map stepPart ++ rest) place = f.search rest ⟨place.steps ++ way ss, q⟩ := by
  induction ss generalizing place with
  | nil =>
      cases h
      simp [way]
  | cons s ss ih =>
      rw [locate?] at h
      cases hstep : f.enter? place.path s with
      | none =>
          rw [hstep] at h
          cases h
      | some r =>
          rw [hstep] at h
          have henter : place.enter? f s = some ⟨addStep place.steps s, r⟩ := by
            rw [Place.enter?, hstep]
            rfl
          have hway : addStep place.steps s ++ way ss = place.steps ++ way (s :: ss) := by
            by_cases hs : s = "" <;> simp [addStep, way, hs]
          rw [List.map_cons, List.cons_append, search, candidates_stepPart, henter, ← hway]
          simpa using ih h

theorem search_singleton (f : Folder) (part : Part) (p : Place) :
    f.search [part] p = f.candidates part p := by
  have hlast : f.search [] = fun q => [q] := rfl
  rw [search, hlast, List.flatMap_singleton']

/-- **What is found in a folder whose path is without signs.** -/
theorem named?_of_plain {f : Folder} {text ending : String} (hplain : ∀ s ∈ folderSteps text, Plain s)
    (hending : Plain ending) {p : Path} (h : f.locate? [] (folderSteps text) = some p) :
    f.named? text ending =
      some ((f.namesEnding p ending).map fun name => way (folderSteps text) ++ [name]) := by
  have hsearch : f.search ((folderSteps text).map stepPart ++ [endingPart ending]) ⟨[], []⟩ =
      f.search [endingPart ending] ⟨way (folderSteps text), p⟩ := search_of_locate h [endingPart ending]
  rw [named?, parts?, partsFrom?_of_plain hplain hending, Option.map_some, hsearch, search_singleton,
    candidates_endingPart, List.map_map]
  rfl

end HttpProbe.Folder
