/-
**A search writes what it captures, or nothing.**

A search can end in three ways: its pattern is no pattern, the pattern does not match, or it matches.  In
the first two nothing is written.  In the third each name reads what the last group says that takes part
in the match and goes by this name, and where there is no such group, what it read before; a group that
takes no part neither writes nor removes anything.  Which patterns were searched for before makes no
difference.

Main definition:

* `Extraction.Writes` — a group that takes part in the match is written to a name.

Main results:

* `Extraction.writes_iff_exists_holds` — of the groups that are written to a name there is a last one;
* `Extraction.get?_write_iff` — what a name reads once the groups of a match are written;
* `Extraction.extract_keep` — a search among patterns that are kept, and what is kept after it;
* `Extraction.extract_writes_captures` — **a search writes what it captures, or nothing**.
-/

import HttpProbe.Proofs.Captures

set_option autoImplicit false
set_option relaxedAutoImplicit false

namespace HttpProbe.Extraction

variable {r : Regex.Matcher} {groups : List (Option String)} {k : String}

/-! ### What a match writes -/

/-- A group that takes part in the match is written to a name: it is not group zero, the match as a whole,
and the name is the one it goes by. -/
def Writes (r : Regex.Matcher) (groups : List (Option String)) (k : String) : Prop :=
  ∃ j text, 0 < j ∧ groups[j]? = some (some text) ∧ key r j = k

/-- Of the groups that are written to a name there is a last one. -/
theorem exists_holds {j : Nat} {text : String} (hpos : 0 < j) (htaken : groups[j]? = some (some text))
    (hkey : key r j = k) : ∃ i later, Holds r groups i k later := by
  by_cases hlast : ∀ i later, j < i → groups[i]? = some (some later) → key r i ≠ k
  · exact ⟨j, text, hpos, htaken, hkey, hlast⟩
  · push Not at hlast
    obtain ⟨i, later, hji, hi, hkey'⟩ := hlast
    have hi' : i < groups.length := (List.getElem?_eq_some_iff.1 hi).1
    have hpos' : 0 < i := by omega
    exact exists_holds hpos' hi hkey'
  termination_by groups.length - j

theorem writes_iff_exists_holds : Writes r groups k ↔ ∃ j text, Holds r groups j k text := by
  constructor
  · rintro ⟨j, text, hpos, htaken, hkey⟩
    exact exists_holds hpos htaken hkey
  · rintro ⟨j, text, h⟩
    exact ⟨j, text, h.pos, h.taken, h.key⟩

/-- A name that no group is written to reads what it read before. -/
theorem get?_write_of_not_writes (h : ¬ Writes r groups k) (vars : Variables) :
    (vars.write (capturesFrom r 1 groups.tail)).get? k = vars.get? k := by
  rcases Variables.get?_write vars (capturesFrom r 1 groups.tail) k with hkept | ⟨w, hw, hname, _⟩
  · exact hkept
  · obtain ⟨i, hi, hkey⟩ := exists_of_mem_capturesFrom hw
    have htaken : groups[i + 1]? = some (some w.2) := by
      rw [← List.getElem?_tail]
      exact hi
    have hgroup : key r (i + 1) = k := by
      rw [← hname, hkey, Nat.add_comm]
    exact absurd ⟨i + 1, w.2, by omega, htaken, hgroup⟩ h

/-- **What a name reads once the groups of a match are written**: the text of the last group that is written
to it, or else what it read before. -/
theorem get?_write_iff (vars : Variables) (k : String) (v : Value) :
    (vars.write (capturesFrom r 1 groups.tail)).get? k = some v ↔
      (∃ j text, Holds r groups j k text ∧ v = .scalar (.text text)) ∨
        ¬ Writes r groups k ∧ vars.get? k = some v := by
  by_cases hwrites : Writes r groups k
  · obtain ⟨j, text, hholds⟩ := writes_iff_exists_holds.1 hwrites
    rw [get?_write_capturesFrom hholds]
    constructor
    · intro h
      exact .inl ⟨j, text, hholds, (Option.some.inj h).symm⟩
    · rintro (⟨i, other, hother, rfl⟩ | ⟨hnot, _⟩)
      · -- the last group is one and the same
        rw [← get?_write_capturesFrom hother vars, get?_write_capturesFrom hholds]
      · exact absurd hwrites hnot
  · rw [get?_write_of_not_writes hwrites]
    constructor
    · intro h
      exact .inr ⟨hwrites, h⟩
    · rintro (⟨j, text, hholds, _⟩ | ⟨_, h⟩)
      · exact absurd (writes_iff_exists_holds.2 ⟨j, text, hholds⟩) hwrites
      · exact h

/-! ### A search among patterns that are kept -/

/-- What is kept after a search does not depend on the text, nor on what is found in it. -/
theorem kept_extract (kept : Patterns) (pattern text : String) (s : Scene) :
    (extract kept pattern text s).2.1 = (ready kept pattern).2 := by
  rw [extract]
  rcases ready kept pattern with ⟨f | r, kept'⟩
  · rfl
  · dsimp only
    cases captures r text <;> rfl

/-- What a search finds and writes is the same whatever was searched for before, and afterwards its pattern
is among those searched for. -/
theorem extract_keep (searched : List String) (pattern text : String) (s : Scene) :
    extract (keep searched) pattern text s =
      ((found pattern text).map fun _ => (), keep (searched ++ [pattern]),
        s.write (texts pattern text)) := by
  obtain ⟨kept', _, hextract⟩ := extract_of_faithful (faithful_keep searched) pattern text s
  have hkept : kept' = (ready (keep searched) pattern).2 := by
    rw [← kept_extract (keep searched) pattern text s, hextract]
  have hnext : keep (searched ++ [pattern]) = (ready (keep searched) pattern).2 := by
    rw [keep, List.foldl_append]
    rfl
  rw [hextract, hkept, hnext]

/-- **A search writes what it captures, or nothing**, whatever was searched for before.  If the text is no
pattern, or the pattern does not match, the fault says so, and all is as it was.  If it matches, each name
reads the text of the last group that takes part and goes by it, and any other name what it read before. -/
theorem extract_writes_captures (searched : List String) (pattern text : String) (s : Scene) :
    let (result, kept, s') := extract (keep searched) pattern text s
    kept = keep (searched ++ [pattern]) ∧
    match Regex.compile pattern with
    | .error f => result = .error (.pattern pattern f.message) ∧ s' = s
    | .ok r =>
      match r.captures? text with
      | none => result = .error .noMatch ∧ s' = s
      | some groups =>
        result = .ok () ∧ ∀ k v, s'.vars.get? k = some v ↔
          (∃ j text, Holds r groups j k text ∧ v = .scalar (.text text)) ∨
            ¬ Writes r groups k ∧ s.vars.get? k = some v := by
  rw [extract_keep]
  refine ⟨rfl, ?_⟩
  cases hcompile : Regex.compile pattern with
  | error f =>
      have hfound : found pattern text = .error (.pattern pattern f.message) := by
        rw [found, compiled, hcompile]
      rw [texts, hfound]
      exact ⟨rfl, rfl⟩
  | ok r =>
      dsimp only
      cases hgroups : r.captures? text with
      | none =>
          have hfound : found pattern text = .error .noMatch := by
            simp only [found, compiled, hcompile, captures, hgroups]
          rw [texts, hfound]
          exact ⟨rfl, rfl⟩
      | some groups =>
          have hfound : found pattern text = .ok (capturesFrom r 1 groups.tail) := by
            simp only [found, compiled, hcompile, captures, hgroups]
          rw [texts, hfound]
          refine ⟨rfl, fun k v => ?_⟩
          rw [Scene.vars_write, get?_write_iff]

/-- A group that takes no part is passed over, and the next one keeps its number. -/
example : (Regex.compile "(a)(b)?(c)").toOption.map (fun r => (captures r "ac").toOption) =
    some (some [("search.1", "a"), ("search.3", "c")]) := by
  decide +kernel

end HttpProbe.Extraction
