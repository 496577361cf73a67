/-
**What is kept is what would be made anew.**

Patterns and expressions are compiled once and kept by their texts.  As long as everything that is kept
is what its own text compiles to, nobody can tell whether a text was met before: a search finds the
same, an expression has the same truth value, and what is kept afterwards is again what its text
compiles to.  A text that does not compile is not kept.

Main definitions:

* `Faithful` — everything that is kept is what its text is made into;
* `Extraction.Faithful`, `Environment.Faithful` — the same of patterns, and of expressions;
* `Extraction.keep` — the patterns that are kept after searches with given patterns;
* `Extraction.found`, `Extraction.texts` — what a search finds, whatever is kept;
* `Environment.judged` — the truth value of an expression, whatever is kept.

Main results:

* `Extraction.ready_of_faithful`, `Extraction.extract_of_faithful` — searching with kept patterns;
* `Environment.node_of_faithful`, `Environment.evaluateOn_of_faithful` — evaluating with kept expressions.
-/

import HttpProbe.Session.Collaborators

set_option autoImplicit false
set_option relaxedAutoImplicit false

namespace HttpProbe

/-! ### Keeping -/

/-- Everything that is kept under a text is what the text is made into. -/
def Faithful {ε α : Type} (make : String → Except ε α) (kept : List (String × α)) : Prop :=
  ∀ text a, kept.lookup text = some a → make text = .ok a

theorem faithful_nil {ε α : Type} (make : String → Except ε α) : Faithful make [] := by
  intro text a h
  cases h

/-- One thing more is kept. -/
theorem Faithful.cons {ε α : Type} {make : String → Except ε α} {kept : List (String × α)}
    (h : Faithful make kept) {text : String} {a : α} (hmake : make text = .ok a) :
    Faithful make ((text, a) :: kept) := by
  intro other b hb
  simp only [List.lookup_cons] at hb
  split at hb
  · rename_i heq
    obtain rfl := eq_of_beq heq
    cases hb
    exact hmake
  · exact h other b hb

/-! ### Patterns -/

namespace Extraction

/-- Every pattern that is kept is what its text compiles to. -/
def Faithful (kept : Patterns) : Prop := HttpProbe.Faithful Regex.compile kept

/-- A pattern made ready as if nothing were kept. -/
def compiled (pattern : String) : Except ExtractFault Regex.Matcher :=
  match Regex.compile pattern with
  | .error f => .error (.pattern pattern f.message)
  | .ok r => .ok r

/-- Making a pattern ready comes to the same whatever is kept, and keeps no wrong pattern. -/
theorem ready_of_faithful {kept : Patterns} (h : Faithful kept) (pattern : String) :
    (ready kept pattern).1 = compiled pattern ∧ Faithful (ready kept pattern).2 := by
  rw [ready, compiled]
  cases hkept : kept.lookup pattern with
  | some r =>
      rw [h pattern r hkept]
      exact ⟨rfl, h⟩
  | none =>
      cases hcompile : Regex.compile pattern with
      | error f => exact ⟨rfl, h⟩
      | ok r => exact ⟨rfl, h.cons hcompile⟩

/-- The patterns that are kept after searches with given patterns, none being kept before. -/
def keep (searched : List String) : Patterns :=
  searched.foldl (fun kept pattern => (ready kept pattern).2) []

/-- Whatever was searched before, nothing wrong is kept. -/
theorem faithful_keep (searched : List String) : Faithful (keep searched) := by
  have hfrom : ∀ kept, Faithful kept →
      Faithful (searched.foldl (fun kept pattern => (ready kept pattern).2) kept) := by
    induction searched with
    | nil => exact fun kept h => h
    | cons pattern rest ih => exact fun kept h => ih _ (ready_of_faithful h pattern).2
  exact hfrom [] (faithful_nil Regex.compile)

/-- What a search finds. -/
def found (pattern text : String) : Except ExtractFault (List (String × String)) :=
  match compiled pattern with
  | .error f => .error f
  | .ok r => captures r text

/-- The texts that a search finds; there are none if it does not come to an end. -/
def texts (pattern text : String) : List (String × String) :=
  match found pattern text with
  | .error _ => []
  | .ok written => written

/-- A search writes what it finds, whatever is kept. -/
theorem extract_of_faithful {kept : Patterns} (h : Faithful kept) (pattern text : String)
    (s : Scene) :
    ∃ kept', Faithful kept' ∧
      extract kept pattern text s =
        ((found pattern text).map fun _ => (), kept', s.write (texts pattern text)) := by
  obtain ⟨hready, hkept⟩ := ready_of_faithful h pattern
  refine ⟨(ready kept pattern).2, hkept, ?_⟩
  rw [extract, texts, found, ← hready]
  rcases ready kept pattern with ⟨f | r, kept'⟩
  · rfl
  · dsimp only
    cases captures r text <;> rfl

end Extraction

/-! ### Expressions -/

namespace Environment

/-- Every expression that is kept is what its text is read as. -/
def Faithful (env : Environment) : Prop := HttpProbe.Faithful Expression.parse env.compiled

/-- The environment of a schema has its declarations, and keeps nothing yet. -/
theorem declare_of_compile {chance : Chance} {schema : List (String × String)} {env : Environment}
    (h : compile chance schema = .ok env) :
    ∃ ds, declare chance [] [] schema = .ok ds ∧ env = ⟨ds, []⟩ := by
  rw [compile] at h
  cases hds : declare chance [] [] schema with
  | error f =>
      rw [hds] at h
      cases h
  | ok ds =>
      rw [hds] at h
      exact ⟨ds, rfl, (Except.ok.inj h).symm⟩

theorem faithful_of_compile {chance : Chance} {schema : List (String × String)} {env : Environment}
    (h : compile chance schema = .ok env) : env.Faithful := by
  obtain ⟨ds, _, rfl⟩ := declare_of_compile h
  exact faithful_nil Expression.parse

/-- Variables add up to the same context wherever the declarations are the same. -/
theorem bindFrom_congr {env env' : Environment} (h : env.declarations = env'.declarations)
    (ctx : Expression.Bindings) (entries : List (String × Value)) :
    env.bindFrom ctx entries = env'.bindFrom ctx entries := by
  have hkinds : ∀ name, env.kindOf? name = env'.kindOf? name := by
    intro name
    rw [kindOf?, kindOf?, h]
  induction entries generalizing ctx with
  | nil => rfl
  | cons e rest ih =>
      obtain ⟨name, v⟩ := e
      have hentry : env.bindEntry ctx name v = env'.bindEntry ctx name v := by
        simp only [bindEntry, hkinds]
      rw [bindFrom, bindFrom, hentry]
      exact bind_congr fun ctx => ih ctx

theorem truth_congr {env env' : Environment} (h : env.declarations = env'.declarations)
    (chance : Chance) (n : Expression.Node) (entries : List (String × Value)) :
    env.truth chance n entries = env'.truth chance n entries := by
  rw [truth, truth, bind, bind, bindFrom_congr h]

/-- Making an expression ready comes to the same whatever is kept. -/
theorem node_of_faithful {env : Environment} (h : env.Faithful) (expression : String) :
    (env.node expression).1 = (Expression.parse expression).mapError .compile := by
  rw [node]
  cases hkept : env.compiled.lookup expression with
  | some n =>
      rw [h expression n hkept]
      rfl
  | none => cases Expression.parse expression <;> rfl

/-- The truth value of an expression, on variables listed in any order. -/
def judged (env : Environment) (chance : Chance) (expression : String)
    (entries : List (String × Value)) : Except EvalFault Bool :=
  match Expression.parse expression with
  | .error f => .error (.compile f)
  | .ok n => env.truth chance n entries

theorem judged_congr {env env' : Environment} (h : env.declarations = env'.declarations)
    (chance : Chance) (expression : String) (entries : List (String × Value)) :
    env.judged chance expression entries = env'.judged chance expression entries := by
  rw [judged, judged]
  cases Expression.parse expression with
  | error f => rfl
  | ok n => exact truth_congr h chance n entries

/-- Evaluating comes to the same whatever is kept, and keeps no wrong expression. -/
theorem evaluateOn_of_faithful {env : Environment} (h : env.Faithful) (chance : Chance)
    (expression : String) (entries : List (String × Value)) :
    ∃ env', env'.Faithful ∧ env'.declarations = env.declarations ∧
      env.evaluateOn chance expression entries = (env.judged chance expression entries, env') := by
  rw [evaluateOn, node, judged]
  cases hkept : env.compiled.lookup expression with
  | some n =>
      rw [h expression n hkept]
      exact ⟨env, h, rfl, rfl⟩
  | none =>
      cases hparse : Expression.parse expression with
      | error f => exact ⟨env, h, rfl, rfl⟩
      | ok n =>
          let env' : Environment := ⟨env.declarations, (expression, n) :: env.compiled⟩
          have hmore : env'.Faithful := HttpProbe.Faithful.cons h hparse
          have hdeclared : env'.declarations = env.declarations := rfl
          have hsame := truth_congr hdeclared chance n entries
          exact ⟨env', hmore, hdeclared, congrArg (·, env') hsame⟩

end Environment

end HttpProbe
