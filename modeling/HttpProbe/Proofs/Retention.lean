/-
**What is kept goes unnoticed.**

An environment keeps the expressions that it read, and all sessions search with the same patterns, which
are kept once they are compiled.  Whatever was evaluated before, in whatever order and however often, an
expression has the truth value that it has in an environment just made of the same declarations; and
whatever was searched for before, a search finds and writes what it does where no pattern was met yet.
What is kept is known at any moment: all texts met so far that can be made into something, each once and
with what it is made into.  A text that cannot is never kept, however often it is met.

Main definitions:

* `Keeps` — **what is kept once given texts were met**;
* `fetch` — what a text is made into, unless that is kept;
* `Environment.Inquiry`, `Environment.ask`, `Environment.askAll` — an expression to evaluate on variables;
  evaluating it, and several in a row;
* `Extraction.Search`, `Extraction.search`, `Extraction.searchAll` — a pattern to search a text for; searching
  for it, and for several in a row.

Main results:

* `Keeps.fetch` — fetching gives what making anew does, and one text more is met;
* `Environment.askAll_of_keeps`, `Extraction.searchAll_of_keeps` — the same of evaluations and of searches in
  a row;
* `kept_goes_unnoticed` — **what is kept goes unnoticed**.
-/

import HttpProbe.Proofs.Compiling

set_option autoImplicit false
set_option relaxedAutoImplicit false

namespace HttpProbe

/-! ### Fetching -/

section Fetching

variable {ε α : Type} {make : String → Except ε α} {met : List String} {kept : List (String × α)}

/-- **What is kept once given texts were met**: each of them that can be made into something, once, with what
it is made into, and nothing else. -/
structure Keeps (make : String → Except ε α) (met : List String) (kept : List (String × α)) : Prop where
  distinct : Slots.Distinct kept
  mem_iff : ∀ text a, (text, a) ∈ kept ↔ text ∈ met ∧ make text = .ok a

/-- What a text is made into, unless that is kept; and what is kept afterwards. -/
def fetch (make : String → Except ε α) (kept : List (String × α)) (text : String) :
    Except ε α × List (String × α) :=
  match kept.lookup text with
  | some a => (.ok a, kept)
  | none =>
    match make text with
    | .error f => (.error f, kept)
    | .ok a => (.ok a, (text, a) :: kept)

namespace Keeps

theorem nil (make : String → Except ε α) : Keeps make [] [] where
  distinct := List.nodup_nil
  mem_iff := by simp

theorem lookup_eq_some_iff (h : Keeps make met kept) {text : String} {a : α} :
    kept.lookup text = some a ↔ text ∈ met ∧ make text = .ok a :=
  (Slots.lookup_eq_some_iff h.distinct).trans (h.mem_iff text a)

/-- A text that is met again leaves everything as it is, and so does one that cannot be made into
anything. -/
theorem again (h : Keeps make met kept) {text : String}
    (htext : text ∈ met ∨ ∃ f, make text = .error f) : Keeps make (met ++ [text]) kept where
  distinct := h.distinct
  mem_iff := by
    intro other a
    rw [h.mem_iff, List.mem_append, List.mem_singleton]
    refine ⟨fun hkept => ⟨.inl hkept.1, hkept.2⟩, ?_⟩
    rintro ⟨hmet | rfl, hmake⟩
    · exact ⟨hmet, hmake⟩
    · rcases htext with hmet | ⟨f, hf⟩
      · exact ⟨hmet, hmake⟩
      · rw [hf] at hmake
        cases hmake

/-- A text met for the first time is kept with what it is made into. -/
theorem cons (h : Keeps make met kept) {text : String} {a : α} (hnew : kept.lookup text = none)
    (hmake : make text = .ok a) : Keeps make (met ++ [text]) ((text, a) :: kept) where
  distinct := by
    rw [Slots.Distinct, List.map_cons, List.nodup_cons]
    refine ⟨?_, h.distinct⟩
    intro hold
    obtain ⟨e, he, heq⟩ := List.mem_map.1 hold
    exact bne_iff_ne.1 (List.lookup_eq_none_iff.1 hnew e he) heq.symm
  mem_iff := by
    intro other b
    rw [List.mem_cons, h.mem_iff, List.mem_append, List.mem_singleton, Prod.mk.injEq]
    constructor
    · rintro (⟨rfl, rfl⟩ | hkept)
      · exact ⟨.inr rfl, hmake⟩
      · exact ⟨.inl hkept.1, hkept.2⟩
    · rintro ⟨hmet | rfl, hb⟩
      · exact .inr ⟨hmet, hb⟩
      · exact .inl ⟨rfl, Except.ok.inj (hb.symm.trans hmake)⟩

/-- **Fetching gives what making anew does**, and what is kept afterwards is what is kept once one text more
was met. -/
theorem fetch (h : Keeps make met kept) (text : String) :
    (fetch make kept text).1 = make text ∧
      Keeps make (met ++ [text]) (HttpProbe.fetch make kept text).2 := by
  rw [HttpProbe.fetch]
  cases hkept : kept.lookup text with
  | some a =>
      obtain ⟨hmet, hmake⟩ := h.lookup_eq_some_iff.1 hkept
      exact ⟨hmake.symm, h.again (.inl hmet)⟩
  | none =>
      cases hmake : make text with
      | error f => exact ⟨rfl, h.again (.inr ⟨f, hmake⟩)⟩
      | ok a => exact ⟨rfl, h.cons hkept hmake⟩

end Keeps

end Fetching

/-! ### Evaluating -/

namespace Environment

/-- An environment with given declarations that keeps nothing yet. -/
def anew (ds : List Declaration) : Environment := ⟨ds, []⟩

/-- An expression to evaluate on variables, which are listed in any order, and the chance that it draws
with. -/
structure Inquiry where
  chance : Chance
  expression : String
  entries : List (String × Value)

/-- The truth value of an expression on variables, and the environment afterwards. -/
def ask (env : Environment) (q : Inquiry) : Except EvalFault Bool × Environment :=
  env.evaluateOn q.chance q.expression q.entries

/-- The truth values of expressions that are evaluated one after the other. -/
def askAll : List Inquiry → Environment → List (Except EvalFault Bool) × Environment
  | [], env => ([], env)
  | q :: rest, env =>
    let (answer, env) := env.ask q
    let (answers, env) := askAll rest env
    (answer :: answers, env)

variable {env : Environment} {met : List String}

/-- An expression is made ready by fetching it. -/
theorem node_eq (env : Environment) (expression : String) :
    env.node expression =
      ((fetch Expression.parse env.compiled expression).1.mapError .compile,
        ⟨env.declarations, (fetch Expression.parse env.compiled expression).2⟩) := by
  rw [node, fetch]
  cases env.compiled.lookup expression with
  | some n => rfl
  | none => cases Expression.parse expression <;> rfl

/-- An expression has the truth value that it has where nothing is kept, and is fetched. -/
theorem ask_of_keeps (h : Keeps Expression.parse met env.compiled) (q : Inquiry) :
    env.ask q = (((anew env.declarations).ask q).1,
      ⟨env.declarations, (fetch Expression.parse env.compiled q.expression).2⟩) := by
  have hnil := Keeps.nil Expression.parse
  rw [ask, ask, evaluateOn, evaluateOn, node_eq, node_eq, (h.fetch q.expression).1, anew,
    (hnil.fetch q.expression).1]
  cases Expression.parse q.expression with
  | error f => rfl
  | ok n =>
      -- what is kept makes no difference to the truth value
      have hsame : ∀ kept, truth ⟨env.declarations, kept⟩ q.chance n q.entries =
          truth ⟨env.declarations, []⟩ q.chance n q.entries := by
        intro kept
        refine truth_congr ?_ q.chance n q.entries
        rfl
      exact congrArg (·, _) ((hsame _).trans (hsame _).symm)

/-- **Expressions that are evaluated in a row** have the truth values that they have where nothing is
kept. -/
theorem askAll_of_keeps (h : Keeps Expression.parse met env.compiled) (qs : List Inquiry) :
    (env.askAll qs).1 = qs.map (fun q => ((anew env.declarations).ask q).1) ∧
      (env.askAll qs).2.declarations = env.declarations ∧
      Keeps Expression.parse (met ++ qs.map Inquiry.expression) (env.askAll qs).2.compiled := by
  induction qs generalizing env met with
  | nil =>
      simp only [List.map_nil, List.append_nil]
      exact ⟨rfl, rfl, h⟩
  | cons q rest ih =>
      let env' : Environment :=
        ⟨env.declarations, (fetch Expression.parse env.compiled q.expression).2⟩
      have hmore : Keeps Expression.parse (met ++ [q.expression]) env'.compiled :=
        (h.fetch q.expression).2
      obtain ⟨hanswers, hdeclared, hkeeps⟩ := ih hmore
      rw [askAll, ask_of_keeps h q, List.map_cons, List.map_cons, List.append_cons]
      exact ⟨congrArg (_ :: ·) hanswers, hdeclared, hkeeps⟩

end Environment

/-! ### Searching -/

namespace Extraction

/-- A pattern to search a text for, and the variables that the captures are written to. -/
structure Search where
  pattern : String
  text : String
  scene : Scene

/-- What a search finds, with the variables it leaves; and the patterns kept afterwards. -/
def search (kept : Patterns) (q : Search) : (Except ExtractFault Unit × Scene) × Patterns :=
  let (found, kept, scene) := extract kept q.pattern q.text q.scene
  ((found, scene), kept)

/-- What searches one after the other find, with the variables that each of them leaves. -/
def searchAll : List Search → Patterns → List (Except ExtractFault Unit × Scene) × Patterns
  | [], kept => ([], kept)
  | q :: rest, kept =>
    let (finding, kept) := search kept q
    let (findings, kept) := searchAll rest kept
    (finding :: findings, kept)

variable {kept : Patterns} {met : List String}

/-- A pattern is made ready by fetching it. -/
theorem ready_eq (kept : Patterns) (pattern : String) :
    ready kept pattern =
      ((fetch Regex.compile kept pattern).1.mapError fun f => .pattern pattern f.message,
        (fetch Regex.compile kept pattern).2) := by
  rw [ready, fetch]
  cases kept.lookup pattern with
  | some r => rfl
  | none => cases Regex.compile pattern <;> rfl

/-- A search finds and writes what it does where no pattern is kept, and its pattern is fetched. -/
theorem search_of_keeps (h : Keeps Regex.compile met kept) (q : Search) :
    search kept q = ((search [] q).1, (fetch Regex.compile kept q.pattern).2) := by
  have hnil := Keeps.nil Regex.compile
  rw [search, search, extract, extract, ready_eq, ready_eq, (h.fetch q.pattern).1,
    (hnil.fetch q.pattern).1]
  cases Regex.compile q.pattern with
  | error f => rfl
  | ok r =>
      dsimp only [Except.mapError]
      cases captures r q.text <;> rfl

/-- **Searches in a row** find and write what they do where no pattern is kept. -/
theorem searchAll_of_keeps (h : Keeps Regex.compile met kept) (qs : List Search) :
    (searchAll qs kept).1 = qs.map (fun q => (search [] q).1) ∧
      Keeps Regex.compile (met ++ qs.map Search.pattern) (searchAll qs kept).2 := by
  induction qs generalizing kept met with
  | nil =>
      simp only [List.map_nil, List.append_nil]
      exact ⟨rfl, h⟩
  | cons q rest ih =>
      obtain ⟨hfindings, hkeeps⟩ := ih (h.fetch q.pattern).2
      rw [searchAll, search_of_keeps h q, List.map_cons, List.map_cons, List.append_cons]
      exact ⟨congrArg (_ :: ·) hfindings, hkeeps⟩

end Extraction

/-! ### Both -/

/-- **What is kept goes unnoticed.**  Take an environment just compiled, and expressions that are evaluated in
it in a row, whether they can be read or not, each on variables and with a chance of its own.  Each has the
truth value, or fails for the reason, that it does in an environment just compiled that has the same
declarations.  Take searches in a row that begin with no pattern kept, each with variables of its own.  Each
finds and writes what it does with no pattern kept.  At any moment exactly those texts are kept, each once and
with what it is made into, that were met and can be made into something. -/
theorem kept_goes_unnoticed :
    (∀ {chance chance' : Chance} {schema schema' : List (String × String)} {env fresh : Environment},
      Environment.compile chance schema = .ok env → Environment.compile chance' schema' = .ok fresh →
      fresh.declarations = env.declarations → ∀ inquiries,
        (env.askAll inquiries).1 = inquiries.map (fun q => (fresh.ask q).1) ∧
          (env.askAll inquiries).2.declarations = env.declarations ∧
          Keeps Expression.parse (inquiries.map Environment.Inquiry.expression)
            (env.askAll inquiries).2.compiled) ∧
    ∀ searches,
      (Extraction.searchAll searches []).1 = searches.map (fun q => (Extraction.search [] q).1) ∧
        Keeps Regex.compile (searches.map Extraction.Search.pattern)
          (Extraction.searchAll searches []).2 := by
  constructor
  · intro chance chance' schema schema' env fresh henv hfresh hsame inquiries
    obtain ⟨ds, _, rfl⟩ := Environment.declare_of_compile henv
    obtain ⟨ds', _, rfl⟩ := Environment.declare_of_compile hfresh
    obtain rfl : ds' = ds := hsame
    have hnil : Keeps Expression.parse [] (Environment.mk ds' []).compiled := .nil Expression.parse
    exact Environment.askAll_of_keeps hnil inquiries
  · intro searches
    exact Extraction.searchAll_of_keeps (.nil Regex.compile) searches

/-- An expression that is evaluated three times, once on a variable of the wrong kind, and one that cannot be
read; and a pattern that is searched for twice. -/
theorem kept_goes_unnoticed_of_repeats :
    let inquiries : List Environment.Inquiry :=
      [⟨.constant 1, "n == 2", [("n", .scalar (.int 2))]⟩, ⟨.constant 2, "(", []⟩,
        ⟨.constant 3, "n == 2", [("n", .scalar (.text "2"))]⟩, ⟨.constant 4, "(", []⟩,
        ⟨.constant 5, "n == 2", []⟩]
    let scene : Scene := ⟨.empty, .new 1⟩
    let searches : List Extraction.Search := [⟨"a(b)", "ab", scene⟩, ⟨"(", "", scene⟩, ⟨"a(b)", "", scene⟩]
    let env : Environment := ⟨[⟨"n", .int 2⟩], []⟩
    Environment.compile (.constant 1) [("n", "2")] = .ok env ∧
      Environment.compile (.constant 2) [("n", "1 + 1")] = .ok env ∧
      (env.askAll inquiries).1 = inquiries.map (fun q => (env.ask q).1) ∧
      Keeps Expression.parse ["n == 2", "(", "n == 2", "(", "n == 2"]
        (env.askAll inquiries).2.compiled ∧
      (Extraction.searchAll searches []).1 = searches.map (fun q => (Extraction.search [] q).1) ∧
      Keeps Regex.compile ["a(b)", "(", "a(b)"] (Extraction.searchAll searches []).2 := by
  intro inquiries scene searches env
  have henv : Environment.compile (.constant 1) [("n", "2")] = .ok env :=
    Environment.compile_of_declarations (by decide +kernel)
  have hfresh : Environment.compile (.constant 2) [("n", "1 + 1")] = .ok env :=
    Environment.compile_of_declarations (by decide +kernel)
  obtain ⟨hanswers, _, hkeeps⟩ := kept_goes_unnoticed.1 henv hfresh rfl inquiries
  obtain ⟨hfindings, hkept⟩ := kept_goes_unnoticed.2 searches
  exact ⟨henv, hfresh, hanswers, hkeeps, hfindings, hkept⟩

end HttpProbe
