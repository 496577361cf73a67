/-
**Declarations and their defaults.**

The declarations of an environment come from a schema: each name is declared once, and none is a name of
the exchange.  So a declared name has the kind of its one declaration, and a session that is bound to
the environment starts with each default under its name and with nothing else.

Main definitions:

* `Environment.WellDeclared` — each name once, and none of the exchange.

Main results:

* `Environment.wellDeclared_of_compile` — **what a schema is compiled to is well declared**;
* `Environment.WellDeclared.kindOf?` — a declared name has the kind of its declaration;
* `Environment.get?_seed` — what the defaults put under a name.
-/

import HttpProbe.Proofs.Keeping
import HttpProbe.Proofs.Writing

set_option autoImplicit false
set_option relaxedAutoImplicit false

namespace HttpProbe.Environment

/-! ### Declaring -/

/-- Each name is declared once, and none is a name of the exchange. -/
structure WellDeclared (env : Environment) : Prop where
  distinct : (env.declarations.map Declaration.name).Nodup
  free : ∀ d ∈ env.declarations, isReserved d.name = false

/-- An entry has a default only under a name that is free and new. -/
theorem defaultOf_ok {chance : Chance} {ctx : Expression.Bindings} {ds : List Declaration}
    {name expression : String} {s : Scalar} (h : defaultOf chance ctx ds name expression = .ok s) :
    isReserved name = false ∧ name ∉ ds.map Declaration.name := by
  rw [defaultOf] at h
  cases hreserved : isReserved name with
  | true =>
      rw [hreserved] at h
      cases h
  | false =>
      refine ⟨rfl, fun hmem => ?_⟩
      obtain ⟨d, hd, rfl⟩ := List.mem_map.1 hmem
      have hany : (ds.any fun e => e.name = d.name) = true :=
        List.any_eq_true.2 ⟨d, hd, decide_eq_true rfl⟩
      -- whether or not the name is an identifier, it is refused
      rw [hreserved, hany] at h
      split at h
      · contradiction
      · split at h
        · cases h
        · cases h

/-- One more declaration under a name that is free and new. -/
theorem WellDeclared.snoc {ds : List Declaration} (h : WellDeclared ⟨ds, []⟩) {name : String}
    (hfree : isReserved name = false) (hnew : name ∉ ds.map Declaration.name) (s : Scalar) :
    WellDeclared ⟨ds ++ [⟨name, s⟩], []⟩ := by
  refine ⟨?_, ?_⟩
  · rw [List.map_append, List.nodup_append]
    refine ⟨h.distinct, List.pairwise_singleton _ name, ?_⟩
    rintro m hm _ hname rfl
    obtain rfl := List.mem_singleton.1 hname
    exact hnew hm
  · intro d hd
    rcases List.mem_append.1 hd with hd | hd
    · exact h.free d hd
    · obtain rfl := List.mem_singleton.1 hd
      exact hfree

theorem wellDeclared_declare {schema : List (String × String)} {chance : Chance}
    {ctx : Expression.Bindings} {ds ds' : List Declaration}
    (h : declare chance ctx ds schema = .ok ds') (hds : WellDeclared ⟨ds, []⟩) :
    WellDeclared ⟨ds', []⟩ := by
  induction schema generalizing chance ctx ds with
  | nil =>
      obtain rfl := Except.ok.inj h
      exact hds
  | cons entry rest ih =>
      obtain ⟨name, expression⟩ := entry
      rw [declare] at h
      cases hdefault : defaultOf chance.left ctx ds name expression with
      | error f =>
          rw [hdefault] at h
          cases h
      | ok s =>
          obtain ⟨hfree, hnew⟩ := defaultOf_ok hdefault
          rw [hdefault] at h
          dsimp only at h
          cases hset : ctx.set name (.ofScalar s) with
          | error f =>
              rw [hset] at h
              cases h
          | ok ctx =>
              rw [hset] at h
              exact ih h (hds.snoc hfree hnew s)

/-- **What a schema is compiled to is well declared.** -/
theorem wellDeclared_of_compile {chance : Chance} {schema : List (String × String)}
    {env : Environment} (h : compile chance schema = .ok env) : env.WellDeclared := by
  obtain ⟨ds, hds, rfl⟩ := declare_of_compile h
  exact wellDeclared_declare hds ⟨List.nodup_nil, fun d hd => nomatch hd⟩

/-! ### Kinds and defaults -/

/-- Among declarations with distinct names, a name leads to its declaration. -/
theorem find?_of_distinct {ds : List Declaration} (h : (ds.map Declaration.name).Nodup)
    {d : Declaration} (hd : d ∈ ds) : (ds.find? fun e => e.name = d.name) = some d := by
  induction ds with
  | nil => cases hd
  | cons e rest ih =>
      simp only [List.map_cons, List.nodup_cons] at h
      rcases List.mem_cons.1 hd with rfl | hrest
      · exact List.find?_cons_of_pos (decide_eq_true rfl)
      · have hne : e.name ≠ d.name := fun heq => h.1 (heq ▸ List.mem_map_of_mem hrest)
        rw [List.find?_cons_of_neg (by simpa using hne)]
        exact ih h.2 hrest

/-- A declared name has the kind of its declaration. -/
theorem WellDeclared.kindOf? {env : Environment} (h : env.WellDeclared) {d : Declaration}
    (hd : d ∈ env.declarations) : env.kindOf? d.name = some d.kind :=
  congrArg (Option.map Declaration.kind) (find?_of_distinct h.distinct hd)

/-- Under a name stands nothing, or the default of a declaration of the name. -/
theorem get?_seed (env : Environment) (n : String) :
    (env.seed .empty).get? n = none ∨
      ∃ d ∈ env.declarations, d.name = n ∧ (env.seed .empty).get? n = some (.scalar d.default) := by
  have hseed := Variables.get?_inserts Declaration.name (fun _ d => .scalar d.default)
    env.declarations .empty n
  rcases hseed with hnone | ⟨d, hd, hname, _, hvalue⟩
  · exact .inl hnone
  · exact .inr ⟨d, hd, hname, hvalue⟩

end HttpProbe.Environment
