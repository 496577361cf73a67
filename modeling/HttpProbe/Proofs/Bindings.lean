/-
**Bindings in order.**

A rule binds variables one after the other.  A text is a template, and is filled from the variables as they
are when its turn comes: it sees what its own name held before, and what the bindings before it bound, but
nothing of those after it.  So what a name holds in the end is what its last binding gives it, and the order
matters only to templates that mention other names that are bound.

Main definition:

* `Variables.Independent` — bindings of different names, none of which mentions another one.

Main results:

* `Variables.get?_merge_of_last` — what the last binding of a name gives it;
* `Variables.merge_comm`, `Variables.merge_perm` — bindings that do not mention each other, in any order;
* `Scene.merge_in_order` — **bindings in order**.
-/

import Mathlib.Data.List.Nodup
import HttpProbe.Proofs.Placeholders
import HttpProbe.Proofs.Writing

set_option autoImplicit false
set_option relaxedAutoImplicit false

namespace HttpProbe

namespace Variables

open Template (Occurrence)

variable {vars : Variables} {bindings : List (String × Scalar)}

/-! ### One binding after the other -/

/-- Under different names it makes no difference which value is put in first. -/
theorem insert_comm (vars : Variables) {m n : String} (h : m ≠ n) (v w : Value) :
    (vars.insert m v).insert n w = (vars.insert n w).insert m v := by
  refine ext_get? fun k => ?_
  simp only [get?_insert]
  by_cases hm : k = m
  · have hn : k ≠ n := hm ▸ h
    rw [if_pos hm, if_neg hn, if_pos hm]
  · rw [if_neg hm, if_neg hm]

theorem merge_append (vars : Variables) (before after : List (String × Scalar)) :
    vars.merge (before ++ after) = (vars.merge before).merge after :=
  List.foldl_append

theorem merge_cons (vars : Variables) (b : String × Scalar) (after : List (String × Scalar)) :
    vars.merge (b :: after) = (vars.insert b.1 (vars.bound b.2)).merge after := rfl

/-- A name that is not bound keeps its value. -/
theorem get?_merge_of_not_mem {name : String} (h : name ∉ bindings.map Prod.fst) :
    (vars.merge bindings).get? name = vars.get? name := by
  rcases get?_merge vars bindings name with hkept | ⟨b, hb, rfl, _⟩
  · exact hkept
  · exact absurd (List.mem_map_of_mem hb) h

/-- **A name holds what its last binding gives it**, out of the variables that the bindings before that one
left. -/
theorem get?_merge_of_last {before after : List (String × Scalar)} {b : String × Scalar}
    (h : b.1 ∉ after.map Prod.fst) :
    (vars.merge (before ++ b :: after)).get? b.1 = some ((vars.merge before).bound b.2) := by
  rw [merge_append, merge_cons, get?_merge_of_not_mem h, get?_insert, if_pos rfl]

/-! ### Bindings in another order -/

/-- A template that does not mention a name does not see what is put under it. -/
theorem bound_insert {s : Scalar} {name : String}
    (h : ∀ t, s = .text t → ∀ o : Occurrence t.toList, o.key ≠ name) (v : Value) :
    (vars.insert name v).bound s = vars.bound s := by
  cases s with
  | text t =>
      have hrender : (vars.insert name v).render t = vars.render t := by
        refine render_eq_of_keys fun o => ?_
        rw [get?_insert, if_neg (h t rfl o)]
      rw [bound, bound, hrender]
  | int n => rfl
  | float x => rfl
  | bool b => rfl

/-- Bindings of different names, none of which mentions another one.  A binding may mention its own name. -/
structure Independent (bindings : List (String × Scalar)) : Prop where
  distinct : (bindings.map Prod.fst).Nodup
  unmentioned : ∀ b ∈ bindings, ∀ t, b.2 = .text t → ∀ o : Occurrence t.toList,
    o.key ∈ bindings.map Prod.fst → o.key = b.1

/-- **Two bindings that do not mention each other** may be put in in either order. -/
theorem merge_comm (h : Independent bindings) {a b : String × Scalar} (ha : a ∈ bindings)
    (hb : b ∈ bindings) (vars : Variables) : vars.merge [a, b] = vars.merge [b, a] := by
  by_cases hname : a.1 = b.1
  · -- a name is bound once, so it is one and the same binding
    rw [List.inj_on_of_nodup_map h.distinct ha hb hname]
  · have hfree : ∀ {c d : String × Scalar}, c ∈ bindings → d ∈ bindings → c.1 ≠ d.1 →
        ∀ v, (vars.insert c.1 v).bound d.2 = vars.bound d.2 := by
      intro c d hc hd hne v
      refine bound_insert (fun t ht o ho => ?_) v
      have hkey : o.key = d.1 := h.unmentioned d hd t ht o (ho ▸ List.mem_map_of_mem hc)
      exact hne (ho.symm.trans hkey)
    calc vars.merge [a, b]
        = (vars.insert a.1 (vars.bound a.2)).insert b.1 (vars.bound b.2) := by
          rw [merge_cons, merge_cons, hfree ha hb hname]
          rfl
      _ = (vars.insert b.1 (vars.bound b.2)).insert a.1 (vars.bound a.2) :=
          insert_comm vars hname _ _
      _ = vars.merge [b, a] := by
          rw [merge_cons, merge_cons, hfree hb ha (Ne.symm hname)]
          rfl

/-- **Bindings that do not mention each other** come to the same in any order. -/
theorem merge_perm (h : Independent bindings) {other : List (String × Scalar)}
    (hperm : bindings.Perm other) (vars : Variables) : vars.merge bindings = vars.merge other :=
  hperm.foldl_eq' (fun _ ha _ hb vars => merge_comm h ha hb vars) vars

end Variables

/-! ### Bindings of a rule -/

/-- **Bindings in order.**  A name that is not bound keeps its value, whatever it is.  A name that is bound
holds what its last binding gives it: a scalar of another kind as it is, and a text filled from the variables
that the bindings before that one left.  If the names are different, and no text mentions another name that is
bound, the order makes no difference. -/
theorem Scene.merge_in_order (s : Scene) (bindings : List (String × Scalar)) :
    let vars := (s.merge bindings).vars
    (∀ name, name ∉ bindings.map Prod.fst → vars.get? name = s.vars.get? name) ∧
      (∀ before name scalar after, bindings = before ++ (name, scalar) :: after →
        name ∉ after.map Prod.fst →
          vars.get? name = some (.scalar (match scalar with
            | .text t => .text ((s.merge before).vars.render t)
            | scalar => scalar))) ∧
      (Variables.Independent bindings → ∀ other, bindings.Perm other →
        (s.merge other).vars = vars) := by
  intro vars
  have hvars : vars = s.vars.merge bindings := s.vars_merge bindings
  refine ⟨?_, ?_, ?_⟩
  · intro name hname
    rw [hvars, Variables.get?_merge_of_not_mem hname]
  · rintro before name scalar after rfl hlast
    rw [hvars, s.vars_merge before]
    refine (Variables.get?_merge_of_last hlast).trans ?_
    cases scalar <;> rfl
  · intro hindependent other hperm
    rw [hvars, s.vars_merge other, Variables.merge_perm hindependent hperm]

end HttpProbe
