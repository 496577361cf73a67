/-
**Names with values.**

Variables, and the slots that sessions are held in, are lists of names with values in which each name
stands once.  Such a list is the entry of a name together with the entries of all other names, in
some order.  Since variables are kept in order, they are determined by what is read under each name.

Main results:

* `Slots.perm_cons_filter` — a list of names with values, split at one name;
* `Variables.ext_get?` — **variables that read alike are equal**;
* `Variables.perm_insert`, `Variables.perm_erase` — what writing does to the values as a whole.
-/

import HttpProbe.Variables

set_option autoImplicit false
set_option relaxedAutoImplicit false

namespace HttpProbe

/-! ### Lists in which each name stands once -/

namespace Slots

variable {α : Type}

/-- Each name stands once. -/
abbrev Distinct (l : List (String × α)) : Prop := (l.map Prod.fst).Nodup

theorem filter_eq_self {l : List (String × α)} {name : String} (h : l.lookup name = none) :
    (l.filter fun e => e.1 != name) = l := by
  refine List.filter_eq_self.2 ?_
  intro e he
  have hne : name ≠ e.1 := bne_iff_ne.1 (List.lookup_eq_none_iff.1 h e he)
  exact bne_iff_ne.2 (Ne.symm hne)

/-- What is read under a name is what stands there. -/
theorem lookup_eq_some_iff {l : List (String × α)} (hd : Distinct l) {name : String} {a : α} :
    l.lookup name = some a ↔ (name, a) ∈ l := by
  induction l with
  | nil => simp
  | cons d rest ih =>
      obtain ⟨n, b⟩ := d
      simp only [Distinct, List.map_cons, List.nodup_cons] at hd
      rw [Variables.lookup_cons_eq, List.mem_cons, Prod.mk.injEq]
      by_cases hn : name = n
      · subst hn
        have hnot : (name, a) ∉ rest := fun h => hd.1 (List.mem_map.2 ⟨_, h, rfl⟩)
        simp [hnot, eq_comm]
      · simp [hn, ih hd.2]

/-- The entry of a name, and the others. -/
theorem perm_cons_filter {l : List (String × α)} (hd : Distinct l) {name : String} {a : α}
    (h : l.lookup name = some a) : l.Perm ((name, a) :: l.filter fun e => e.1 != name) := by
  induction l with
  | nil => simp at h
  | cons d rest ih =>
      obtain ⟨n, b⟩ := d
      simp only [Distinct, List.map_cons, List.nodup_cons] at hd
      rw [Variables.lookup_cons_eq] at h
      by_cases hn : name = n
      · subst hn
        rw [if_pos rfl] at h
        cases h
        have hrest : rest.lookup name = none := by
          refine List.lookup_eq_none_iff.2 ?_
          intro e he
          have hne : name ≠ e.1 := fun heq => hd.1 (heq ▸ List.mem_map.2 ⟨e, he, rfl⟩)
          simpa using hne
        rw [List.filter_cons_of_neg (by simp), filter_eq_self hrest]
      · rw [if_neg hn] at h
        rw [List.filter_cons_of_pos (by simpa using Ne.symm hn)]
        exact ((ih hd.2 h).cons (n, b)).trans (List.Perm.swap _ _ _)

theorem distinct_filter {l : List (String × α)} (hd : Distinct l) (p : String × α → Bool) :
    Distinct (l.filter p) :=
  hd.sublist (List.filter_sublist.map Prod.fst)

/-- Something else stands under a name. -/
theorem distinct_replace {l : List (String × α)} (hd : Distinct l) (name : String) (b : α) :
    Distinct (l.map fun e => if e.1 = name then (name, b) else e) := by
  have hnames : (l.map fun e => if e.1 = name then (name, b) else e).map Prod.fst =
      l.map Prod.fst := by
    rw [List.map_map]
    refine List.map_congr_left ?_
    intro e _
    by_cases he : e.1 = name
    · simp [he]
    · simp [he]
  rw [Distinct, hnames]
  exact hd

/-- What is read once something else stands under a name. -/
theorem lookup_replace (l : List (String × α)) (name m : String) (b : α) :
    (l.map fun e => if e.1 = name then (name, b) else e).lookup m =
      if m = name then (l.lookup m).map fun _ => b else l.lookup m := by
  induction l with
  | nil => by_cases hm : m = name <;> simp [hm]
  | cons e rest ih =>
      obtain ⟨n, a⟩ := e
      rw [List.map_cons, Variables.lookup_cons_eq m n a]
      by_cases hn : n = name
      · rw [if_pos hn, Variables.lookup_cons_eq, ih, hn]
        by_cases hm : m = name
        · simp only [if_pos hm, Option.map_some]
        · simp only [if_neg hm]
      · rw [if_neg hn, Variables.lookup_cons_eq, ih]
        by_cases hm : m = name
        · have hmn : m ≠ n := fun heq => hn (heq ▸ hm)
          simp only [if_pos hm, if_neg hmn]
        · simp only [if_neg hm]

theorem perm_replace {l : List (String × α)} (hd : Distinct l) {name : String} {a : α}
    (h : l.lookup name = some a) (b : α) :
    (l.map fun e => if e.1 = name then (name, b) else e).Perm
      ((name, b) :: l.filter fun e => e.1 != name) := by
  have hperm := (perm_cons_filter hd h).map fun e => if e.1 = name then (name, b) else e
  have hothers : (l.filter fun e => e.1 != name).map
      (fun e => if e.1 = name then (name, b) else e) = l.filter fun e => e.1 != name := by
    refine (List.map_congr_left ?_).trans (List.map_id _)
    intro e he
    exact if_neg (bne_iff_ne.1 (List.mem_filter.1 he).2)
  rw [List.map_cons, if_pos rfl, hothers] at hperm
  exact hperm

end Slots

/-! ### Variables -/

namespace Variables

theorem distinct_entries (vars : Variables) : Slots.Distinct vars.entries := by
  refine List.pairwise_map.2 (vars.sorted.imp ?_)
  intro a b hab heq
  have hlt : a.1 < b.1 := hab
  rw [heq] at hlt
  exact String.lt_irrefl _ hlt

theorem get?_eq_some_iff {vars : Variables} {name : String} {v : Value} :
    vars.get? name = some v ↔ (name, v) ∈ vars.entries :=
  Slots.lookup_eq_some_iff vars.distinct_entries

/-- **Variables that read alike are equal.** -/
theorem ext_get? {a b : Variables} (h : ∀ name, a.get? name = b.get? name) : a = b := by
  have hmem : ∀ e, e ∈ a.entries ↔ e ∈ b.entries := by
    intro e
    rw [← get?_eq_some_iff, ← get?_eq_some_iff, h]
  have hnodup : ∀ vars : Variables, vars.entries.Nodup := by
    intro vars
    exact List.Pairwise.of_map Prod.fst (fun _ _ hne heq => hne (congrArg _ heq))
      vars.distinct_entries
  have hperm : a.entries.Perm b.entries :=
    (List.perm_ext_iff_of_nodup (hnodup a) (hnodup b)).2 hmem
  -- the order of the names leaves one arrangement only
  refine ext_entries (hperm.eq_of_pairwise ?_ a.sorted b.sorted)
  intro x y _ _ hxy hyx
  exact absurd (String.lt_trans hxy hyx) (String.lt_irrefl _)

theorem erase_insert_self (vars : Variables) (name : String) (v : Value) :
    (vars.insert name v).erase name = vars.erase name := by
  refine ext_get? ?_
  intro m
  rw [get?_erase, get?_erase, get?_insert]
  by_cases hm : m = name
  · rw [if_pos hm, if_pos hm]
  · rw [if_neg hm, if_neg hm, if_neg hm]

/-- The values are the one under a name, if there is one, and those under other names. -/
theorem perm_erase (vars : Variables) (name : String) :
    vars.values.Perm ((vars.get? name).toList ++ (vars.erase name).values) := by
  cases h : vars.get? name with
  | none =>
      have hrest := Slots.filter_eq_self h
      simp [values, erase, hrest]
  | some v =>
      have hperm := (Slots.perm_cons_filter vars.distinct_entries h).map Prod.snd
      simpa [values, erase] using hperm

/-- Writing puts the new value in the place of the old one. -/
theorem perm_insert (vars : Variables) (name : String) (v : Value) :
    (vars.insert name v).values.Perm (v :: (vars.erase name).values) := by
  have hperm := perm_erase (vars.insert name v) name
  rw [get?_insert, if_pos rfl, erase_insert_self] at hperm
  exact hperm

theorem mem_values_insert {vars : Variables} {name : String} {v w : Value}
    (h : w ∈ (vars.insert name v).values) : w = v ∨ w ∈ vars.values := by
  obtain ⟨e, he, rfl⟩ := List.mem_map.1 h
  rcases mem_place he with rfl | he
  · exact .inl rfl
  · exact .inr (List.mem_map.2 ⟨e, he, rfl⟩)

theorem mem_values_erase {vars : Variables} {name : String} {w : Value}
    (h : w ∈ (vars.erase name).values) : w ∈ vars.values := by
  obtain ⟨e, he, rfl⟩ := List.mem_map.1 h
  exact List.mem_map.2 ⟨e, (List.mem_filter.1 he).1, rfl⟩

theorem mem_values_of_get? {vars : Variables} {name : String} {v : Value}
    (h : vars.get? name = some v) : v ∈ vars.values :=
  List.mem_map.2 ⟨_, get?_eq_some_iff.1 h, rfl⟩

end Variables

end HttpProbe
