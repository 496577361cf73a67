/-
**Groups of rules are a disjunction.**

A session that is given groups of rules checks them in order and stops at the first that does not
come out as not holding: it holds, or it cannot be checked.  Set beside it is the plain fold, which
checks group after group whatever comes of them.  The session comes to the verdict of the last group
it got to, leaves what the fold over these groups leaves, and sends their requests one group after the
other.  A chain of rules is the same as one group with these rules.

Main definitions:

* `Session.throughGroups` — the fold over groups;
* `Session.groupOutcome` — what a group comes to in the fold;
* `Session.Grouped` — **groups are checked up to the first that does not fail**;
* `Session.goOnByGroups` — more groups after those that failed.

Main results:

* `Session.grouped` — a check is so many groups of the fold;
* `Session.startByGroups_append` — two lists of groups in a row;
* `Session.verify_chain` — a chain is one group;
* `Session.startByGroups_eq_disjunction` — the disjunction.
-/

import HttpProbe.Proofs.Exchanges

set_option autoImplicit false
set_option relaxedAutoImplicit false

namespace HttpProbe.Session

variable {σ : Type} (c : Collaborators σ) (target : String)

/-! ### The fold over groups -/

/-- The session, and what sessions share, after groups were checked one after the other, whatever came
of them. -/
def throughGroups (groups : List RuleGroup) (s : Session) (a : Surroundings σ) :
    Session × Surroundings σ :=
  groups.foldl (fun x g => (x.1.start c target g.rules x.2).2) (s, a)

/-- What the group with an index comes to, once those before it were checked. -/
def groupOutcome (groups : List RuleGroup) (s : Session) (a : Surroundings σ) (i : Nat) :
    Option Verdict :=
  groups[i]?.map fun g =>
    let (s, a) := s.throughGroups c target (groups.take i) a
    (s.start c target g.rules a).1

theorem throughGroups_cons (g : RuleGroup) (rest : List RuleGroup) (s : Session)
    (a : Surroundings σ) :
    s.throughGroups c target (g :: rest) a =
      (s.start c target g.rules a).2.1.throughGroups c target rest
        (s.start c target g.rules a).2.2 := by
  rw [throughGroups, List.foldl_cons, throughGroups]

theorem groupOutcome_succ (g : RuleGroup) (rest : List RuleGroup) (s : Session)
    (a : Surroundings σ) (i : Nat) :
    s.groupOutcome c target (g :: rest) a (i + 1) =
      (s.start c target g.rules a).2.1.groupOutcome c target rest
        (s.start c target g.rules a).2.2 i := by
  rw [groupOutcome, groupOutcome, List.getElem?_cons_succ, List.take_succ_cons, throughGroups_cons]

/-- **Groups are checked up to the first that does not fail.**  There are `count` of them, and the
verdict is that of the last one; no groups fail.  Each of them makes calls of its own. -/
structure Grouped (groups : List RuleGroup) (s : Session) (a : Surroundings σ) (count : Nat)
    (verdict : Verdict) (calls : List (List Call)) : Prop where
  within : count ≤ groups.length
  failed : ∀ i, i + 1 < count → s.groupOutcome c target groups a i = some (.ok false)
  last : groups = [] ∧ verdict = .ok false ∨
    ∃ i, count = i + 1 ∧ s.groupOutcome c target groups a i = some verdict
  stopped : count < groups.length → verdict ≠ .ok false
  sent : calls.length = count
  made : ∀ (i : Nat) (own : List Call), calls[i]? = some own →
    ∃ g, groups[i]? = some g ∧
      let (s, a) := s.throughGroups c target (groups.take i) a
      (s.start c target g.rules a).2.2.journal = a.journal ++ own

/-! ### A check is so many groups of the fold -/

variable {c target}

namespace Grouped

variable {g : RuleGroup} {rest : List RuleGroup} {s : Session} {a : Surroundings σ}
  {own : List Call}

variable (rest) in
/-- A group that does not fail is the last one. -/
theorem stop (hstops : (s.start c target g.rules a).1 ≠ .ok false)
    (hown : (s.start c target g.rules a).2.2.journal = a.journal ++ own) :
    s.Grouped c target (g :: rest) a 1 (s.start c target g.rules a).1 [own] := by
  have hlast : s.groupOutcome c target (g :: rest) a 0 = some (s.start c target g.rules a).1 := rfl
  refine ⟨?_, ?_, .inr ⟨0, rfl, hlast⟩, fun _ => hstops, rfl, ?_⟩
  · simp
  · omega
  · intro i other hother
    cases i with
    | zero =>
        cases hother
        exact ⟨g, rfl, hown⟩
    | succ i => simp at hother

/-- A group that fails comes before others. -/
theorem cons {count : Nat} {verdict : Verdict} {calls : List (List Call)}
    (h : (s.start c target g.rules a).2.1.Grouped c target rest (s.start c target g.rules a).2.2
      count verdict calls)
    (hfails : (s.start c target g.rules a).1 = .ok false)
    (hown : (s.start c target g.rules a).2.2.journal = a.journal ++ own) :
    s.Grouped c target (g :: rest) a (count + 1) verdict (own :: calls) := by
  -- what is said of the rest is said of it with every index moved up by one
  have hfirst : s.groupOutcome c target (g :: rest) a 0 = some (.ok false) := congrArg some hfails
  have hlater := groupOutcome_succ c target g rest s a
  refine ⟨Nat.succ_le_succ h.within, ?_, .inr ⟨count, rfl, ?_⟩, ?_, congrArg Nat.succ h.sent, ?_⟩
  · intro i hi
    cases i with
    | zero => exact hfirst
    | succ i => exact (hlater i).trans (h.failed i (by omega))
  · rcases h.last with ⟨rfl, rfl⟩ | ⟨i, rfl, hi⟩
    · have hzero : count = 0 := Nat.le_zero.1 h.within
      rw [hzero]
      exact hfirst
    · exact (hlater i).trans hi
  · intro hlt
    exact h.stopped (Nat.lt_of_succ_lt_succ hlt)
  · intro i other hother
    cases i with
    | zero =>
        cases hother
        exact ⟨g, rfl, hown⟩
    | succ i =>
        obtain ⟨asking, hgroup, hmade⟩ := h.made i other hother
        refine ⟨asking, hgroup, ?_⟩
        rw [List.take_succ_cons, throughGroups_cons]
        exact hmade

end Grouped

variable (c target)

/-- **A check is so many groups of the fold.** -/
theorem grouped (groups : List RuleGroup) (s : Session) (a : Surroundings σ) :
    ∃ count calls,
      s.Grouped c target groups a count (s.startByGroups c target groups a).1 calls ∧
        (s.startByGroups c target groups a).2 = s.throughGroups c target (groups.take count) a ∧
        (s.startByGroups c target groups a).2.2.journal = a.journal ++ calls.flatten := by
  induction groups generalizing s a with
  | nil =>
      refine ⟨0, [], ⟨?_, ?_, .inl ⟨rfl, rfl⟩, ?_, rfl, ?_⟩, rfl, ?_⟩
      · exact Nat.le_refl 0
      · omega
      · intro hlt
        exact absurd hlt (Nat.lt_irrefl 0)
      · intro i own hown
        simp at hown
      · exact (List.append_nil _).symm
  | cons g rest ih =>
      have hown := journal_start c target g.rules s a
      by_cases hfails : (s.start c target g.rules a).1 = .ok false
      · rw [startByGroups_of_next hfails]
        obtain ⟨count, calls, hgrouped, hthrough, hjournal⟩ :=
          ih (s.start c target g.rules a).2.1 (s.start c target g.rules a).2.2
        refine ⟨count + 1, _ :: calls, hgrouped.cons hfails hown, ?_, ?_⟩
        · rw [List.take_succ_cons, throughGroups_cons]
          exact hthrough
        · rw [hjournal, hown, List.flatten_cons, List.append_assoc]
      · rw [startByGroups_of_last hfails]
        refine ⟨1, [_], Grouped.stop rest hfails hown, rfl, ?_⟩
        rw [hown, List.flatten_singleton]

/-! ### Two lists of groups in a row -/

/-- Goes on with more groups after groups that failed. -/
def goOnByGroups (more : List RuleGroup) :
    Verdict × Session × Surroundings σ → Verdict × Session × Surroundings σ
  | (.ok false, s, a) => s.startByGroups c target more a
  | (verdict, s, a) => (verdict, s, a)

/-- **Two lists of groups in a row.**  The second is checked if the first fails. -/
theorem startByGroups_append (first second : List RuleGroup) (s : Session) (a : Surroundings σ) :
    s.startByGroups c target (first ++ second) a =
      goOnByGroups c target second (s.startByGroups c target first a) := by
  induction first generalizing s a with
  | nil => rfl
  | cons g rest ih =>
      rw [List.cons_append, startByGroups, startByGroups]
      rcases s.start c target g.rules a with ⟨_ | _ | _, s', a'⟩
      · rfl
      · exact ih s' a'
      · rfl

/-! ### A chain is one group -/

/-- One group comes to what its rules come to. -/
theorem startByGroups_singleton (g : RuleGroup) (s : Session) (a : Surroundings σ) :
    s.startByGroups c target [g] a = s.start c target g.rules a := by
  rw [startByGroups]
  rcases s.start c target g.rules a with ⟨_ | _ | _, s', a'⟩
  · rfl
  · rfl
  · rfl

/-- **A chain is one group**, under any name. -/
theorem verify_chain (d : Definition) (rules : List Rule) (name : String) (s : Session)
    (a : Surroundings σ) :
    s.verify c target { d with rules := .chain rules } a =
      s.verify c target { d with rules := .groups [⟨name, rules⟩] } a :=
  (startByGroups_singleton c target ⟨name, rules⟩ s a).symm

/-! ### The disjunction -/

namespace Grouped

variable {c target} {groups : List RuleGroup} {s : Session} {a : Surroundings σ} {count : Nat}
  {verdict : Verdict} {calls : List (List Call)}

/-- All groups but the last one that was checked failed. -/
theorem failed_before (h : s.Grouped c target groups a count verdict calls) {i : Nat}
    (hcount : count = i + 1) : ∀ j < i, s.groupOutcome c target groups a j = some (.ok false) := by
  intro j hj
  exact h.failed j (by omega)

/-- A check fails if all groups fail. -/
theorem verdict_eq_false_iff (h : s.Grouped c target groups a count verdict calls) :
    verdict = .ok false ↔
      ∀ i < groups.length, s.groupOutcome c target groups a i = some (.ok false) := by
  constructor
  · intro hverdict i hi
    have hall : ¬ count < groups.length := fun hlt => h.stopped hlt hverdict
    rcases h.last with ⟨rfl, _⟩ | ⟨last, hcount, hlast⟩
    · exact absurd hi (Nat.not_lt_zero i)
    · by_cases heq : i = last
      · rw [heq, hlast, hverdict]
      · exact h.failed_before hcount i (by omega)
  · intro hall
    rcases h.last with ⟨_, hnone⟩ | ⟨last, rfl, hlast⟩
    · exact hnone
    · have hfails := hall last h.within
      rw [hlast] at hfails
      exact Option.some.inj hfails

/-- A check comes to anything else if the first group that does not fail comes to that. -/
theorem verdict_eq_iff (h : s.Grouped c target groups a count verdict calls) {v : Verdict}
    (hv : v ≠ .ok false) :
    verdict = v ↔
      ∃ i, (∀ j < i, s.groupOutcome c target groups a j = some (.ok false)) ∧
        s.groupOutcome c target groups a i = some v := by
  constructor
  · rintro rfl
    rcases h.last with ⟨_, hnone⟩ | ⟨last, hcount, hlast⟩
    · exact absurd hnone hv
    · exact ⟨last, h.failed_before hcount, hlast⟩
  · rintro ⟨i, hbefore, hi⟩
    have hlt : i < groups.length := by
      refine Nat.lt_of_not_le fun hge => ?_
      rw [groupOutcome, List.getElem?_eq_none hge] at hi
      cases hi
    rcases h.last with ⟨rfl, _⟩ | ⟨last, hcount, hlast⟩
    · exact absurd hlt (Nat.not_lt_zero i)
    -- the first group that does not fail is the last one that was checked
    · have hsame : i = last := by
        rcases Nat.lt_trichotomy i last with hlt' | heq | hgt
        · have hfails := h.failed_before hcount i hlt'
          rw [hi] at hfails
          exact absurd (Option.some.inj hfails) hv
        · exact heq
        · have hfails := hbefore last hgt
          rw [hlast] at hfails
          exact absurd (Option.some.inj hfails) (h.stopped (by omega))
      rw [hsame, hlast] at hi
      exact Option.some.inj hi

end Grouped

/-- **A check of groups is their disjunction.**  It holds if some group holds once those before it were
checked and failed; it ends with a fault if the first group that does not fail ends with that fault;
and it fails if all groups fail.  The groups up to that first one are checked, and no others: the
session, and what sessions share, are left as by these groups, and the calls are theirs, group after
group.  So two lists of groups in a row are the check of the first, and then of the second if the
first fails; and a chain of rules is one group. -/
theorem startByGroups_eq_disjunction (s : Session) (a : Surroundings σ) (groups : List RuleGroup) :
    let result := s.startByGroups c target groups a
    let outcome := s.groupOutcome c target groups a
    (result.1 = .ok true ↔
        ∃ i, (∀ j < i, outcome j = some (.ok false)) ∧ outcome i = some (.ok true)) ∧
      (∀ f, result.1 = .error f ↔
        ∃ i, (∀ j < i, outcome j = some (.ok false)) ∧ outcome i = some (.error f)) ∧
      (result.1 = .ok false ↔ ∀ i < groups.length, outcome i = some (.ok false)) ∧
      (∃ count calls, s.Grouped c target groups a count result.1 calls ∧
        result.2 = s.throughGroups c target (groups.take count) a ∧
        result.2.2.journal = a.journal ++ calls.flatten) ∧
      (∀ more, s.startByGroups c target (groups ++ more) a = goOnByGroups c target more result) ∧
      ∀ (d : Definition) (rules : List Rule) (name : String),
        s.verify c target { d with rules := .chain rules } a =
          s.verify c target { d with rules := .groups [⟨name, rules⟩] } a := by
  intro result outcome
  obtain ⟨count, calls, hgrouped, hthrough, hjournal⟩ := grouped c target groups s a
  refine ⟨?_, ?_, ?_, ⟨count, calls, hgrouped, hthrough, hjournal⟩, ?_, ?_⟩
  · exact hgrouped.verdict_eq_iff (by simp)
  · intro f
    exact hgrouped.verdict_eq_iff (by simp)
  · exact hgrouped.verdict_eq_false_iff
  · intro more
    exact startByGroups_append c target groups more s a
  · intro d rules name
    exact verify_chain c target d rules name s a

end HttpProbe.Session
