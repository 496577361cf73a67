/-
**Which definitions are accepted, and what they are spared.**

A draft may have many flaws.  All of them are listed here, in the order in which they are looked
for: first that not one of rules and groups is given but both or neither, then the name, then the
groups and rules in the order of the document.  A draft without flaws becomes a definition with all
its entries, and of one with flaws the first is reported.  What is asked of rules is what performing
them needs: a check of an accepted definition never starts without rules, and performs no rule that
has neither a search nor an expression.

Main definitions:

* `Text.Blank`, `Rule.Checked` — a text of blanks only, and a rule whose response can be judged;
* `Draft.Flaw`, `Draft.flaws` — **what may be wrong with a draft**, and all that is, in order;
* `Draft.Acceptable`, `Draft.Chooses` — what is asked of a draft, and the rules that it gives;
* `Draft.Reads` — what becomes of a draft;
* `Session.verifyTurns` — the lists of rules that a check starts with.

Main results:

* `Draft.flaws_eq_nil_iff` — a draft without flaws is one that has all that is asked;
* `Session.verifyMoments_eq_turns` — the rules of a check are those of the lists that it starts with;
* `Definition.read_of_draft` — **which definitions are accepted, and what they are spared**.
-/

import HttpProbe.Proofs.Drafts
import HttpProbe.Proofs.Moments
import Mathlib.Data.List.TakeWhile

set_option autoImplicit false
set_option relaxedAutoImplicit false

namespace HttpProbe

/-! ### Blank texts -/

namespace Text

/-- A text of blanks only. -/
def Blank (s : String) : Prop := ∀ c ∈ s.toList, isBlank c = true

instance : DecidablePred Blank := fun s => List.decidableBAll (fun c => isBlank c = true) s.toList

theorem dropLeading_forall_iff {p : Char → Bool} {cs : List Char} :
    (∀ c ∈ dropLeading p cs, p c = true) ↔ ∀ c ∈ cs, p c = true := by
  rw [dropLeading]
  induction cs with
  | nil => simp
  | cons c cs ih =>
      cases hc : p c with
      | true => simp [hc, ih]
      | false => simp [hc]

theorem dropTrailing_eq_nil_iff {p : Char → Bool} {cs : List Char} :
    dropTrailing p cs = [] ↔ ∀ c ∈ cs, p c = true := by
  simp [dropTrailing, List.dropWhile_eq_nil_iff]

/-- A text is blank if nothing is left of it when it is trimmed. -/
theorem trim_eq_empty_iff {s : String} : trim s = "" ↔ Blank s := by
  rw [trim, Blank, ← dropLeading_forall_iff, ← dropTrailing_eq_nil_iff, trimChars]
  constructor
  · intro h
    simpa using congrArg String.toList h
  · intro h
    rw [h]

end Text

/-! ### Rules that can be judged -/

namespace Rule

/-- A rule with a search pattern that is not blank, or else an expression that is not. -/
def Checked (r : Rule) : Prop := (∃ s, r.search = some s ∧ ¬ Text.Blank s) ∨ ¬ Text.Blank r.expression

theorem hasCheck_iff {r : Rule} : r.hasCheck = true ↔ r.Checked := by
  have hexpression : r.hasExpression = true ↔ ¬ Text.Blank r.expression := by
    rw [hasExpression, decide_eq_true_eq, ← Text.trim_eq_empty_iff]
  have hpattern : r.pattern?.isSome = true ↔ ∃ s, r.search = some s ∧ ¬ Text.Blank s := by
    rw [pattern?]
    cases r.search with
    | none => simp
    | some s => by_cases hs : Text.trim s = "" <;> simp [hs, ← Text.trim_eq_empty_iff]
  rw [hasCheck, Bool.or_eq_true, hexpression, hpattern, Checked]

instance : DecidablePred Checked := fun r => decidable_of_iff (r.hasCheck = true) hasCheck_iff

end Rule

/-- A definition that lacks nothing, or the fault that says what it lacks. -/
def Definition.checked (d : Definition) : Except Fault Definition :=
  match d.lack? with
  | some m => .error (.definition m)
  | none => .ok d

/-! ### Flaws -/

namespace Draft

/-- What may be wrong with a draft: both rules and groups are given or neither is, the name is blank, there
are no groups, a list of rules is empty, or a rule cannot be judged. -/
inductive Flaw where
  | both
  | neither
  | noName
  | noGroups
  | noRules (group : Option String)
  | noCheck (group : Option String) (index : Nat)
  deriving DecidableEq, Repr

/-- Where rules stand: in a definition, or in one of its groups. -/
def place (name : String) : Option String → String
  | none => "'" ++ name ++ "'"
  | some group => "'" ++ name ++ "' group '" ++ group ++ "'"

/-- The fault that a flaw is reported as. -/
def Flaw.fault (name : String) : Flaw → Fault
  | .both => .document (.condition ("'" ++ name ++ "' declares both rules and groups"))
  | .neither => .document (.condition ("'" ++ name ++ "' declares neither rules nor groups"))
  | .noName => .definition "Definition name is empty"
  | .noGroups => .definition (place name none ++ " has no rule groups")
  | .noRules group => .definition (place name group ++ " has no rules")
  | .noCheck group index =>
    .definition (place name group ++ " rule #" ++ String.ofList (Decimal.natText index) ++
      " has neither search nor expression")

/-- The flaws of a list of rules. -/
def rulesFlaws (group : Option String) (rules : List Rule) : List Flaw :=
  if rules = [] then [.noRules group]
  else (rules.zipIdx.filter fun r => ¬ r.1.Checked).map fun r => .noCheck group r.2

/-- The flaws of groups. -/
def groupsFlaws (groups : List (String × List Rule)) : List Flaw :=
  if groups = [] then [.noGroups] else groups.flatMap fun g => rulesFlaws (some g.1) g.2

/-- The flaw of the choice between rules and groups. -/
def choiceFlaws (t : Draft) : List Flaw :=
  match t.rules, t.groups with
  | some _, some _ => [.both]
  | none, none => [.neither]
  | _, _ => []

/-- **All that is wrong with a draft**, in the order in which it is looked for. -/
def flaws (t : Draft) : List Flaw :=
  t.choiceFlaws ++ (if Text.Blank t.name then [.noName] else []) ++
    (t.rules.map (rulesFlaws none)).getD [] ++ (t.groups.map groupsFlaws).getD []

/-- What is asked of a draft. -/
structure Acceptable (t : Draft) : Prop where
  name : ∃ c ∈ t.name.toList, Text.isBlank c = false
  choice : t.rules.isSome = true ∧ t.groups = none ∨ t.rules = none ∧ t.groups.isSome = true
  chain : ∀ rules, t.rules = some rules → rules ≠ [] ∧ ∀ r ∈ rules, r.Checked
  groups : ∀ groups, t.groups = some groups →
    groups ≠ [] ∧ ∀ g ∈ groups, g.2 ≠ [] ∧ ∀ r ∈ g.2, r.Checked

/-- The rules that a draft gives, if it gives a chain or groups but not both. -/
inductive Chooses (t : Draft) : RuleSet → Prop
  | chain {rules : List Rule} (hrules : t.rules = some rules) (hgroups : t.groups = none) :
      Chooses t (.chain rules)
  | groups {groups : List (String × List Rule)} (hrules : t.rules = none) (hgroups : t.groups = some groups) :
      Chooses t (.groups (groups.map fun g => ⟨g.1, g.2⟩))

/-- **What becomes of a draft**: a definition with all its entries, or the first of its flaws. -/
inductive Reads (t : Draft) : Except Fault Definition → Prop
  | accepted {rules : RuleSet} (h : t.flaws = []) (hrules : t.Chooses rules) :
      Reads t (.ok ⟨t.name, t.set, rules, t.detail⟩)
  | refused {flaw : Flaw} {rest : List Flaw} (h : t.flaws = flaw :: rest) :
      Reads t (.error (flaw.fault t.name))

theorem rulesFlaws_eq_nil_iff {group : Option String} {rules : List Rule} :
    rulesFlaws group rules = [] ↔ rules ≠ [] ∧ ∀ r ∈ rules, r.Checked := by
  by_cases hrules : rules = []
  · simp [rulesFlaws, hrules]
  · rw [rulesFlaws, if_neg hrules, List.map_eq_nil_iff, List.filter_eq_nil_iff]
    simp only [decide_eq_true_eq, not_not]
    refine ⟨fun h => ⟨hrules, fun r hr => ?_⟩, fun h r hr => h.2 r.1 (List.fst_mem_of_mem_zipIdx hr)⟩
    obtain ⟨i, hi⟩ := List.mem_iff_getElem?.1 hr
    exact h (r, i) (List.mem_zipIdx_iff_getElem?.2 hi)

theorem groupsFlaws_eq_nil_iff {groups : List (String × List Rule)} :
    groupsFlaws groups = [] ↔ groups ≠ [] ∧ ∀ g ∈ groups, g.2 ≠ [] ∧ ∀ r ∈ g.2, r.Checked := by
  by_cases hgroups : groups = []
  · simp [groupsFlaws, hgroups]
  · rw [groupsFlaws, if_neg hgroups, List.flatMap_eq_nil_iff]
    simp [rulesFlaws_eq_nil_iff, hgroups]

theorem choiceFlaws_eq_nil_iff {t : Draft} :
    t.choiceFlaws = [] ↔
      t.rules.isSome = true ∧ t.groups = none ∨ t.rules = none ∧ t.groups.isSome = true := by
  cases hrules : t.rules <;> cases hgroups : t.groups <;> simp [choiceFlaws, hrules, hgroups]

theorem nameFlaws_eq_nil_iff {name : String} :
    (if Text.Blank name then [Flaw.noName] else []) = [] ↔ ∃ c ∈ name.toList, Text.isBlank c = false := by
  by_cases hblank : Text.Blank name
  · rw [if_pos hblank]
    simpa [Text.Blank] using hblank
  · rw [if_neg hblank]
    simpa [Text.Blank] using hblank

/-- **A draft without flaws is one that has all that is asked.** -/
theorem flaws_eq_nil_iff {t : Draft} : t.flaws = [] ↔ t.Acceptable := by
  have hchain : (t.rules.map (rulesFlaws none)).getD [] = [] ↔
      ∀ rules, t.rules = some rules → rules ≠ [] ∧ ∀ r ∈ rules, r.Checked := by
    cases t.rules <;> simp [rulesFlaws_eq_nil_iff]
  have hgroups : (t.groups.map groupsFlaws).getD [] = [] ↔ ∀ groups, t.groups = some groups →
      groups ≠ [] ∧ ∀ g ∈ groups, g.2 ≠ [] ∧ ∀ r ∈ g.2, r.Checked := by
    cases t.groups <;> simp [groupsFlaws_eq_nil_iff]
  rw [flaws, List.append_eq_nil_iff, List.append_eq_nil_iff, List.append_eq_nil_iff,
    choiceFlaws_eq_nil_iff, nameFlaws_eq_nil_iff, hchain, hgroups]
  exact ⟨fun ⟨⟨⟨hchoice, hname⟩, hchain⟩, hgroups⟩ => ⟨hname, hchoice, hchain, hgroups⟩,
    fun h => ⟨⟨⟨h.choice, h.name⟩, h.chain⟩, h.groups⟩⟩

/-! ### The first flaw -/

theorem uncheckedFrom_eq (index : Nat) (rules : List Rule) :
    uncheckedFrom index rules =
      ((rules.zipIdx index).filter fun r => ¬ r.1.Checked).head?.map Prod.snd := by
  induction rules generalizing index with
  | nil => rfl
  | cons r rules ih =>
      rw [uncheckedFrom, List.zipIdx_cons]
      by_cases hr : r.Checked
      · rw [if_pos (Rule.hasCheck_iff.2 hr), ih]
        simp [hr]
      · rw [if_neg fun h => hr (Rule.hasCheck_iff.1 h)]
        simp [hr]

/-- The fault of a list of rules is its first flaw. -/
theorem rulesFault?_eq (name : String) (group : Option String) (rules : List Rule) :
    (rulesFault? rules).map (fun f => Fault.definition (f.message (place name group))) =
      (rulesFlaws group rules).head?.map (Flaw.fault name) := by
  cases rules with
  | nil => rfl
  | cons r rules =>
      have hne : r :: rules ≠ [] := List.cons_ne_nil r rules
      rw [rulesFault?, rulesFlaws, if_neg hne, List.isEmpty_cons, uncheckedFrom_eq]
      simp [Option.map_map, Function.comp_def, RulesFault.message, Flaw.fault]

theorem place_some (name group : String) :
    place name (some group) = place name none ++ " group '" ++ group ++ "'" := by
  simp only [place, String.append_assoc]
  rfl

/-- The fault of groups is their first flaw. -/
theorem groupsFault?_eq (name : String) (groups : List (String × List Rule)) :
    (groupsFault? (place name none) (groups.map fun g => ⟨g.1, g.2⟩)).map Fault.definition =
      (groups.flatMap fun g => rulesFlaws (some g.1) g.2).head?.map (Flaw.fault name) := by
  induction groups with
  | nil => rfl
  | cons g groups ih =>
      have hfirst := rulesFault?_eq name (some g.1) g.2
      rw [List.map_cons, groupsFault?, List.flatMap_cons, List.head?_append, ← place_some]
      cases hfault : rulesFault? g.2 with
      | none =>
          rw [hfault] at hfirst
          have hnone : (rulesFlaws (some g.1) g.2).head? = none := Option.map_eq_none_iff.1 hfirst.symm
          rw [hnone, Option.none_or]
          exact ih
      | some f =>
          rw [hfault] at hfirst
          obtain ⟨flaw, hflaw, hsame⟩ := Option.map_eq_some_iff.1 hfirst.symm
          rw [hflaw, Option.some_or, Option.map_some, Option.map_some, hsame]

/-- What a definition lacks is the first flaw of its draft. -/
theorem lack?_eq {t : Draft} {rules : RuleSet} (h : t.Chooses rules) :
    (Definition.lack? ⟨t.name, t.set, rules, t.detail⟩).map Fault.definition =
      t.flaws.head?.map (Flaw.fault t.name) := by
  by_cases hname : Text.Blank t.name
  · have hflaws : t.flaws.head? = some .noName := by
      cases h with
      | chain hrules hgroups => simp [flaws, choiceFlaws, hrules, hgroups, hname]
      | groups hrules hgroups => simp [flaws, choiceFlaws, hrules, hgroups, hname]
    rw [hflaws, Definition.lack?, if_pos (Text.trim_eq_empty_iff.2 hname)]
    rfl
  · rw [Definition.lack?, if_neg fun htrim => hname (Text.trim_eq_empty_iff.1 htrim)]
    cases h with
    | @chain rules hrules hgroups =>
        have hflaws : t.flaws = rulesFlaws none rules := by
          simp [flaws, choiceFlaws, hrules, hgroups, hname]
        rw [hflaws, ← rulesFault?_eq, Option.map_map]
        rfl
    | @groups groups hrules hgroups =>
        have hflaws : t.flaws = groupsFlaws groups := by
          simp [flaws, choiceFlaws, hrules, hgroups, hname]
        cases groups with
        | nil =>
            rw [hflaws]
            rfl
        | cons g groups =>
            rw [hflaws, groupsFlaws, if_neg (List.cons_ne_nil g groups), ← groupsFault?_eq]
            rfl

/-- What becomes of a draft that gives rules. -/
theorem reads_of_chooses {t : Draft} {rules : RuleSet} (h : t.Chooses rules) :
    t.Reads (Definition.checked ⟨t.name, t.set, rules, t.detail⟩) := by
  have hlack := lack?_eq h
  rw [Definition.checked]
  cases hflaws : t.flaws with
  | nil =>
      rw [hflaws, List.head?_nil, Option.map_none, Option.map_eq_none_iff] at hlack
      rw [hlack]
      exact .accepted hflaws h
  | cons flaw rest =>
      rw [hflaws, List.head?_cons, Option.map_some] at hlack
      obtain ⟨m, hm, hfault⟩ := Option.map_eq_some_iff.1 hlack
      have hrefused : t.Reads (.error (flaw.fault t.name)) := .refused hflaws
      rw [hm]
      rwa [← hfault] at hrefused

end Draft

namespace Definition

theorem read_of_decode {text : String} {d : Definition}
    (h : Yaml.Decoder.decode ofNode text = .ok d) :
    read text = d.checked := by
  have hdecoded : Yaml.Decoder.read ofNode text = .ok d := by rw [Yaml.Decoder.read, h]
  simp only [read, hdecoded, validate, checked, bind, Except.bind]
  cases d.lack? <;> rfl

theorem read_of_undecoded {text : String} {f : DocumentFault}
    (h : Yaml.Decoder.decode ofNode text = .error f) : read text = .error (.document f) := by
  have hundecoded : Yaml.Decoder.read ofNode text = .error (.document f) := by rw [Yaml.Decoder.read, h]
  rw [read, hundecoded]
  rfl

/-- **What becomes of the draft of a text.** -/
theorem reads_of_draft {text : String} {t : Draft}
    (h : Yaml.Decoder.decode Draft.ofNode text = .ok t) : t.Reads (read text) := by
  have hdecode := decode_of_draft h
  cases hrules : t.rules with
  | none =>
      cases hgroups : t.groups with
      | none =>
          have hflaws : t.flaws.head? = some .neither := by
            simp [Draft.flaws, Draft.choiceFlaws, hrules, hgroups]
          obtain ⟨rest, hrest⟩ := List.head?_eq_some_iff.1 hflaws
          rw [hrules, hgroups] at hdecode
          rw [read_of_undecoded hdecode]
          exact .refused hrest
      | some groups =>
          rw [hrules, hgroups] at hdecode
          rw [read_of_decode hdecode]
          exact Draft.reads_of_chooses (.groups hrules hgroups)
  | some rules =>
      cases hgroups : t.groups with
      | none =>
          rw [hrules, hgroups] at hdecode
          rw [read_of_decode hdecode]
          exact Draft.reads_of_chooses (.chain hrules hgroups)
      | some groups =>
          have hflaws : t.flaws.head? = some .both := by
            simp [Draft.flaws, Draft.choiceFlaws, hrules, hgroups]
          obtain ⟨rest, hrest⟩ := List.head?_eq_some_iff.1 hflaws
          rw [hrules, hgroups] at hdecode
          rw [read_of_undecoded hdecode]
          exact .refused hrest

end Definition

/-! ### The lists that a check starts with -/

/-- A list of rules that a check starts with, and the session and its surroundings at that moment. -/
structure Turn (σ : Type) where
  rules : List Rule
  session : Session
  around : Surroundings σ

namespace Turn

variable {σ : Type} (c : Collaborators σ) (target : String)

/-- What a check of the list comes to. -/
def outcome (r : Turn σ) : Verdict × Session × Surroundings σ :=
  r.session.start c target r.rules r.around

/-- The rules that are performed in a check of the list. -/
def moments (r : Turn σ) : List (Moment σ) := r.session.startMoments c target r.rules r.around

end Turn

/-- The lists of rules of a chain or of groups. -/
def RuleSet.lists : RuleSet → List (List Rule)
  | .chain rules => [rules]
  | .groups gs => gs.map RuleGroup.rules

namespace Session

variable {σ : Type} (c : Collaborators σ) (target : String)

/-- The groups that a check starts with, up to the first that holds or cannot be performed. -/
def groupTurns : List RuleGroup → Session → Surroundings σ → List (Turn σ)
  | [], _, _ => []
  | g :: rest, s, a =>
    ⟨g.rules, s, a⟩ ::
      match s.start c target g.rules a with
      | (.ok false, s, a) => groupTurns rest s a
      | _ => []

/-- **The lists of rules that a check of a definition starts with.** -/
def verifyTurns (d : Definition) (s : Session) (a : Surroundings σ) : List (Turn σ) :=
  match d.rules with
  | .chain rules => [⟨rules, s, a⟩]
  | .groups groups => groupTurns c target groups s a

variable {c target}

/-- After a group that does not hold the others come. -/
theorem groupTurns_of_next {g : RuleGroup} {s : Session} {a : Surroundings σ}
    (h : (s.start c target g.rules a).1 = .ok false) (rest : List RuleGroup) :
    s.groupTurns c target (g :: rest) a =
      ⟨g.rules, s, a⟩ :: (s.start c target g.rules a).2.1.groupTurns c target rest
        (s.start c target g.rules a).2.2 := by
  rcases hstart : s.start c target g.rules a with ⟨verdict, s', a'⟩
  rw [hstart] at h
  obtain rfl := h
  rw [groupTurns, hstart]

/-- After a group that holds, or cannot be performed, none come. -/
theorem groupTurns_of_last {g : RuleGroup} {s : Session} {a : Surroundings σ}
    (h : (s.start c target g.rules a).1 ≠ .ok false) (rest : List RuleGroup) :
    s.groupTurns c target (g :: rest) a = [⟨g.rules, s, a⟩] := by
  rw [groupTurns]
  generalize s.start c target g.rules a = result at h ⊢
  rcases result with ⟨_ | _ | _, s', a'⟩
  · rfl
  · exact absurd rfl h
  · rfl

theorem groupMoments_eq_turns (groups : List RuleGroup) (s : Session) (a : Surroundings σ) :
    s.groupMoments c target groups a =
      (s.groupTurns c target groups a).flatMap (Turn.moments c target) := by
  induction groups generalizing s a with
  | nil => rfl
  | cons g groups ih =>
      by_cases hnext : (s.start c target g.rules a).1 = .ok false
      · rw [groupMoments_of_next hnext, groupTurns_of_next hnext, ih, List.flatMap_cons]
        rfl
      · rw [groupMoments_of_last hnext, groupTurns_of_last hnext, List.flatMap_singleton]
        rfl

/-- **The rules of a check are those of the lists that it starts with.** -/
theorem verifyMoments_eq_turns (d : Definition) (s : Session) (a : Surroundings σ) :
    s.verifyMoments c target d a = (s.verifyTurns c target d a).flatMap (Turn.moments c target) := by
  rw [verifyMoments, verifyTurns]
  cases d.rules with
  | chain rules =>
      rw [List.flatMap_singleton]
      rfl
  | groups groups => exact groupMoments_eq_turns groups s a

theorem groupTurns_rules (groups : List RuleGroup) (s : Session) (a : Surroundings σ) :
    (s.groupTurns c target groups a).map Turn.rules <+: groups.map RuleGroup.rules := by
  induction groups generalizing s a with
  | nil => exact List.prefix_rfl
  | cons g groups ih =>
      rw [List.map_cons]
      by_cases hnext : (s.start c target g.rules a).1 = .ok false
      · rw [groupTurns_of_next hnext, List.map_cons]
        exact List.prefix_cons_inj _ |>.2 (ih _ _)
      · rw [groupTurns_of_last hnext, List.map_singleton]
        exact ⟨groups.map RuleGroup.rules, rfl⟩

/-- A check starts with the lists of the definition, in their order. -/
theorem verifyTurns_rules (d : Definition) (s : Session) (a : Surroundings σ) :
    (s.verifyTurns c target d a).map Turn.rules <+: d.rules.lists := by
  rw [verifyTurns]
  cases d.rules with
  | chain rules => exact List.prefix_rfl
  | groups groups => exact groupTurns_rules groups s a

/-- What a check comes to is what the last of its lists comes to. -/
theorem startByGroups_eq_turns (groups : List RuleGroup) (s : Session) (a : Surroundings σ) :
    s.startByGroups c target groups a =
      ((s.groupTurns c target groups a).getLast?.map (Turn.outcome c target)).getD (.ok false, s, a) := by
  induction groups generalizing s a with
  | nil => rfl
  | cons g groups ih =>
      by_cases hnext : (s.start c target g.rules a).1 = .ok false
      · rw [startByGroups_of_next hnext, groupTurns_of_next hnext, ih, List.getLast?_cons]
        have hfirst : s.start c target g.rules a =
            (.ok false, (s.start c target g.rules a).2.1, (s.start c target g.rules a).2.2) := by
          rw [← hnext]
        generalize (s.start c target g.rules a).2.1.groupTurns c target groups
          (s.start c target g.rules a).2.2 = turns
        cases hlast : turns.getLast? with
        | none => exact hfirst.symm
        | some r => rfl
      · rw [startByGroups_of_last hnext, groupTurns_of_last hnext]
        rfl

/-- **What a check comes to is what the last of its lists comes to.** -/
theorem verify_eq_turns (d : Definition) (s : Session) (a : Surroundings σ) :
    s.verify c target d a =
      ((s.verifyTurns c target d a).getLast?.map (Turn.outcome c target)).getD (.ok false, s, a) := by
  rw [verify, verifyTurns]
  cases d.rules with
  | chain rules => rfl
  | groups groups => exact startByGroups_eq_turns groups s a

end Session

theorem Run.rule_mem_of_mem_moments {σ : Type} {c : Collaborators σ} {target : String} {rules : List Rule}
    {run : Run σ} {m : Moment σ} (h : m ∈ run.moments c target rules) : m.rule ∈ rules := by
  induction rules generalizing run with
  | nil => cases h
  | cons rule rules ih =>
      by_cases hholds : (run.perform c target rule).1 = .ok true
      · rw [moments_of_holds hholds] at h
        rcases List.mem_cons.1 h with rfl | hrest
        · exact List.mem_cons_self
        · exact List.mem_cons_of_mem _ (ih hrest)
      · rw [moments_of_fails hholds, List.mem_singleton] at h
        exact h ▸ List.mem_cons_self

/-- A rule that is performed is one of a list of the definition. -/
theorem Session.exists_of_mem_verifyMoments {σ : Type} {c : Collaborators σ} {target : String}
    {d : Definition} {s : Session} {a : Surroundings σ} {m : Moment σ}
    (h : m ∈ s.verifyMoments c target d a) : ∃ rules ∈ d.rules.lists, m.rule ∈ rules := by
  rw [verifyMoments_eq_turns, List.mem_flatMap] at h
  obtain ⟨turn, hturn, hm⟩ := h
  refine ⟨turn.rules, (verifyTurns_rules d s a).subset (List.mem_map_of_mem hturn), ?_⟩
  rw [Turn.moments, startMoments] at hm
  cases henv : turn.session.env with
  | none =>
      rw [henv] at hm
      cases hm
  | some env =>
      rw [henv] at hm
      exact Run.rule_mem_of_mem_moments hm

/-! ### Accepted definitions -/

/-- The lists of rules of an acceptable draft have rules, and each of them can be judged. -/
theorem Draft.Acceptable.lists {t : Draft} (h : t.Acceptable) {rules : RuleSet} (hrules : t.Chooses rules) :
    ∀ l ∈ rules.lists, l ≠ [] ∧ ∀ r ∈ l, r.Checked := by
  cases hrules with
  | @chain rules hchain _ =>
      intro l hl
      rw [List.mem_singleton.1 hl]
      exact h.chain rules hchain
  | @groups groups _ hgroups =>
      intro l hl
      obtain ⟨group, hgroup, rfl⟩ := List.mem_map.1 hl
      obtain ⟨g, hg, rfl⟩ := List.mem_map.1 hgroup
      exact (h.groups groups hgroups).2 g hg

/-- **Which definitions are accepted, and what they are spared.**  If the fields of a document decode, what
comes out are the entries of the document; a definition is accepted exactly if it has all that is asked, and
otherwise its first flaw is reported.  A check of an accepted one starts with no empty list of rules, and
performs no rule that cannot be judged. -/
theorem Definition.read_of_draft {text : String} {t : Draft}
    (h : Yaml.Decoder.decode Draft.ofNode text = .ok t) :
    (∃ doc, Yaml.Document.read text.toList = some doc ∧ t.Written doc.anchored doc.root) ∧
    ((∃ d, Definition.read text = .ok d) ↔ t.Acceptable) ∧
    t.Reads (Definition.read text) ∧
    ∀ d, Definition.read text = .ok d →
      ∀ (σ : Type) (c : Collaborators σ) (target : String) (s : Session) (a : Surroundings σ),
        (∀ turn ∈ s.verifyTurns c target d a, turn.rules ≠ []) ∧
        ∀ m ∈ s.verifyMoments c target d a, m.rule.Checked := by
  have hreads := Definition.reads_of_draft h
  refine ⟨?_, ?_, hreads, ?_⟩
  · obtain ⟨doc, hdoc, -, hyields⟩ := Yaml.Decoder.yields_of_decode h
    exact ⟨doc, hdoc, Draft.written_of_yields hyields⟩
  · rw [← Draft.flaws_eq_nil_iff]
    generalize Definition.read text = result at hreads
    cases hreads with
    | accepted hflaws _ => exact ⟨fun _ => hflaws, fun _ => ⟨_, rfl⟩⟩
    | refused hflaws =>
        refine ⟨fun ⟨d, hd⟩ => ?_, fun hnone => ?_⟩
        · cases hd
        · rw [hflaws] at hnone
          cases hnone
  · intro d hd σ c target s a
    have hlists : ∀ l ∈ d.rules.lists, l ≠ [] ∧ ∀ r ∈ l, r.Checked := by
      rw [hd] at hreads
      cases hreads with
      | accepted hflaws hrules => exact (Draft.flaws_eq_nil_iff.1 hflaws).lists hrules
    constructor
    · intro turn hturn
      exact (hlists _ ((Session.verifyTurns_rules d s a).subset (List.mem_map_of_mem hturn))).1
    · intro m hm
      obtain ⟨rules, hrules, hrule⟩ := Session.exists_of_mem_verifyMoments hm
      exact (hlists rules hrules).2 _ hrule

/-- A document with repeated keys, among its variables, its headers and its groups. -/
def twoGroups : String :=
  "name: demo\nset: \x7ba: b, a: c\x7d\ngroups:\n  g: [\x7bsearch: x\x7d]\n" ++
    "  g: [\x7bheaders: \x7bh: v, h: w\x7d, expression: y\x7d]\n"

/-- The draft of this document. -/
def twoGroupsDraft : Draft where
  name := "demo"
  set := [("a", "b"), ("a", "c")]
  rules := none
  groups := some [("g", [{ Rule.default with search := some "x" }]),
    ("g", [{ Rule.default with headers := [("h", "v"), ("h", "w")], expression := "y" }])]
  detail := Detail.blank

theorem Definition.read_of_two_groups :
    Yaml.Decoder.decode Draft.ofNode twoGroups = .ok twoGroupsDraft ∧
    (∃ doc, Yaml.Document.read twoGroups.toList = some doc ∧
      twoGroupsDraft.Written doc.anchored doc.root) ∧
    ((∃ d, Definition.read twoGroups = .ok d) ↔ twoGroupsDraft.Acceptable) ∧
    twoGroupsDraft.Reads (Definition.read twoGroups) ∧
    ∀ d, Definition.read twoGroups = .ok d →
      ∀ (σ : Type) (c : Collaborators σ) (target : String) (s : Session) (a : Surroundings σ),
        (∀ turn ∈ s.verifyTurns c target d a, turn.rules ≠ []) ∧
        ∀ m ∈ s.verifyMoments c target d a, m.rule.Checked := by
  have hdecodes : (Yaml.Decoder.decode Draft.ofNode twoGroups).toOption = some twoGroupsDraft := by
    decide +kernel
  have hdraft := Yaml.eq_ok_of_toOption hdecodes
  exact ⟨hdraft, Definition.read_of_draft hdraft⟩

end HttpProbe
