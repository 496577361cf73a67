/-
**Sessions.**

A session checks one target.  It is bound to a definition, whose environment gives its variables their
first values, and it keeps its variables from one check to the next.

Main definitions:

* `Session`, `Session.bind`, `Session.reset` — a session, and what binding and resetting do;
* `Surroundings` — what sessions share: models, collaborators' state, calls;
* `Session.start`, `Session.startByGroups`, `Session.verify` — checking rules, groups of rules, and
  what a definition declares.
-/

import HttpProbe.Session.Run

set_option autoImplicit false
set_option relaxedAutoImplicit false

namespace HttpProbe

/-- What sessions share: the pools of models, the state of the collaborators, and the calls made so
far. -/
structure Surroundings (σ : Type) where
  models : Models
  outside : σ
  journal : List Call

/-- What sessions share, after a run. -/
def Surroundings.ofRun {σ : Type} (r : Run σ) : Surroundings σ :=
  ⟨r.scene.models, r.outside, r.journal⟩

/-- A session: the name of its definition, the environment of the definition if it is bound to one,
and its variables. -/
structure Session where
  definition : String
  env : Option Environment
  vars : Variables

namespace Session

/-- A session that is bound to nothing. -/
def blank : Session := ⟨"", none, .empty⟩

/-- Clears a session part by part. -/
def reset (s : Session) : Session := { s with definition := "", env := none, vars := .empty }

@[simp] theorem reset_eq_blank (s : Session) : s.reset = blank := rfl

instance : Recyclable Session where
  make _ := blank
  reset := reset

/-- Is the session bound to a definition? -/
def isBound (s : Session) : Bool := s.env.isSome

/-- Binds a session to a definition, and gives the variables their first values. -/
def bind (s : Session) (name : String) (env : Environment) : Session :=
  ⟨s.definition ++ name, some env, env.seed s.vars⟩

variable {σ : Type}

/-- The run of a session that is bound to an environment. -/
def run (s : Session) (env : Environment) (a : Surroundings σ) : Run σ :=
  ⟨⟨s.vars, a.models⟩, env, a.outside, a.journal⟩

/-- The session after a run. -/
def after (s : Session) (r : Run σ) : Session :=
  { s with env := some r.env, vars := r.scene.vars }

/-! ### Checking -/

/-- Performs rules; all must hold, and there must be one. -/
def start (c : Collaborators σ) (target : String) (rules : List Rule) (s : Session)
    (a : Surroundings σ) : Verdict × Session × Surroundings σ :=
  match s.env with
  | none => (.error .unbound, s, a)
  | some env =>
    let (verdict, r) := (s.run env a).chain c target rules
    (verdict, s.after r, .ofRun r)

theorem start_of_unbound (c : Collaborators σ) (target : String) (rules : List Rule) {s : Session}
    (h : s.env = none) (a : Surroundings σ) :
    s.start c target rules a = (.error .unbound, s, a) := by
  rw [start, h]

/-- A bound session performs the rules in a run of its own. -/
theorem start_of_env (c : Collaborators σ) (target : String) (rules : List Rule) {s : Session}
    {env : Environment} (h : s.env = some env) (a : Surroundings σ) :
    s.start c target rules a =
      (((s.run env a).chain c target rules).1, s.after ((s.run env a).chain c target rules).2,
        .ofRun ((s.run env a).chain c target rules).2) := by
  rw [start, h]

/-- Performs groups of rules up to the first that holds, or that cannot be performed. -/
def startByGroups (c : Collaborators σ) (target : String) :
    List RuleGroup → Session → Surroundings σ → Verdict × Session × Surroundings σ
  | [], s, a => (.ok false, s, a)
  | g :: rest, s, a =>
    match s.start c target g.rules a with
    | (.ok false, s, a) => startByGroups c target rest s a
    | (verdict, s, a) => (verdict, s, a)

/-- After a group that does not hold the others come. -/
theorem startByGroups_of_next {c : Collaborators σ} {target : String} {g : RuleGroup} {s : Session}
    {a : Surroundings σ} (h : (s.start c target g.rules a).1 = .ok false) (rest : List RuleGroup) :
    s.startByGroups c target (g :: rest) a =
      (s.start c target g.rules a).2.1.startByGroups c target rest
        (s.start c target g.rules a).2.2 := by
  rcases hstart : s.start c target g.rules a with ⟨verdict, s', a'⟩
  rw [hstart] at h
  obtain rfl := h
  rw [startByGroups, hstart]

/-- A group that holds, or cannot be performed, is the last one. -/
theorem startByGroups_of_last {c : Collaborators σ} {target : String} {g : RuleGroup} {s : Session}
    {a : Surroundings σ} (h : (s.start c target g.rules a).1 ≠ .ok false) (rest : List RuleGroup) :
    s.startByGroups c target (g :: rest) a = s.start c target g.rules a := by
  rw [startByGroups]
  generalize s.start c target g.rules a = result at h ⊢
  rcases result with ⟨_ | _ | _, s', a'⟩
  · rfl
  · exact absurd rfl h
  · rfl

/-- Performs what a definition declares. -/
def verify (c : Collaborators σ) (target : String) (d : Definition) (s : Session)
    (a : Surroundings σ) : Verdict × Session × Surroundings σ :=
  match d.rules with
  | .chain rules => s.start c target rules a
  | .groups groups => startByGroups c target groups s a

/-! ### Resetting -/

/-- What becomes of the surroundings when a session loses its variables. -/
def giveBack (s : Session) (a : Surroundings σ) : Surroundings σ :=
  { a with models := a.models.giveBackAll s.vars.values }

/-- Changes the variables of a session. -/
def onScene (s : Session) (a : Surroundings σ) (f : Scene → Except Fault Unit × Scene) :
    Except Fault Unit × Session × Surroundings σ :=
  let (result, scene) := f ⟨s.vars, a.models⟩
  (result, { s with vars := scene.vars }, { a with models := scene.models })

end Session

end HttpProbe
