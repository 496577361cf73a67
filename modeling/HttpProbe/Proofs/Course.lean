/-
**The course of a session.**

A session is lent, its variables are written, rules are performed on it one after the other, by themselves
or in groups, in one check or in several, and in the end it is given back.  Meanwhile other things are done
with other sessions.  This module lists what happens to one session in the course of any operations: each
rule is listed with the run that it is performed in.  The list is read off the runs themselves.

Main definitions:

* `Operation.slot?` — the session that an operation is about;
* `Moment` — a rule about to be performed;
* `Event` — what happens to a session: it is renewed, a variable is written, a rule is performed;
* `Run.moments`, `Session.startMoments`, `Session.groupMoments` — the rules that are performed in a check;
* `Fleet.events`, `Fleet.life` — **what happens to a session** in an operation, and in several.

Main results:

* `Run.moments_of_holds`, `Run.moments_of_fails` — what comes after the first of several rules;
* `Session.groupMoments_of_next`, `Session.groupMoments_of_last` — what comes after the first group.
-/

import HttpProbe.Fleet

set_option autoImplicit false
set_option relaxedAutoImplicit false

namespace HttpProbe

/-- The slot of the session that an operation is about.  A single check has a session of its own. -/
def Operation.slot? : Operation → Option String
  | .acquire slot _ => some slot
  | .lend slot _ _ => some slot
  | .bring slot _ _ => some slot
  | .start slot _ _ => some slot
  | .startByGroups slot _ _ => some slot
  | .verify slot _ _ => some slot
  | .verifyOnce _ _ => none
  | .reset slot => some slot
  | .release slot => some slot

/-- A rule about to be performed: the target of the check, and the run at that moment. -/
structure Moment (σ : Type) where
  target : String
  rule : Rule
  run : Run σ

/-- What happens to a session: its variables are new or gone, its holder writes a variable, or a rule is
performed. -/
inductive Event (σ : Type) where
  | renewed
  | written (name : String)
  | performed (m : Moment σ)

variable {σ : Type}

/-- The variables that the request of a rule is filled from: the bindings of the rule are among them. -/
def Moment.vars (m : Moment σ) : Variables := (m.run.merge m.rule.set).scene.vars

/-! ### The rules of a check -/

variable (c : Collaborators σ) (target : String)

namespace Run

/-- The rules that are performed in a row, up to the first that does not hold. -/
def moments : List Rule → Run σ → List (Moment σ)
  | [], _ => []
  | rule :: rest, run =>
    ⟨target, rule, run⟩ ::
      match run.perform c target rule with
      | (.ok true, run) => moments rest run
      | _ => []

variable {c target} in
/-- After a rule that holds the others come. -/
theorem moments_of_holds {rule : Rule} {run : Run σ}
    (h : (run.perform c target rule).1 = .ok true) (rest : List Rule) :
    run.moments c target (rule :: rest) =
      ⟨target, rule, run⟩ :: (run.perform c target rule).2.moments c target rest := by
  rcases hperform : run.perform c target rule with ⟨verdict, run'⟩
  rw [hperform] at h
  obtain rfl := h
  rw [moments, hperform]

variable {c target} in
/-- A rule that does not hold is the last one. -/
theorem moments_of_fails {rule : Rule} {run : Run σ}
    (h : (run.perform c target rule).1 ≠ .ok true) (rest : List Rule) :
    run.moments c target (rule :: rest) = [⟨target, rule, run⟩] := by
  rw [moments]
  generalize run.perform c target rule = result at h ⊢
  rcases result with ⟨_ | _ | _, run'⟩
  · rfl
  · rfl
  · exact absurd rfl h

theorem moments_singleton (rule : Rule) (run : Run σ) :
    run.moments c target [rule] = [⟨target, rule, run⟩] := by
  by_cases hholds : (run.perform c target rule).1 = .ok true
  · exact moments_of_holds hholds []
  · exact moments_of_fails hholds []

end Run

namespace Session

/-- The rules that are performed in a check. -/
def startMoments (rules : List Rule) (s : Session) (a : Surroundings σ) : List (Moment σ) :=
  match s.env with
  | none => []
  | some env => (s.run env a).moments c target rules

/-- The rules of groups that are performed, up to the first group that holds or cannot be performed. -/
def groupMoments : List RuleGroup → Session → Surroundings σ → List (Moment σ)
  | [], _, _ => []
  | g :: rest, s, a =>
    s.startMoments c target g.rules a ++
      match s.start c target g.rules a with
      | (.ok false, s, a) => groupMoments rest s a
      | _ => []

/-- The rules of a definition that are performed. -/
def verifyMoments (d : Definition) (s : Session) (a : Surroundings σ) : List (Moment σ) :=
  match d.rules with
  | .chain rules => s.startMoments c target rules a
  | .groups groups => groupMoments c target groups s a

variable {c target}

/-- After a group that does not hold the rules of the others come. -/
theorem groupMoments_of_next {g : RuleGroup} {s : Session} {a : Surroundings σ}
    (h : (s.start c target g.rules a).1 = .ok false) (rest : List RuleGroup) :
    s.groupMoments c target (g :: rest) a =
      s.startMoments c target g.rules a ++
        (s.start c target g.rules a).2.1.groupMoments c target rest
          (s.start c target g.rules a).2.2 := by
  rcases hstart : s.start c target g.rules a with ⟨verdict, s', a'⟩
  rw [hstart] at h
  obtain rfl := h
  rw [groupMoments, hstart]

/-- After a group that holds, or cannot be performed, none come. -/
theorem groupMoments_of_last {g : RuleGroup} {s : Session} {a : Surroundings σ}
    (h : (s.start c target g.rules a).1 ≠ .ok false) (rest : List RuleGroup) :
    s.groupMoments c target (g :: rest) a = s.startMoments c target g.rules a := by
  rw [groupMoments]
  generalize s.start c target g.rules a = result at h ⊢
  rcases result with ⟨_ | _ | _, s', a'⟩
  · exact List.append_nil _
  · exact absurd rfl h
  · exact List.append_nil _

end Session

/-! ### What happens to a session -/

namespace Fleet

/-- What happens to the session in a slot. -/
def eventsOn (f : Fleet σ) (slot : String) (events : Session → Surroundings σ → List (Event σ)) :
    List (Event σ) :=
  match f.get? slot with
  | none => []
  | some s => events s f.engine.around

/-- What a change of the variables by the holder comes to. -/
def writing (name : String) (change : Scene → Except Fault Unit × Scene) (s : Session)
    (a : Surroundings σ) : List (Event σ) :=
  match (change ⟨s.vars, a.models⟩).1 with
  | .ok () => [.written name]
  | .error _ => []

/-- What happens in an operation to the session that it is about: the session in a slot, or else the one
that a single check has for itself, which is new before the check and gone after it. -/
def eventsOf (op : Operation) (f : Fleet σ) : List (Event σ) :=
  match op with
  | .acquire _ d =>
    match f.engine.acquire d with
    | (.error _, _) => []
    | (.ok _, _) => [.renewed]
  | .lend slot name o => f.eventsOn slot (writing name fun scene => scene.put name o)
  | .bring slot name o => f.eventsOn slot (writing name fun scene => scene.bring name o)
  | .start slot target rules =>
    f.eventsOn slot fun s a => (s.startMoments c target rules a).map .performed
  | .startByGroups slot target groups =>
    f.eventsOn slot fun s a => (s.groupMoments c target groups a).map .performed
  | .verify slot target d =>
    f.eventsOn slot fun s a => (s.verifyMoments c target d a).map .performed
  | .verifyOnce target d =>
    match f.engine.acquire d with
    | (.error _, _) => []
    | (.ok s, e) =>
      .renewed :: ((s.verifyMoments c target d e.around).map .performed ++ [.renewed])
  | .reset _ => [.renewed]
  | .release _ => [.renewed]

/-- **What happens to a session in an operation**: nothing if the operation is about another one. -/
def events (who : Option String) (op : Operation) (f : Fleet σ) : List (Event σ) :=
  if op.slot? = who then f.eventsOf c op else []

/-- **What happens to a session in operations one after the other.** -/
def life (who : Option String) : List Operation → Fleet σ → List (Event σ)
  | [], _ => []
  | op :: rest, f => f.events c who op ++ life who rest (f.perform c op).2

end Fleet

end HttpProbe
