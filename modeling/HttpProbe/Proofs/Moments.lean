/-
**The life of a session.**

What happens to one session in the course of any operations is a list: it is renewed, a variable is written,
a rule is performed.  The variables go through it: what stands at one moment is what stood at the moment
before, but for what was written in between.

Main definitions:

* `Moment.captured`, `Moment.exchange?` — what the search of a rule captures, and the exchange of the rule;
* `Threaded` — variables go through events;
* `Event.Spares` — an event does not write a variable;
* `Collaborators.Searches` — collaborators that search with regular expressions.

Main results:

* `Run.exchanges_eq_moments` — no exchange is missing from the list;
* `Fleet.lives_life` — **the variables of a session go through its life**;
* `Threaded.get?_of_spares` — a variable that is not written in between is what it was.
-/

import HttpProbe.Proofs.Isolation
import HttpProbe.Proofs.Writing

set_option autoImplicit false
set_option relaxedAutoImplicit false

namespace HttpProbe

variable {σ : Type}

namespace Moment

/-- What the search of the rule captures. -/
def captured (c : Collaborators σ) (m : Moment σ) : List (String × String) :=
  m.run.captured c m.target m.rule

/-- The exchange of the rule, unless its request is malformed. -/
def exchange? (m : Moment σ) : Option Exchange := m.run.exchange? m.target m.rule

end Moment

/-! ### The rules of a check -/

variable (c : Collaborators σ) (target : String)

namespace Run

/-- **No exchange is missing**: the exchanges of a check are those of its rules. -/
theorem exchanges_eq_moments (rules : List Rule) (run : Run σ) :
    run.exchanges c target rules = (run.moments c target rules).filterMap Moment.exchange? := by
  have hrule : ∀ (rule : Rule) (run : Run σ) (rest : List (Moment σ)),
      (⟨target, rule, run⟩ :: rest).filterMap Moment.exchange? =
        (run.exchange? target rule).toList ++ rest.filterMap Moment.exchange? := by
    intro rule run rest
    rw [List.filterMap_cons, Moment.exchange?]
    cases run.exchange? target rule <;> rfl
  induction rules generalizing run with
  | nil => rfl
  | cons rule rest ih =>
      by_cases hholds : (run.perform c target rule).1 = .ok true
      · rw [exchanges_of_holds hholds, moments_of_holds hholds, hrule, ih]
      · rw [exchanges_of_fails hholds, moments_of_fails hholds, hrule]
        exact (List.append_nil _).symm

end Run

/-! ### The life of a session -/

namespace Fleet

/-- The variables of the session in a slot; a slot that is not taken, and a single check that is not under
way, has none. -/
def varsOf (who : Option String) (f : Fleet σ) : Variables :=
  match who.bind f.get? with
  | some s => s.vars
  | none => .empty

variable {c}

/-- A check of the session in a slot performs its rules. -/
theorem events_start {f : Fleet σ} {slot : String} {s : Session} (h : f.get? slot = some s)
    (target : String) (rules : List Rule) :
    f.events c (some slot) (.start slot target rules) =
      (s.startMoments c target rules f.engine.around).map .performed := by
  have hslot : (Operation.start slot target rules).slot? = some slot := rfl
  rw [events, if_pos hslot, eventsOf, eventsOn, h]

/-- After a check the session in the slot is the one that the check left. -/
theorem get?_start {f : Fleet σ} {slot : String} {s : Session} (h : f.get? slot = some s)
    (target : String) (rules : List Rule) :
    let result := s.start c target rules f.engine.around
    (f.perform c (.start slot target rules)).2.get? slot = some result.2.1 ∧
      (f.perform c (.start slot target rules)).2.engine.around = result.2.2 := by
  intro result
  rw [perform, check, onSlot, h]
  refine ⟨?_, rfl⟩
  rw [get?_replace, if_pos rfl]
  exact congrArg (Option.map fun _ => result.2.1) h

end Fleet

/-! ### Variables go through events -/

/-- **Variables go through events.**  A rule writes its bindings and what its search captures, and the
exchange is gone after it. -/
inductive Threaded : Variables → List (Event σ) → Variables → Prop
  | nil {vars : Variables} : Threaded vars [] vars
  | renewed {vars fresh after : Variables} {events : List (Event σ)}
      (h : Threaded fresh events after) : Threaded vars (.renewed :: events) after
  | written {vars after : Variables} {name : String} (v : Value) {events : List (Event σ)}
      (h : Threaded (vars.insert name v) events after) :
      Threaded vars (.written name :: events) after
  | performed {m : Moment σ} {vars after : Variables} {events : List (Event σ)}
      (hvars : m.run.scene.vars = vars)
      (h : Threaded (vars.afterRule m.rule (m.captured c)) events after) :
      Threaded vars (.performed m :: events) after

/-- The event does not write the variable: a rule neither binds nor captures it. -/
def Event.Spares (k : String) : Event σ → Prop
  | .renewed => False
  | .written name => name ≠ k
  | .performed m => k ∉ m.rule.set.map Prod.fst ∧ k ∉ (m.captured c).map Prod.fst

namespace Threaded

variable {c} {vars mid after : Variables} {events more : List (Event σ)}

theorem append (h : Threaded c vars events mid) (hmore : Threaded c mid more after) :
    Threaded c vars (events ++ more) after := by
  induction h with
  | nil => exact hmore
  | renewed _ ih => exact .renewed (ih hmore)
  | written v _ ih => exact .written v (ih hmore)
  | performed hvars _ ih => exact .performed hvars (ih hmore)

/-- Variables that go through events in a row go through the first of them, and then through the others. -/
theorem split (h : Threaded c vars (events ++ more) after) :
    ∃ mid, Threaded c vars events mid ∧ Threaded c mid more after := by
  induction events generalizing vars with
  | nil => exact ⟨vars, .nil, h⟩
  | cons e events ih =>
      cases h with
      | renewed h =>
          obtain ⟨mid, hmid, hmore⟩ := ih h
          exact ⟨mid, .renewed hmid, hmore⟩
      | written v h =>
          obtain ⟨mid, hmid, hmore⟩ := ih h
          exact ⟨mid, .written v hmid, hmore⟩
      | performed hvars h =>
          obtain ⟨mid, hmid, hmore⟩ := ih h
          exact ⟨mid, .performed hvars hmid, hmore⟩

/-- **A variable that is not written in between is what it was**, unless it is part of the exchange. -/
theorem get?_of_spares (h : Threaded c vars events after) {k : String}
    (hk : k ≠ Variables.requestName ∧ k ≠ Variables.responseName)
    (hspares : ∀ e ∈ events, e.Spares c k) : after.get? k = vars.get? k := by
  induction h with
  | nil => rfl
  | renewed _ _ => exact (hspares _ List.mem_cons_self).elim
  | @written vars after name v events _ ih =>
      have hname : name ≠ k := hspares _ List.mem_cons_self
      rw [ih fun e he => hspares e (List.mem_cons_of_mem _ he), Variables.get?_insert,
        if_neg hname.symm]
  | @performed m vars after events _ _ ih =>
      obtain ⟨hbound, hcaptured⟩ := hspares _ List.mem_cons_self
      rw [ih fun e he => hspares e (List.mem_cons_of_mem _ he)]
      generalize m.captured c = captured at hcaptured ⊢
      have hnot : k ∉ Variables.writtenBy (m.rule, captured) := by
        rw [Variables.writtenBy, List.mem_append]
        exact not_or.2 ⟨hbound, hcaptured⟩
      exact Variables.get?_afterRule vars hk hnot

end Threaded

/-! ### The variables of a session go through its life -/

variable {τ : Type} {c : Collaborators (Outside τ)}

/-- Collaborators that search with regular expressions: a rule writes its bindings and what its search
captures, and nothing wrong is kept for searching. -/
def Collaborators.Searches (c : Collaborators (Outside τ)) : Prop :=
  ∀ ⦃run : Run (Outside τ)⦄, Extraction.Faithful run.outside.patterns → ∀ (target : String) (rule : Rule),
    (run.perform c target rule).2.scene.vars =
        run.scene.vars.afterRule rule (run.captured c target rule) ∧
      Extraction.Faithful (run.perform c target rule).2.outside.patterns

theorem Collaborators.searches_searching
    (exchange : Http.Request → Bool → τ → Except TransportFault Http.RawResponse × τ)
    (evaluate : Environment → String → Variables → τ → Chance →
      Except EvalFault Bool × Environment × τ × Chance) :
    (searching exchange evaluate).Searches := by
  intro run h target rule
  obtain ⟨hvars, _, hpatterns⟩ := Run.vars_perform exchange evaluate h target rule
  exact ⟨hvars, hpatterns⟩

/-- The variables of a run go through the rules that are performed. -/
theorem Run.threaded_moments (hc : c.Searches) {run : Run (Outside τ)}
    (h : Extraction.Faithful run.outside.patterns) (target : String) (verified : Bool)
    (rules : List Rule) :
    Threaded c run.scene.vars ((run.moments c target rules).map .performed)
        (run.chainFrom c target verified rules).2.scene.vars ∧
      Extraction.Faithful (run.chainFrom c target verified rules).2.outside.patterns := by
  induction rules generalizing verified run with
  | nil => exact ⟨.nil, h⟩
  | cons rule rest ih =>
      obtain ⟨hvars, hpatterns⟩ := hc h target rule
      by_cases hholds : (run.perform c target rule).1 = .ok true
      · rw [chainFrom_of_holds hholds, moments_of_holds hholds]
        obtain ⟨hrest, hkept⟩ := ih hpatterns true
        rw [hvars] at hrest
        exact ⟨.performed rfl hrest, hkept⟩
      · rw [chainFrom_of_fails hholds, moments_of_fails hholds, hvars]
        exact ⟨.performed rfl .nil, hpatterns⟩

namespace Session

/-- The variables of a session go through events, and nothing wrong is kept for searching after them. -/
structure Lives (c : Collaborators (Outside τ)) (s : Session) (events : List (Event (Outside τ)))
    (after : Session × Surroundings (Outside τ)) : Prop where
  vars : Threaded c s.vars events after.1.vars
  patterns : Extraction.Faithful after.2.outside.patterns

variable {a : Surroundings (Outside τ)}

theorem lives_start (hc : c.Searches) (s : Session) (h : Extraction.Faithful a.outside.patterns)
    (target : String) (rules : List Rule) :
    s.Lives c ((s.startMoments c target rules a).map .performed) (s.start c target rules a).2 := by
  rw [startMoments]
  cases henv : s.env with
  | none =>
      rw [start_of_unbound c target rules henv]
      exact ⟨.nil, h⟩
  | some env =>
      rw [start_of_env c target rules henv]
      have hrun : Extraction.Faithful (s.run env a).outside.patterns := h
      obtain ⟨hvars, hkept⟩ := Run.threaded_moments hc hrun target false rules
      exact ⟨hvars, hkept⟩

theorem lives_startByGroups (hc : c.Searches) (s : Session)
    (h : Extraction.Faithful a.outside.patterns) (target : String) (groups : List RuleGroup) :
    s.Lives c ((s.groupMoments c target groups a).map .performed)
      (s.startByGroups c target groups a).2 := by
  induction groups generalizing s a with
  | nil => exact ⟨.nil, h⟩
  | cons g rest ih =>
      have hgroup := lives_start hc s h target g.rules
      by_cases hnext : (s.start c target g.rules a).1 = .ok false
      · have hrest := ih (s.start c target g.rules a).2.1 hgroup.patterns
        rw [startByGroups_of_next hnext, groupMoments_of_next hnext, List.map_append]
        exact ⟨hgroup.vars.append hrest.vars, hrest.patterns⟩
      · rw [startByGroups_of_last hnext, groupMoments_of_last hnext]
        exact hgroup

theorem lives_verify (hc : c.Searches) (s : Session) (h : Extraction.Faithful a.outside.patterns)
    (target : String) (d : Definition) :
    s.Lives c ((s.verifyMoments c target d a).map .performed) (s.verify c target d a).2 := by
  rw [verify, verifyMoments]
  cases d.rules with
  | chain rules => exact lives_start hc s h target rules
  | groups groups => exact lives_startByGroups hc s h target groups

/-- A holder who writes a variable writes no other one. -/
theorem lives_onScene (s : Session) (h : Extraction.Faithful a.outside.patterns) {name : String}
    {change : Scene → Except Fault Unit × Scene}
    (hchange : ∀ scene, match (change scene).1 with
      | .ok () => ∃ v, (change scene).2.vars = scene.vars.insert name v
      | .error _ => (change scene).2.vars = scene.vars) :
    s.Lives c (Fleet.writing name change s a) (s.onScene a change).2 := by
  refine ⟨?_, h⟩
  change Threaded c s.vars (Fleet.writing name change s a) (change ⟨s.vars, a.models⟩).2.vars
  have hscene := hchange ⟨s.vars, a.models⟩
  rw [Fleet.writing]
  generalize change ⟨s.vars, a.models⟩ = result at hscene
  rcases result with ⟨f | ⟨⟩, scene⟩
  · have hvars : scene.vars = s.vars := hscene
    exact hvars ▸ .nil
  · obtain ⟨v, hvars⟩ := hscene
    exact .written v (hvars ▸ .nil)

end Session

namespace Fleet

variable {f : Fleet (Outside τ)}

/-- The variables of a session go through events while operations are performed, and nothing wrong is kept
for searching after them. -/
structure Lives (c : Collaborators (Outside τ)) (who : Option String) (f : Fleet (Outside τ))
    (events : List (Event (Outside τ))) (after : Fleet (Outside τ)) : Prop where
  vars : Threaded c (f.varsOf who) events (after.varsOf who)
  patterns : Extraction.Faithful after.engine.around.outside.patterns

theorem outside_acquire (e : Engine σ) (d : Definition) :
    (e.acquire d).2.around.outside = e.around.outside := by
  simp only [Engine.acquire]
  cases Environment.compile e.chance.left d.set <;> rfl

theorem outside_vacate (f : Fleet σ) (slot : String) :
    (f.vacate slot).engine.around.outside = f.engine.around.outside := by
  rw [vacate]
  cases f.get? slot <;> rfl

/-- A session goes through what a change of it comes to. -/
theorem lives_onSlot (h : Extraction.Faithful f.engine.around.outside.patterns) (slot : String)
    {change : Session → Surroundings (Outside τ) → Report × Session × Surroundings (Outside τ)}
    {events : Session → Surroundings (Outside τ) → List (Event (Outside τ))}
    (hchange : ∀ (s : Session) (a : Surroundings (Outside τ)),
      Extraction.Faithful a.outside.patterns → s.Lives c (events s a) (change s a).2) :
    f.Lives c (some slot) (f.eventsOn slot events) (f.onSlot slot change).2 := by
  rw [eventsOn, onSlot]
  cases hs : f.get? slot with
  | none => exact ⟨.nil, h⟩
  | some s =>
      obtain ⟨hvars, hpatterns⟩ := hchange s f.engine.around h
      dsimp only
      generalize change s f.engine.around = result at hvars hpatterns ⊢
      obtain ⟨report, t, a⟩ := result
      refine ⟨?_, hpatterns⟩
      have hafter : (replace { f with engine := { f.engine with around := a } } slot t).get? slot =
          some t := by
        rw [get?_replace, if_pos rfl]
        exact congrArg (Option.map fun _ => t) hs
      simp only [varsOf, Option.bind_some, hs, hafter]
      exact hvars

/-- A session goes through a check. -/
theorem lives_check (h : Extraction.Faithful f.engine.around.outside.patterns) (slot : String)
    {check : Session → Surroundings (Outside τ) → Verdict × Session × Surroundings (Outside τ)}
    {events : Session → Surroundings (Outside τ) → List (Event (Outside τ))}
    (hcheck : ∀ (s : Session) (a : Surroundings (Outside τ)),
      Extraction.Faithful a.outside.patterns → s.Lives c (events s a) (check s a).2) :
    f.Lives c (some slot) (f.eventsOn slot events) (f.check slot check).2 :=
  lives_onSlot h slot hcheck

/-- A session goes through what its holder writes. -/
theorem lives_onScene (h : Extraction.Faithful f.engine.around.outside.patterns) (slot : String)
    {name : String} {change : Scene → Except Fault Unit × Scene}
    (hchange : ∀ scene, match (change scene).1 with
      | .ok () => ∃ v, (change scene).2.vars = scene.vars.insert name v
      | .error _ => (change scene).2.vars = scene.vars) :
    f.Lives c (some slot) (f.eventsOn slot (writing name change)) (f.onScene slot change).2 :=
  lives_onSlot h slot fun s _ ha => s.lives_onScene ha hchange

/-- A session goes through an operation on it. -/
theorem lives_eventsOf (hc : c.Searches) (h : Extraction.Faithful f.engine.around.outside.patterns)
    (op : Operation) : f.Lives c op.slot? (f.eventsOf c op) (f.perform c op).2 := by
  cases op with
  | acquire slot d =>
      rw [← outside_acquire f.engine d] at h
      dsimp only [perform, eventsOf]
      generalize f.engine.acquire d = result at h ⊢
      rcases result with ⟨fault | s, e⟩
      · exact ⟨.nil, h⟩
      · refine ⟨.renewed .nil, ?_⟩
        have hafter : (occupy { f with engine := e } slot s).engine.around.outside = e.around.outside :=
          outside_vacate { f with engine := e } slot
        rw [hafter]
        exact h
  | lend slot name o =>
      refine lives_onScene h slot fun scene => ?_
      rw [Scene.put]
      rcases o.accept scene.models with ⟨fault | v, m⟩
      · rfl
      · exact ⟨v, rfl⟩
  | bring slot name o =>
      refine lives_onScene h slot fun scene => ?_
      rw [Scene.bring]
      cases o.own with
      | error fault => rfl
      | ok v => exact ⟨v, rfl⟩
  | start slot target rules =>
      exact lives_check h slot fun s _ ha => s.lives_start hc ha target rules
  | startByGroups slot target groups =>
      exact lives_check h slot fun s _ ha => s.lives_startByGroups hc ha target groups
  | verify slot target d =>
      exact lives_check h slot fun s _ ha => s.lives_verify hc ha target d
  | verifyOnce target d =>
      rw [← outside_acquire f.engine d] at h
      dsimp only [perform, eventsOf, Engine.verify]
      generalize f.engine.acquire d = result at h ⊢
      rcases result with ⟨fault | s, e⟩
      · exact ⟨.nil, h⟩
      · obtain ⟨hvars, hpatterns⟩ := s.lives_verify hc h target d
        exact ⟨.renewed (hvars.append (.renewed .nil)), hpatterns⟩
  | reset slot =>
      refine ⟨.renewed .nil, ?_⟩
      rw [perform, onSlot]
      cases f.get? slot with
      | none => exact h
      | some s => exact h
  | release slot =>
      refine ⟨.renewed .nil, ?_⟩
      rw [perform, outside_vacate]
      exact h

/-- **The variables of a session go through its life**, and nothing wrong is ever kept for searching. -/
theorem lives_life (hc : c.Searches) (h : Extraction.Faithful f.engine.around.outside.patterns)
    (who : Option String) (ops : List Operation) :
    f.Lives c who (f.life c who ops) (f.performAll c ops).2 := by
  induction ops generalizing f with
  | nil => exact ⟨.nil, h⟩
  | cons op rest ih =>
      have hfirst := lives_eventsOf hc h op
      have hrest := ih hfirst.patterns
      refine ⟨.append ?_ hrest.vars, hrest.patterns⟩
      rw [events]
      by_cases hop : op.slot? = who
      · rw [if_pos hop, ← hop]
        exact hfirst.vars
      · rw [if_neg hop]
        have hsame : (f.perform c op).2.varsOf who = f.varsOf who := by
          cases who with
          | none => rfl
          | some slot => simp only [varsOf, Option.bind_some, get?_perform c f hop]
        rw [hsame]
        exact .nil

end Fleet

end HttpProbe
