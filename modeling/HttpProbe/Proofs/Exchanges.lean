/-
**The exchanges of an operation.**

While an operation of a caller is performed, requests are sent.  This module lists the moments at
which that happens: the call that is made, and the variables that all live sessions have just then.
The list is read off the runs themselves, and it is complete: the calls in it are those that the
operation writes down.

Main definitions:

* `Exchange` — a call, and the variables of the live sessions at that moment;
* `Run.exchange?`, `Run.exchanges` — the exchange of a rule, and those of a chain of rules;
* `Fleet.exchanges` — the exchanges of an operation.

Main results:

* `Run.journal_perform`, `Run.journal_chain` — a rule writes down its exchange, a chain those of its
  rules;
* `Fleet.journal_perform` — **an operation writes down the calls of its exchanges, and no others**.
-/

import HttpProbe.Fleet
import HttpProbe.Proofs.Exits

set_option autoImplicit false
set_option relaxedAutoImplicit false

namespace HttpProbe

/-- A call in the middle of an operation, and the variables of the live sessions at that moment. -/
structure Exchange where
  call : Call
  live : List Variables

/-- The exchange, with more sessions living at that moment. -/
def Exchange.beside (others : List Variables) (x : Exchange) : Exchange :=
  { x with live := x.live ++ others }

variable {σ : Type} (c : Collaborators σ) (target : String)

/-! ### Rules -/

namespace Run

/-- The exchange of a rule, unless its request is malformed: the rule's bindings come before it. -/
def exchange? (rule : Rule) (run : Run σ) : Option Exchange :=
  match (rule.template target (run.merge rule.set).scene.vars).request with
  | .error _ => none
  | .ok q =>
    some ⟨⟨q, rule.followRedirects, (run.merge rule.set).asking.scene.models.outstanding⟩,
      [(run.merge rule.set).scene.vars]⟩

/-- The exchanges of rules that are performed in order up to the first that does not hold. -/
def exchanges : List Rule → Run σ → List Exchange
  | [], _ => []
  | rule :: rest, run =>
    (run.exchange? target rule).toList ++
      match run.perform c target rule with
      | (.ok true, run) => exchanges rest run
      | _ => []

variable {c target} in
/-- After a rule that holds there are the exchanges of the others. -/
theorem exchanges_of_holds {rule : Rule} {run : Run σ}
    (h : (run.perform c target rule).1 = .ok true) (rest : List Rule) :
    run.exchanges c target (rule :: rest) =
      (run.exchange? target rule).toList ++
        (run.perform c target rule).2.exchanges c target rest := by
  rcases hperform : run.perform c target rule with ⟨verdict, run'⟩
  rw [hperform] at h
  obtain rfl := h
  rw [exchanges, hperform]

variable {c target} in
/-- After a rule that does not hold there are none. -/
theorem exchanges_of_fails {rule : Rule} {run : Run σ}
    (h : (run.perform c target rule).1 ≠ .ok true) (rest : List Rule) :
    run.exchanges c target (rule :: rest) = (run.exchange? target rule).toList := by
  rw [exchanges]
  generalize run.perform c target rule = result at h ⊢
  rcases result with ⟨_ | _ | _, run'⟩
  · exact List.append_nil _
  · exact List.append_nil _
  · exact absurd rfl h

/-- A rule writes down its exchange. -/
theorem journal_perform (rule : Rule) (run : Run σ) :
    (run.perform c target rule).2.journal =
      run.journal ++ ((run.exchange? target rule).toList.map Exchange.call) := by
  have hexit := exit_step c target rule (run.merge rule.set)
  rw [perform_eq, exchange?]
  generalize (run.merge rule.set).step c target rule = result at hexit ⊢
  -- three of the four ways write the call down before they part
  cases hexit with
  | malformed hrequest =>
      rw [hrequest]
      exact (List.append_nil _).symm
  | unanswered hrequest hanswer => rw [hrequest]; rfl
  | searched hrequest hanswer hpattern => rw [hrequest]; rfl
  | evaluated hrequest hanswer hpattern => rw [hrequest]; rfl

/-- A chain writes down the exchanges of its rules. -/
theorem journal_chainFrom (verified : Bool) (rules : List Rule) (run : Run σ) :
    (run.chainFrom c target verified rules).2.journal =
      run.journal ++ (run.exchanges c target rules).map Exchange.call := by
  induction rules generalizing verified run with
  | nil => exact (List.append_nil _).symm
  | cons rule rest ih =>
      have hrule := journal_perform c target rule run
      by_cases hholds : (run.perform c target rule).1 = .ok true
      · rw [chainFrom_of_holds hholds, exchanges_of_holds hholds, List.map_append,
          ← List.append_assoc, ← hrule]
        exact ih true (run.perform c target rule).2
      · rw [chainFrom_of_fails hholds, exchanges_of_fails hholds]
        exact hrule

theorem journal_chain (rules : List Rule) (run : Run σ) :
    (run.chain c target rules).2.journal =
      run.journal ++ (run.exchanges c target rules).map Exchange.call :=
  journal_chainFrom c target false rules run

end Run

/-! ### Sessions -/

namespace Session

/-- The exchanges of rules. -/
def startExchanges (rules : List Rule) (s : Session) (a : Surroundings σ) : List Exchange :=
  match s.env with
  | none => []
  | some env => (s.run env a).exchanges c target rules

/-- The exchanges of groups of rules, up to the first group that holds or cannot be performed. -/
def groupExchanges : List RuleGroup → Session → Surroundings σ → List Exchange
  | [], _, _ => []
  | g :: rest, s, a =>
    s.startExchanges c target g.rules a ++
      match s.start c target g.rules a with
      | (.ok false, s, a) => groupExchanges rest s a
      | _ => []

/-- The exchanges of what a definition declares. -/
def verifyExchanges (d : Definition) (s : Session) (a : Surroundings σ) : List Exchange :=
  match d.rules with
  | .chain rules => s.startExchanges c target rules a
  | .groups groups => groupExchanges c target groups s a

variable {c target} in
/-- After a group that does not hold there are the exchanges of the others. -/
theorem groupExchanges_of_next {g : RuleGroup} {s : Session} {a : Surroundings σ}
    (h : (s.start c target g.rules a).1 = .ok false) (rest : List RuleGroup) :
    s.groupExchanges c target (g :: rest) a =
      s.startExchanges c target g.rules a ++
        (s.start c target g.rules a).2.1.groupExchanges c target rest
          (s.start c target g.rules a).2.2 := by
  rcases hstart : s.start c target g.rules a with ⟨verdict, s', a'⟩
  rw [hstart] at h
  obtain rfl := h
  rw [groupExchanges, hstart]

variable {c target} in
/-- After a group that holds, or cannot be performed, there are none. -/
theorem groupExchanges_of_last {g : RuleGroup} {s : Session} {a : Surroundings σ}
    (h : (s.start c target g.rules a).1 ≠ .ok false) (rest : List RuleGroup) :
    s.groupExchanges c target (g :: rest) a = s.startExchanges c target g.rules a := by
  rw [groupExchanges]
  generalize s.start c target g.rules a = result at h ⊢
  rcases result with ⟨_ | _ | _, s', a'⟩
  · exact List.append_nil _
  · exact absurd rfl h
  · exact List.append_nil _

theorem journal_start (rules : List Rule) (s : Session) (a : Surroundings σ) :
    (s.start c target rules a).2.2.journal =
      a.journal ++ (s.startExchanges c target rules a).map Exchange.call := by
  rw [start, startExchanges]
  cases s.env with
  | none => exact (List.append_nil _).symm
  | some env => exact Run.journal_chain c target rules (s.run env a)

theorem journal_startByGroups (groups : List RuleGroup) (s : Session) (a : Surroundings σ) :
    (s.startByGroups c target groups a).2.2.journal =
      a.journal ++ (groupExchanges c target groups s a).map Exchange.call := by
  induction groups generalizing s a with
  | nil => exact (List.append_nil _).symm
  | cons g rest ih =>
      have hgroup := journal_start c target g.rules s a
      by_cases hnext : (s.start c target g.rules a).1 = .ok false
      · rw [startByGroups_of_next hnext, groupExchanges_of_next hnext, List.map_append,
          ← List.append_assoc, ← hgroup]
        exact ih (s.start c target g.rules a).2.1 (s.start c target g.rules a).2.2
      · rw [startByGroups_of_last hnext, groupExchanges_of_last hnext]
        exact hgroup

theorem journal_verify (d : Definition) (s : Session) (a : Surroundings σ) :
    (s.verify c target d a).2.2.journal =
      a.journal ++ (s.verifyExchanges c target d a).map Exchange.call := by
  rw [verify, verifyExchanges]
  cases d.rules with
  | chain rules => exact journal_start c target rules s a
  | groups groups => exact journal_startByGroups c target groups s a

end Session

/-! ### Operations -/

namespace Fleet

variable {c target}

/-- The variables of sessions that are held in slots. -/
def heldVars (held : List (String × Session)) : List Variables := held.map fun h => h.2.vars

/-- Exchanges of the session in a slot; the sessions in the other slots live beside it. -/
def during (f : Fleet σ) (slot : String)
    (exchanges : Session → Surroundings σ → List Exchange) : List Exchange :=
  match f.get? slot with
  | none => []
  | some s => (exchanges s f.engine.around).map (.beside (heldVars (f.others slot)))

/-- The exchanges of an operation. -/
def exchanges (c : Collaborators σ) (op : Operation) (f : Fleet σ) : List Exchange :=
  match op with
  | .start slot target rules => f.during slot fun s a => s.startExchanges c target rules a
  | .startByGroups slot target groups =>
    f.during slot fun s a => s.groupExchanges c target groups a
  | .verify slot target d => f.during slot fun s a => s.verifyExchanges c target d a
  | .verifyOnce target d =>
    match f.engine.acquire d with
    | (.error _, _) => []
    | (.ok s, e) =>
      (s.verifyExchanges c target d e.around).map (.beside (heldVars f.held))
  | .acquire _ _ => []
  | .lend _ _ _ => []
  | .bring _ _ _ => []
  | .reset _ => []
  | .release _ => []

theorem journal_onSlot (f : Fleet σ) (slot : String)
    (change : Session → Surroundings σ → Report × Session × Surroundings σ)
    (exchanges : Session → Surroundings σ → List Exchange)
    (h : ∀ s a, (change s a).2.2.journal = a.journal ++ (exchanges s a).map Exchange.call) :
    (f.onSlot slot change).2.engine.around.journal =
      f.engine.around.journal ++ (f.during slot exchanges).map Exchange.call := by
  rw [onSlot, during]
  cases f.get? slot with
  | none => exact (List.append_nil _).symm
  | some s =>
      have hcalls : ((exchanges s f.engine.around).map
          (Exchange.beside (heldVars (f.others slot)))).map Exchange.call =
            (exchanges s f.engine.around).map Exchange.call := by
        rw [List.map_map]
        rfl
      rw [hcalls]
      exact h s f.engine.around

/-- An operation that sends nothing writes nothing down. -/
theorem journal_onSlot_quiet (f : Fleet σ) (slot : String)
    (change : Session → Surroundings σ → Report × Session × Surroundings σ)
    (h : ∀ s a, (change s a).2.2.journal = a.journal) :
    (f.onSlot slot change).2.engine.around.journal = f.engine.around.journal := by
  rw [onSlot]
  cases f.get? slot with
  | none => rfl
  | some s => exact h s f.engine.around

theorem journal_vacate (f : Fleet σ) (slot : String) :
    (f.vacate slot).engine.around.journal = f.engine.around.journal := by
  rw [vacate]
  cases f.get? slot <;> rfl

theorem journal_acquire (e : Engine σ) (d : Definition) :
    (e.acquire d).2.around.journal = e.around.journal := by
  simp only [Engine.acquire]
  cases Environment.compile e.chance.left d.set <;> rfl

/-- **An operation writes down the calls of its exchanges, and no others.** -/
theorem journal_perform (c : Collaborators σ) (op : Operation) (f : Fleet σ) :
    (f.perform c op).2.engine.around.journal =
      f.engine.around.journal ++ (f.exchanges c op).map Exchange.call := by
  have hquiet : ∀ j : List Call, j = j ++ ([] : List Exchange).map Exchange.call :=
    fun j => (List.append_nil j).symm
  cases op with
  | acquire slot d =>
      have hacquire := journal_acquire f.engine d
      rw [exchanges, ← hquiet, ← hacquire, perform]
      rcases f.engine.acquire d with ⟨_ | s, e⟩
      · rfl
      · exact journal_vacate ⟨e, f.held⟩ slot
  | lend slot name o =>
      refine (journal_onSlot_quiet f slot _ ?_).trans (hquiet _)
      intro s a
      rfl
  | bring slot name o =>
      refine (journal_onSlot_quiet f slot _ ?_).trans (hquiet _)
      intro s a
      rfl
  | start slot target rules =>
      exact journal_onSlot f slot _ _ fun s a => Session.journal_start c target rules s a
  | startByGroups slot target groups =>
      exact journal_onSlot f slot _ _ fun s a => Session.journal_startByGroups c target groups s a
  | verify slot target d =>
      exact journal_onSlot f slot _ _ fun s a => Session.journal_verify c target d s a
  | verifyOnce target d =>
      have hacquire := journal_acquire f.engine d
      rw [exchanges, ← hacquire]
      simp only [perform, Engine.verify]
      rcases f.engine.acquire d with ⟨_ | s, e⟩
      · exact hquiet _
      · have hverify := Session.journal_verify c target d s e.around
        rw [List.map_map]
        exact hverify
  | reset slot =>
      refine (journal_onSlot_quiet f slot _ ?_).trans (hquiet _)
      intro s a
      rfl
  | release slot => exact (journal_vacate f slot).trans (hquiet _)

end Fleet

end HttpProbe
