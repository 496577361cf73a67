/-
**Models on loan, and the handles on them.**

A model on loan is held by a variable, unless the step that is being performed has it in its hands.
So the number of models on loan is that of the handles among the variables, and those in hand more.
Writing a variable keeps this balance: the handle that comes in was in hand before, and the one that
goes out takes its model back to the pool.

Main definitions:

* `Value.count`, `Variables.count`, `Models.lent` — values of a kind, and models of a kind on loan;
* `Scene.Balanced` — **the models on loan are those in the variables and so many more**;
* `Collaborators.WritesScalars` — a search writes scalars, and nothing else.

Main results:

* `Scene.Balanced.insert`, `Scene.Balanced.erase`, `Scene.Balanced.clear` — writing keeps the balance;
* `Run.balanced_step`, `Run.balanced_perform` — a rule keeps it, in whichever way it ends;
* `Session.balanced_start`, `Session.balanced_startByGroups`, `Session.balanced_verify` — a check
  keeps it.
-/

import HttpProbe.Proofs.Entries
import HttpProbe.Proofs.Exits

set_option autoImplicit false
set_option relaxedAutoImplicit false

namespace HttpProbe

/-! ### Counting -/

/-- The kinds of handles. -/
def Kind.IsHandle (k : Kind) : Prop := k = .request ∨ k = .response

/-- One if a value is of a kind, and nothing otherwise. -/
def Value.count (v : Value) (k : Kind) : Nat := if v.kind = k then 1 else 0

/-- How many variables hold a value of a kind. -/
def Variables.count (vars : Variables) (k : Kind) : Nat := vars.values.countP fun v => v.kind = k

/-- How many models of a kind are on loan. -/
def Models.lent (m : Models) : Kind → Nat
  | .request => m.requests.outstanding
  | .response => m.responses.outstanding
  | _ => 0

/-- No handle on a model of the caller's. -/
def Value.OnLoan : Value → Prop
  | .scalar _ => True
  | .request _ owner => owner = .pools
  | .response _ owner => owner = .pools

theorem Value.count_scalar (x : Scalar) {k : Kind} (hk : k.IsHandle) :
    (Value.scalar x).count k = 0 := by
  rcases hk with rfl | rfl <;> cases x <;> rfl

/-- Writing replaces one value by another. -/
theorem Variables.count_insert (vars : Variables) (name : String) (v : Value) (k : Kind) :
    (vars.insert name v).count k + ((vars.get? name).toList.countP fun w => w.kind = k) =
      vars.count k + v.count k := by
  -- both sides are counted over the other names, which are the same before and after
  have hold := (perm_erase vars name).countP_eq fun w => decide (w.kind = k)
  have hnew := (perm_insert vars name v).countP_eq fun w => decide (w.kind = k)
  rw [List.countP_append] at hold
  rw [List.countP_cons] at hnew
  simp only [decide_eq_true_eq] at hnew
  simp only [count, Value.count]
  omega

theorem Variables.count_erase (vars : Variables) (name : String) (k : Kind) :
    (vars.erase name).count k + ((vars.get? name).toList.countP fun w => w.kind = k) =
      vars.count k := by
  have hold := (perm_erase vars name).countP_eq fun w => decide (w.kind = k)
  rw [List.countP_append] at hold
  simp only [count]
  omega

namespace Models

/-- A value takes its model back. -/
theorem lent_giveBack (m : Models) {v : Value} (hv : v.OnLoan) (k : Kind) :
    (m.giveBack v).lent k = m.lent k - v.count k := by
  cases v with
  | scalar x => cases x <;> cases k <;> simp [giveBack, Value.count, Value.kind, Scalar.kind, lent]
  | request r owner => cases hv; cases k <;> rfl
  | response r owner => cases hv; cases k <;> rfl

theorem lent_giveBackAll (m : Models) {vs : List Value} (hvs : ∀ v ∈ vs, v.OnLoan) (k : Kind) :
    (m.giveBackAll vs).lent k = m.lent k - vs.countP fun v => v.kind = k := by
  induction vs generalizing m with
  | nil => rfl
  | cons v vs ih =>
      have hv := lent_giveBack m (hvs v List.mem_cons_self) k
      have hrest := ih (m.giveBack v) fun w hw => hvs w (List.mem_cons_of_mem v hw)
      rw [List.countP_cons]
      simp only [decide_eq_true_eq]
      rw [Value.count] at hv
      change ((m.giveBack v).giveBackAll vs).lent k = _
      omega

theorem lent_lendRequest (m : Models) (r : Http.Request) (k : Kind) :
    m.lendRequest.2.lent k = m.lent k + (Value.request r .pools).count k := by
  cases k <;> simp [lendRequest, lent, Value.count, Value.kind]

theorem lent_lendResponse (m : Models) (r : Http.Response) (k : Kind) :
    m.lendResponse.2.lent k = m.lent k + (Value.response r .pools).count k := by
  cases k <;> simp [lendResponse, lent, Value.count, Value.kind]

end Models

/-! ### The balance of variables and pools -/

/-- **The models on loan are those in the variables and so many more**; the variables hold no models
of the caller's. -/
structure Scene.Balanced (s : Scene) (more : Kind → Nat) : Prop where
  onLoan : ∀ v ∈ s.vars.values, v.OnLoan
  lent : ∀ k, k.IsHandle → s.models.lent k = s.vars.count k + more k

/-- Puts scalars in, one after the other. -/
def Scene.writeScalars (s : Scene) (written : List (String × Scalar)) : Scene :=
  written.foldl (fun s w => s.insert w.1 (.scalar w.2)) s

namespace Scene.Balanced

variable {s : Scene} {more : Kind → Nat}

theorem congr (h : s.Balanced more) {more' : Kind → Nat}
    (he : ∀ k, k.IsHandle → more k = more' k) : s.Balanced more' :=
  ⟨h.onLoan, fun k hk => (he k hk) ▸ h.lent k hk⟩

/-- A value in hand goes into a variable, and the model of the old value goes back. -/
theorem insert {v : Value} (h : s.Balanced fun k => more k + v.count k) (hv : v.OnLoan)
    (name : String) : (s.insert name v).Balanced more := by
  have hold : ∀ w ∈ (s.vars.get? name).toList, w.OnLoan := by
    intro w hw
    exact h.onLoan w (Variables.mem_values_of_get? (Option.mem_toList.1 hw))
  constructor
  · intro w hw
    rcases Variables.mem_values_insert hw with rfl | hw
    · exact hv
    · exact h.onLoan w hw
  · intro k hk
    have hlent := h.lent k hk
    have hcount := s.vars.count_insert name v k
    have hback := s.models.lent_giveBackAll hold k
    change (s.models.giveBackAll (s.vars.get? name).toList).lent k =
      (s.vars.insert name v).count k + more k
    omega

theorem insert_scalar (h : s.Balanced more) (name : String) (x : Scalar) :
    (s.insert name (.scalar x)).Balanced more := by
  have hnone : s.Balanced fun k => more k + (Value.scalar x).count k := by
    refine h.congr ?_
    intro k hk
    rw [Value.count_scalar x hk, Nat.add_zero]
  exact hnone.insert trivial name

theorem erase (h : s.Balanced more) (name : String) : (s.erase name).Balanced more := by
  have hold : ∀ w ∈ (s.vars.get? name).toList, w.OnLoan := by
    intro w hw
    exact h.onLoan w (Variables.mem_values_of_get? (Option.mem_toList.1 hw))
  constructor
  · intro w hw
    exact h.onLoan w (Variables.mem_values_erase hw)
  · intro k hk
    have hlent := h.lent k hk
    have hcount := s.vars.count_erase name k
    have hback := s.models.lent_giveBackAll hold k
    change (s.models.giveBackAll (s.vars.get? name).toList).lent k =
      (s.vars.erase name).count k + more k
    omega

/-- Without variables nothing but the others is on loan. -/
theorem clear (h : s.Balanced more) : s.clear.Balanced more := by
  constructor
  · intro w hw
    cases hw
  · intro k hk
    have hlent := h.lent k hk
    have hback := s.models.lent_giveBackAll h.onLoan k
    change (s.models.giveBackAll s.vars.values).lent k = 0 + more k
    rw [Variables.count] at hlent
    omega

theorem writeScalars (h : s.Balanced more) (written : List (String × Scalar)) :
    (s.writeScalars written).Balanced more := by
  induction written generalizing s with
  | nil => exact h
  | cons w rest ih => exact ih (h.insert_scalar w.1 w.2)

/-- Bindings are scalars, whatever their templates see. -/
theorem merge (h : s.Balanced more) (bindings : List (String × Scalar)) :
    (s.merge bindings).Balanced more := by
  induction bindings generalizing s with
  | nil => exact h
  | cons b rest ih =>
      obtain ⟨x, hx⟩ : ∃ x, s.vars.bound b.2 = .scalar x := by
        cases b.2 <;> exact ⟨_, rfl⟩
      have hb : (s.insert b.1 (s.vars.bound b.2)).Balanced more := hx ▸ h.insert_scalar b.1 x
      exact ih hb

theorem dropExchange (h : s.Balanced more) : s.dropExchange.Balanced more :=
  (h.erase Variables.requestName).erase Variables.responseName

/-- A value in hand takes its model back. -/
theorem giveBack {v : Value} (h : s.Balanced fun k => more k + v.count k) (hv : v.OnLoan) :
    ({ s with models := s.models.giveBack v } : Scene).Balanced more := by
  refine ⟨h.onLoan, ?_⟩
  intro k hk
  have hlent := h.lent k hk
  have hback := s.models.lent_giveBack hv k
  change (s.models.giveBack v).lent k = s.vars.count k + more k
  omega

theorem lendRequest (h : s.Balanced more) (r : Http.Request) :
    ({ s with models := s.models.lendRequest.2 } : Scene).Balanced
      fun k => more k + (Value.request r .pools).count k := by
  refine ⟨h.onLoan, ?_⟩
  intro k hk
  have hlent := h.lent k hk
  have hlend := s.models.lent_lendRequest r k
  change s.models.lendRequest.2.lent k = s.vars.count k + (more k + _)
  omega

theorem lendResponse (h : s.Balanced more) (r : Http.Response) :
    ({ s with models := s.models.lendResponse.2 } : Scene).Balanced
      fun k => more k + (Value.response r .pools).count k := by
  refine ⟨h.onLoan, ?_⟩
  intro k hk
  have hlent := h.lent k hk
  have hlend := s.models.lent_lendResponse r k
  change s.models.lendResponse.2.lent k = s.vars.count k + (more k + _)
  omega

end Scene.Balanced

/-! ### Rules -/

/-- A search writes scalars, and nothing else. -/
def Collaborators.WritesScalars {σ : Type} (c : Collaborators σ) : Prop :=
  ∀ pattern text s o, ∃ written, (c.extract pattern text s o).2.1 = s.writeScalars written

/-- The search with regular expressions writes texts. -/
theorem Collaborators.writesScalars_standard {τ : Type}
    (exchange : Http.Request → Bool → τ → Except TransportFault Http.RawResponse × τ) :
    (standard exchange).WritesScalars := by
  intro pattern text s o
  have hnone : s = s.writeScalars [] := rfl
  change ∃ written, (search pattern text s o).2.1 = s.writeScalars written
  rw [search, Extraction.extract]
  rcases Extraction.ready o.patterns pattern with ⟨f | r, kept⟩
  · exact ⟨[], hnone⟩
  · dsimp only
    cases Extraction.captures r text with
    | error f => exact ⟨[], hnone⟩
    | ok found =>
        refine ⟨found.map fun w => (w.1, .text w.2), ?_⟩
        rw [Scene.writeScalars, List.foldl_map]
        rfl

namespace Run

variable {σ : Type} {c : Collaborators σ} {more : Kind → Nat}

/-- A search takes the response in hand back. -/
theorem balanced_searchBody (hc : c.WritesScalars) {run : Run σ} {r : Http.Response}
    (h : run.scene.Balanced fun k => more k + (Value.response r .pools).count k)
    (pattern : String) : (run.searchBody c pattern r).2.scene.Balanced more := by
  obtain ⟨written, hw⟩ := hc pattern r.bodyText run.scene run.outside
  have hscene : (c.extract pattern r.bodyText run.scene run.outside).2.1.Balanced
      fun k => more k + (Value.response r .pools).count k := hw ▸ h.writeScalars written
  exact hscene.giveBack rfl

/-- An expression gets the response in hand as a variable. -/
theorem balanced_evaluate {run : Run σ} {r : Http.Response}
    (h : run.scene.Balanced fun k => more k + (Value.response r .pools).count k)
    (expression : String) : (run.evaluate c expression r).2.scene.Balanced more :=
  h.insert rfl Variables.responseName

/-- Once a request is sent, one more is on loan than the variables hold. -/
theorem balanced_sent {run : Run σ} (h : run.scene.Balanced more) (rule : Rule)
    (q : Http.Request) (o : σ) : (run.sent rule q o).scene.Balanced
      fun k => more k + (Value.request q .pools).count k :=
  h.lendRequest q

/-- Once the response is in, it is the response that is in hand. -/
theorem balanced_received {run : Run σ} {q : Http.Request}
    (h : run.scene.Balanced fun k => more k + (Value.request q .pools).count k)
    (r : Http.Response) : (run.received q).scene.Balanced
      fun k => more k + (Value.response r .pools).count k := by
  -- for a moment both are in hand; then the request becomes a variable
  have hboth : ({ run.scene with models := run.scene.models.lendResponse.2 } : Scene).Balanced
      fun k => (more k + (Value.response r .pools).count k) + (Value.request q .pools).count k := by
    refine (h.lendResponse r).congr ?_
    intro k _
    omega
  exact hboth.insert rfl Variables.requestName

/-- Whichever way a step ends, nothing stays in hand. -/
theorem balanced_step (hc : c.WritesScalars) {run : Run σ} (h : run.scene.Balanced more)
    (target : String) (rule : Rule) : (run.step c target rule).2.scene.Balanced more := by
  have hexit := exit_step c target rule run
  generalize run.step c target rule = result at hexit ⊢
  cases hexit with
  | @malformed f r hrequest => exact (h.lendRequest r).giveBack rfl
  | @unanswered q f o hrequest hanswer => exact (balanced_sent h rule q o).giveBack rfl
  | @searched q raw o pattern hrequest hanswer hpattern =>
      exact balanced_searchBody hc (balanced_received (balanced_sent h rule q o) _) pattern
  | @evaluated q raw o hrequest hanswer hpattern =>
      exact balanced_evaluate (balanced_received (balanced_sent h rule q o) _) rule.expression

/-- A rule keeps the balance. -/
theorem balanced_perform (hc : c.WritesScalars) {run : Run σ} (h : run.scene.Balanced more)
    (target : String) (rule : Rule) : (run.perform c target rule).2.scene.Balanced more := by
  have hmerged : (run.merge rule.set).scene.Balanced more := h.merge rule.set
  rw [perform_eq]
  exact (balanced_step hc hmerged target rule).dropExchange

theorem balanced_chain (hc : c.WritesScalars) {run : Run σ} (h : run.scene.Balanced more)
    (target : String) (rules : List Rule) :
    (run.chain c target rules).2.scene.Balanced more := by
  have hfrom : ∀ verified, (run.chainFrom c target verified rules).2.scene.Balanced more := by
    induction rules generalizing run with
    | nil =>
        intro verified
        exact h
    | cons rule rest ih =>
        intro verified
        have hrule := balanced_perform hc h target rule
        by_cases hholds : (run.perform c target rule).1 = .ok true
        · rw [chainFrom_of_holds hholds]
          exact ih hrule true
        · rw [chainFrom_of_fails hholds]
          exact hrule
  exact hfrom false

end Run

/-! ### Sessions -/

namespace Session

variable {σ : Type} {c : Collaborators σ} {more : Kind → Nat}

/-- The variables of a session together with the pools that all sessions share. -/
def scene (s : Session) (a : Surroundings σ) : Scene := ⟨s.vars, a.models⟩

theorem balanced_start (hc : c.WritesScalars) (target : String) (rules : List Rule) {s : Session}
    {a : Surroundings σ} (h : (s.scene a).Balanced more) :
    ((s.start c target rules a).2.1.scene (s.start c target rules a).2.2).Balanced more := by
  rw [start]
  cases s.env with
  | none => exact h
  | some env =>
      have hrun : (s.run env a).scene.Balanced more := h
      exact Run.balanced_chain hc hrun target rules

theorem balanced_startByGroups (hc : c.WritesScalars) (target : String) (groups : List RuleGroup)
    {s : Session} {a : Surroundings σ} (h : (s.scene a).Balanced more) :
    ((s.startByGroups c target groups a).2.1.scene
      (s.startByGroups c target groups a).2.2).Balanced more := by
  induction groups generalizing s a with
  | nil => exact h
  | cons g rest ih =>
      have hgroup := balanced_start hc target g.rules h
      by_cases hnext : (s.start c target g.rules a).1 = .ok false
      · rw [startByGroups_of_next hnext]
        exact ih hgroup
      · rw [startByGroups_of_last hnext]
        exact hgroup

theorem balanced_verify (hc : c.WritesScalars) (target : String) (d : Definition) {s : Session}
    {a : Surroundings σ} (h : (s.scene a).Balanced more) :
    ((s.verify c target d a).2.1.scene (s.verify c target d a).2.2).Balanced more := by
  rw [verify]
  cases d.rules with
  | chain rules => exact balanced_start hc target rules h
  | groups groups => exact balanced_startByGroups hc target groups h

end Session

/-! ### Offers -/

/-- Putting an offer under a name keeps the balance, also if the offer is malformed. -/
theorem Scene.Balanced.put {s : Scene} {more : Kind → Nat} (h : s.Balanced more) (name : String)
    (o : Offer) : (s.put name o).2.Balanced more := by
  cases o with
  | scalar x => exact h.insert_scalar name x
  | request template =>
      cases template with
      | none => exact (h.lendRequest s.models.lendRequest.1).insert rfl name
      | some t =>
          cases hrequest : t.request with
          | error f =>
              obtain ⟨r, hr⟩ := Models.prepare_of_error hrequest s.models
              rw [Scene.put, Offer.accept, hr]
              exact (h.lendRequest r).giveBack rfl
          | ok q =>
              rw [Scene.put, Offer.accept, Models.prepare_of_ok hrequest s.models]
              exact (h.lendRequest q).insert rfl name
  | response raw template =>
      rw [Scene.put, Offer.accept]
      cases Offer.origin template with
      | error f => exact h
      | ok asked => exact (h.lendResponse (.ofRaw raw asked)).insert rfl name

end HttpProbe
