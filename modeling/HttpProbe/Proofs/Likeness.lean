/-
**Systems that look alike.**

Two systems perform the same rules.  Their pools, the states of their collaborators and their journals
may differ, as long as whatever is taken from them is the same and what remains stays alike.  Either they
draw alike, or whatever the rules are judged by is settled.  Then nobody who is answered by the two systems
can tell them apart: rules, groups of rules and definitions come to the same, with the same variables.

Main definitions:

* `Alike` — the same answer, and what is left alike;
* `Likeness` — which pools, environments, states and journals count as alike, and whether chance does;
* `Engine.verifyMoments` — the rules that are performed in a check with a session of its own;
* `Pool.Lasting`, `Models.Lasting`, `Likeness.Kept` — **the relations outlast whatever a rule does**.

Main results:

* `Models.Lasting.put`, `Models.Lasting.bring` — callers write variables alike;
* `Likeness.Kept.step`, `Likeness.Kept.perform`, `Likeness.Kept.chain` — rules come to the same;
* `Likeness.Kept.start`, `Likeness.Kept.startByGroups`, `Likeness.Kept.verify` — so do checks;
* `Likeness.Kept.engineAcquire`, `Likeness.Kept.engineVerify` — engines lend, and check, alike.
-/

import HttpProbe.Proofs.Exits
import HttpProbe.Proofs.Settled

set_option autoImplicit false
set_option relaxedAutoImplicit false

namespace HttpProbe

/-- The same answer, and what is left alike. -/
inductive Alike {α β γ : Type} (R : β → γ → Prop) : α × β → α × γ → Prop
  | intro {a : α} {b : β} {c : γ} (h : R b c) : Alike R (a, b) (a, c)

namespace Alike

variable {α β γ : Type} {R : β → γ → Prop} {x : α × β} {y : α × γ}

theorem rest (h : Alike R x y) : R x.2 y.2 := by
  cases h with
  | intro h => exact h

end Alike

/-! ### Pools and variables -/

/-- Pools that are alike lend the same, and lending and taking back leaves them alike. -/
structure Pool.Lasting {α : Type} [Recyclable α] (P : Pool α → Pool α → Prop) : Prop where
  acquire : ∀ {p q}, P p q → Alike P p.acquire q.acquire
  release : ∀ {p q}, P p q → ∀ a b, P (p.release a) (q.release b)

/-- Variables that are equal, with pools that are alike. -/
structure Models.Scenes (M : Models → Models → Prop) (s t : Scene) : Prop where
  vars : s.vars = t.vars
  models : M s.models t.models

/-- Pools that are alike lend the same, and lending and taking back leaves them alike. -/
structure Models.Lasting (M : Models → Models → Prop) : Prop where
  lendRequest : ∀ {m n}, M m n → Alike M m.lendRequest n.lendRequest
  lendResponse : ∀ {m n}, M m n → Alike M m.lendResponse n.lendResponse
  takeRequest : ∀ {m n}, M m n → ∀ r, M (m.takeRequest r) (n.takeRequest r)
  takeResponse : ∀ {m n}, M m n → ∀ r, M (m.takeResponse r) (n.takeResponse r)

/-- Pools of models are alike if the two pools of each kind are. -/
theorem Models.lasting_of_pools {P : Pool Http.Request → Pool Http.Request → Prop}
    {Q : Pool Http.Response → Pool Http.Response → Prop} (hP : Pool.Lasting P)
    (hQ : Pool.Lasting Q) {M : Models → Models → Prop}
    (hM : ∀ m n, M m n ↔ P m.requests n.requests ∧ Q m.responses n.responses) : Lasting M where
  lendRequest := by
    intro m n h
    have hlent := hP.acquire ((hM m n).1 h).1
    rw [Models.lendRequest, Models.lendRequest]
    generalize m.requests.acquire = x, n.requests.acquire = y at hlent ⊢
    cases hlent with
    | intro hrest => exact ⟨(hM _ _).2 ⟨hrest, ((hM m n).1 h).2⟩⟩
  lendResponse := by
    intro m n h
    have hlent := hQ.acquire ((hM m n).1 h).2
    rw [Models.lendResponse, Models.lendResponse]
    generalize m.responses.acquire = x, n.responses.acquire = y at hlent ⊢
    cases hlent with
    | intro hrest => exact ⟨(hM _ _).2 ⟨((hM m n).1 h).1, hrest⟩⟩
  takeRequest := by
    intro m n h r
    exact (hM _ _).2 ⟨hP.release ((hM m n).1 h).1 r r, ((hM m n).1 h).2⟩
  takeResponse := by
    intro m n h r
    exact (hM _ _).2 ⟨((hM m n).1 h).1, hQ.release ((hM m n).1 h).2 r r⟩

namespace Models.Lasting

variable {M : Models → Models → Prop} (hM : Lasting M) {m n : Models} {s t : Scene}
include hM

theorem giveBack (h : M m n) (v : Value) : M (m.giveBack v) (n.giveBack v) := by
  cases v with
  | scalar x => exact h
  | request r owner =>
      cases owner with
      | pools => exact hM.takeRequest h r
      | caller => exact h
  | response r owner =>
      cases owner with
      | pools => exact hM.takeResponse h r
      | caller => exact h

theorem giveBackAll (h : M m n) (vs : List Value) : M (m.giveBackAll vs) (n.giveBackAll vs) := by
  induction vs generalizing m n with
  | nil => exact h
  | cons v vs ih => exact ih (hM.giveBack h v)

theorem prepare (h : M m n) (template : Http.Template) :
    Alike M (m.prepare template) (n.prepare template) := by
  have hlent := hM.lendRequest h
  rw [Models.prepare, Models.prepare]
  generalize m.lendRequest = x, n.lendRequest = y at hlent ⊢
  cases hlent with
  | @intro r m n h =>
      dsimp only
      rcases r.setup template with ⟨_ | f, r⟩
      · exact ⟨h⟩
      · exact ⟨hM.takeRequest h r⟩

theorem respond (h : M m n) (raw : Http.RawResponse) (asked : Http.Request) :
    Alike M (m.respond raw asked) (n.respond raw asked) := by
  have hlent := (hM.lendResponse h).rest
  rw [Models.respond_eq, Models.respond_eq]
  exact ⟨hlent⟩

theorem insert (h : Scenes M s t) (name : String) (v : Value) :
    Scenes M (s.insert name v) (t.insert name v) := by
  refine ⟨congrArg (fun vars => vars.insert name v) h.vars, ?_⟩
  have hback := hM.giveBackAll h.models (t.vars.get? name).toList
  change M (s.models.giveBackAll (s.vars.get? name).toList) _
  rw [h.vars]
  exact hback

theorem erase (h : Scenes M s t) (name : String) : Scenes M (s.erase name) (t.erase name) := by
  refine ⟨congrArg (fun vars => vars.erase name) h.vars, ?_⟩
  have hback := hM.giveBackAll h.models (t.vars.get? name).toList
  change M (s.models.giveBackAll (s.vars.get? name).toList) _
  rw [h.vars]
  exact hback

theorem merge (h : Scenes M s t) (bindings : List (String × Scalar)) :
    Scenes M (s.merge bindings) (t.merge bindings) := by
  induction bindings generalizing s t with
  | nil => exact h
  | cons b rest ih =>
      have hb : Scenes M (s.insert b.1 (s.vars.bound b.2)) (t.insert b.1 (t.vars.bound b.2)) := by
        rw [h.vars]
        exact hM.insert h b.1 (t.vars.bound b.2)
      exact ih hb

theorem write (h : Scenes M s t) (found : List (String × String)) :
    Scenes M (s.write found) (t.write found) := by
  induction found generalizing s t with
  | nil => exact h
  | cons w rest ih => exact ih (hM.insert h w.1 (.scalar (.text w.2)))

theorem dropExchange (h : Scenes M s t) : Scenes M s.dropExchange t.dropExchange :=
  hM.erase (hM.erase h Variables.requestName) Variables.responseName

/-- An offer is made into the same value. -/
theorem accept (h : M m n) (o : Offer) : Alike M (o.accept m) (o.accept n) := by
  cases o with
  | scalar x => exact ⟨h⟩
  | request template =>
      cases template with
      | none =>
          have hlent := hM.lendRequest h
          rw [Offer.accept, Offer.accept]
          generalize m.lendRequest = x, n.lendRequest = y at hlent ⊢
          cases hlent with
          | intro h => exact ⟨h⟩
      | some template =>
          have hprepared := hM.prepare h template
          rw [Offer.accept, Offer.accept]
          generalize m.prepare template = x, n.prepare template = y at hprepared ⊢
          cases hprepared with
          | @intro result m n h =>
              cases result with
              | error f => exact ⟨h⟩
              | ok r => exact ⟨h⟩
  | response raw template =>
      rw [Offer.accept, Offer.accept]
      cases Offer.origin template with
      | error f => exact ⟨h⟩
      | ok asked =>
          have hresponse := hM.respond h raw asked
          dsimp only
          generalize m.respond raw asked = x, n.respond raw asked = y at hresponse ⊢
          cases hresponse with
          | intro h => exact ⟨h⟩

theorem put (h : Scenes M s t) (name : String) (o : Offer) :
    Alike (Scenes M) (s.put name o) (t.put name o) := by
  have haccepted := hM.accept h.models o
  rw [Scene.put, Scene.put]
  generalize o.accept s.models = x, o.accept t.models = y at haccepted ⊢
  cases haccepted with
  | @intro result m n hmn =>
      cases result with
      | error f => exact ⟨⟨h.vars, hmn⟩⟩
      | ok v =>
          have hscenes : Scenes M { s with models := m } { t with models := n } := ⟨h.vars, hmn⟩
          exact ⟨hM.insert hscenes name v⟩

theorem bring (h : Scenes M s t) (name : String) (o : Offer) :
    Alike (Scenes M) (s.bring name o) (t.bring name o) := by
  rw [Scene.bring, Scene.bring]
  cases o.own with
  | error f => exact ⟨h⟩
  | ok v => exact ⟨hM.insert h name v⟩

end Models.Lasting

/-! ### Runs -/

/-- Which pools, environments, states of collaborators, and journals count as alike, and whether both
systems draw, and list variables, by the same chance. -/
structure Likeness (σ τ : Type) where
  shared : Prop
  models : Models → Models → Prop
  env : Environment → Environment → Prop
  outside : σ → τ → Prop
  journal : List Call → List Call → Prop

namespace Likeness

variable {σ τ : Type}

/-- Runs whose parts are alike. -/
structure Runs (L : Likeness σ τ) (run : Run σ) (run' : Run τ) : Prop where
  scene : Models.Scenes L.models run.scene run'.scene
  env : L.env run.env run'.env
  outside : L.outside run.outside run'.outside
  journal : L.journal run.journal run'.journal

/-- Sessions that differ at most in their environments, and these are alike. -/
structure Sessions (L : Likeness σ τ) (s s' : Session) : Prop where
  definition : s.definition = s'.definition
  env : Option.Rel L.env s.env s'.env
  vars : s.vars = s'.vars

/-- What sessions share is alike. -/
structure Arounds (L : Likeness σ τ) (a : Surroundings σ) (b : Surroundings τ) : Prop where
  models : L.models a.models b.models
  outside : L.outside a.outside b.outside
  journal : L.journal a.journal b.journal

/-- Sessions and what they share are alike. -/
def Checks (L : Likeness σ τ) (x : Session × Surroundings σ) (y : Session × Surroundings τ) :
    Prop :=
  L.Sessions x.1 y.1 ∧ L.Arounds x.2 y.2

/-- **The relations outlast whatever a rule does**: collaborators whose states are alike answer the
same, if chance is shared or of no account, and calls that differ at most in what is on loan are written
down. -/
structure Kept (L : Likeness σ τ) (c : Collaborators σ) (d : Collaborators τ) : Prop where
  models : Models.Lasting L.models
  note : ∀ {m n j k}, L.models m n → L.journal j k → ∀ request follow,
    L.journal (j ++ [⟨request, follow, m.outstanding⟩]) (k ++ [⟨request, follow, n.outstanding⟩])
  exchange : ∀ {o p}, L.outside o p → ∀ request follow,
    Alike L.outside (c.exchange request follow o) (d.exchange request follow p)
  extract : ∀ {s t o p}, Models.Scenes L.models s t → L.outside o p → ∀ pattern text,
    Alike (fun x y => Models.Scenes L.models x.1 y.1 ∧ L.outside x.2 y.2)
      (c.extract pattern text s o) (d.extract pattern text t p)
  evaluate : ∀ {e e' o p}, L.env e e' → L.outside o p → ∀ expression vars,
    L.shared ∨ e.Settled expression vars →
      let x := c.evaluate e expression vars o
      let y := d.evaluate e' expression vars p
      Run.expressionVerdict x.1 = Run.expressionVerdict y.1 ∧ L.env x.2.1 y.2.1 ∧
        L.outside x.2.2 y.2.2

namespace Kept

variable {L : Likeness σ τ} {c : Collaborators σ} {d : Collaborators τ} (hL : L.Kept c d)
  {run : Run σ} {run' : Run τ}
include hL

theorem giveBack (h : L.Runs run run') (v : Value) :
    L.Runs (run.giveBack v) (run'.giveBack v) :=
  ⟨⟨h.scene.vars, hL.models.giveBack h.scene.models v⟩, h.env, h.outside, h.journal⟩

theorem insert (h : L.Runs run run') (name : String) (v : Value) :
    L.Runs (run.insert name v) (run'.insert name v) :=
  ⟨hL.models.insert h.scene name v, h.env, h.outside, h.journal⟩

theorem searchBody (h : L.Runs run run') (pattern : String) (r : Http.Response) :
    Alike L.Runs (run.searchBody c pattern r) (run'.searchBody d pattern r) := by
  have hfound := hL.extract h.scene h.outside pattern r.bodyText
  rw [Run.searchBody, Run.searchBody]
  generalize c.extract pattern r.bodyText run.scene run.outside = x,
    d.extract pattern r.bodyText run'.scene run'.outside = y at hfound ⊢
  cases hfound with
  | @intro found rest rest' hrest =>
      have hsearched : L.Runs { run with scene := rest.1, outside := rest.2 }
          { run' with scene := rest'.1, outside := rest'.2 } :=
        ⟨hrest.1, h.env, hrest.2, h.journal⟩
      exact ⟨hL.giveBack hsearched (.response r .pools)⟩

theorem evaluated (h : L.Runs run run') (expression : String) (r : Http.Response)
    (hsettled : L.shared ∨ run.env.Settled expression
      (run.scene.vars.insert Variables.responseName (.response r .pools))) :
    Alike L.Runs (run.evaluate c expression r) (run'.evaluate d expression r) := by
  have hseen := hL.insert h Variables.responseName (.response r .pools)
  rw [Run.evaluate, Run.evaluate]
  generalize hrun : run.insert Variables.responseName (.response r .pools) = seen,
    run'.insert Variables.responseName (.response r .pools) = seen' at hseen ⊢
  have hsettled : L.shared ∨ seen.env.Settled expression seen.scene.vars := hrun ▸ hsettled
  -- the variables are equal, so both evaluators are given the same
  have hholds := hL.evaluate hseen.env hseen.outside expression seen.scene.vars hsettled
  rw [← hseen.scene.vars]
  generalize c.evaluate seen.env expression seen.scene.vars seen.outside = x,
    d.evaluate seen'.env expression seen.scene.vars seen'.outside = y at hholds ⊢
  obtain ⟨hverdict, henv, houtside⟩ := hholds
  have hevaluated : L.Runs { seen with env := x.2.1, outside := x.2.2 }
      { seen' with env := y.2.1, outside := y.2.2 } :=
    ⟨hseen.scene, henv, houtside, hseen.journal⟩
  dsimp only
  rw [hverdict]
  exact ⟨hevaluated⟩

theorem judge (h : L.Runs run run') (rule : Rule) (r : Http.Response)
    (hsettled : L.shared ∨ (rule.pattern? = none → run.env.Settled rule.expression
      (run.scene.vars.insert Variables.responseName (.response r .pools)))) :
    Alike L.Runs (run.judge c rule r) (run'.judge d rule r) := by
  rw [Run.judge, Run.judge]
  cases hpattern : rule.pattern? with
  | none => exact hL.evaluated h rule.expression r (hsettled.imp_right fun hs => hs hpattern)
  | some pattern => exact hL.searchBody h pattern r

theorem receive (h : L.Runs run run') (rule : Rule) (q : Http.Request) (raw : Http.RawResponse)
    (hsettled : L.shared ∨ (rule.pattern? = none → run.env.Settled rule.expression
      (run.scene.vars.withExchange q raw))) :
    Alike L.Runs (run.receive c rule q raw) (run'.receive d rule q raw) := by
  have hlent := (hL.models.lendResponse h.scene.models).rest
  -- the response is filled from `raw` alone, so it is the same on both sides
  have hreceived : L.Runs (run.received q) (run'.received q) := by
    refine hL.insert ?_ Variables.requestName (.request q .pools)
    exact ⟨⟨h.scene.vars, hlent⟩, h.env, h.outside, h.journal⟩
  exact hL.judge hreceived rule (.ofRaw raw q) hsettled

theorem send (h : L.Runs run run') (rule : Rule) (q : Http.Request)
    (hsettled : L.shared ∨ ∀ raw, rule.pattern? = none →
      (c.exchange q rule.followRedirects run.outside).1 = .ok raw →
        run.env.Settled rule.expression (run.scene.vars.withExchange q raw)) :
    Alike L.Runs (run.send c rule q) (run'.send d rule q) := by
  have hanswer := hL.exchange h.outside q rule.followRedirects
  have hjournal := hL.note h.scene.models h.journal q rule.followRedirects
  rw [Run.send, Run.send]
  generalize c.exchange q rule.followRedirects run.outside = x,
    d.exchange q rule.followRedirects run'.outside = y at hanswer hsettled ⊢
  cases hanswer with
  | @intro answer o o' ho =>
      have hsent : L.Runs { run.note q rule.followRedirects with outside := o }
          { run'.note q rule.followRedirects with outside := o' } :=
        ⟨h.scene, h.env, ho, hjournal⟩
      cases answer with
      | error f => exact ⟨hL.giveBack hsent (.request q .pools)⟩
      | ok raw =>
          exact hL.receive hsent rule q raw (hsettled.imp_right fun hs hpattern => hs raw hpattern rfl)

/-- A step comes to the same. -/
theorem step (h : L.Runs run run') (target : String) (rule : Rule)
    (hsettled : L.shared ∨ run.Settled c target rule) :
    Alike L.Runs (run.step c target rule) (run'.step d target rule) := by
  have hprepared := hL.models.prepare h.scene.models (rule.template target run.scene.vars)
  rw [Run.step, Run.step, ← h.scene.vars]
  cases hrequest : (rule.template target run.scene.vars).request with
  | error f =>
      obtain ⟨r, hr⟩ := Models.prepare_of_error hrequest run.scene.models
      obtain ⟨r', hr'⟩ := Models.prepare_of_error hrequest run'.scene.models
      rw [hr, hr'] at hprepared ⊢
      have hmodels := hprepared.rest
      exact ⟨⟨⟨h.scene.vars, hmodels⟩, h.env, h.outside, h.journal⟩⟩
  | ok q =>
      rw [Models.prepare_of_ok hrequest, Models.prepare_of_ok hrequest] at hprepared ⊢
      have hmodels : L.Runs run.asking run'.asking :=
        ⟨⟨h.scene.vars, hprepared.rest⟩, h.env, h.outside, h.journal⟩
      refine hL.send hmodels rule q (hsettled.imp_right fun hs raw hpattern => ?_)
      exact hs q raw hpattern hrequest

/-- A rule comes to the same. -/
theorem perform (h : L.Runs run run') (target : String) (rule : Rule)
    (hsettled : L.shared ∨ (Moment.mk target rule run).Settled c) :
    Alike L.Runs (run.perform c target rule) (run'.perform d target rule) := by
  have hmerged : L.Runs (run.merge rule.set) (run'.merge rule.set) :=
    ⟨hL.models.merge h.scene rule.set, h.env, h.outside, h.journal⟩
  have hstep := hL.step hmerged target rule hsettled
  rw [Run.perform_eq, Run.perform_eq]
  generalize (run.merge rule.set).step c target rule = x,
    (run'.merge rule.set).step d target rule = y at hstep ⊢
  cases hstep with
  | @intro verdict r r' hr =>
      exact ⟨⟨hL.models.dropExchange hr.scene, hr.env, hr.outside, hr.journal⟩⟩

/-- **Rules in a row come to the same.** -/
theorem chain (h : L.Runs run run') (target : String) (rules : List Rule)
    (hsettled : L.shared ∨ ∀ m ∈ run.moments c target rules, m.Settled c) :
    Alike L.Runs (run.chain c target rules) (run'.chain d target rules) := by
  have hfrom : ∀ verified,
      Alike L.Runs (run.chainFrom c target verified rules)
        (run'.chainFrom d target verified rules) := by
    induction rules generalizing run run' with
    | nil =>
        intro verified
        exact ⟨h⟩
    | cons rule rest ih =>
        intro verified
        have hrule := hL.perform h target rule
          (hsettled.imp_right fun hs => hs _ (List.mem_cons_self))
        rw [Run.moments] at hsettled
        rw [Run.chainFrom, Run.chainFrom]
        generalize run.perform c target rule = x, run'.perform d target rule = y
          at hrule hsettled ⊢
        cases hrule with
        | @intro verdict r r' hr =>
            rcases verdict with f | _ | _
            · exact ⟨hr⟩
            · exact ⟨hr⟩
            · exact ih hr (hsettled.imp_right fun hs m hm => hs m (List.mem_cons_of_mem _ hm)) true
  exact hfrom false

/-! ### Checks -/

variable {s s' : Session} {a : Surroundings σ} {b : Surroundings τ}

/-- **A check comes to the same.** -/
theorem start (hs : L.Sessions s s') (ha : L.Arounds a b) (target : String) (rules : List Rule)
    (hsettled : L.shared ∨ ∀ m ∈ s.startMoments c target rules a, m.Settled c) :
    Alike L.Checks (s.start c target rules a) (s'.start d target rules b) := by
  obtain ⟨name, env, vars⟩ := s
  obtain ⟨name', env', vars'⟩ := s'
  obtain ⟨rfl, henv, rfl⟩ := hs
  cases henv with
  | none =>
      rw [Session.start_of_unbound c target rules rfl a,
        Session.start_of_unbound d target rules rfl b]
      exact ⟨⟨⟨rfl, .none, rfl⟩, ha⟩⟩
  | @some env env' henv =>
      rw [Session.start_of_env c target rules rfl a, Session.start_of_env d target rules rfl b]
      have hrun : L.Runs (Session.run ⟨name, some env, vars⟩ env a)
          (Session.run ⟨name, some env', vars⟩ env' b) :=
        ⟨⟨rfl, ha.models⟩, henv, ha.outside, ha.journal⟩
      have hchain := hL.chain hrun target rules hsettled
      generalize Run.chain c target rules _ = x, Run.chain d target rules _ = y at hchain ⊢
      cases hchain with
      | @intro verdict r r' hr =>
          have hsessions : L.Sessions (Session.after ⟨name, some env, vars⟩ r)
              (Session.after ⟨name, some env', vars⟩ r') := ⟨rfl, .some hr.env, hr.scene.vars⟩
          exact ⟨⟨hsessions, hr.scene.models, hr.outside, hr.journal⟩⟩

theorem startByGroups (hs : L.Sessions s s') (ha : L.Arounds a b) (target : String)
    (groups : List RuleGroup)
    (hsettled : L.shared ∨ ∀ m ∈ s.groupMoments c target groups a, m.Settled c) :
    Alike L.Checks (s.startByGroups c target groups a) (s'.startByGroups d target groups b) := by
  induction groups generalizing s s' a b with
  | nil => exact ⟨⟨hs, ha⟩⟩
  | cons g rest ih =>
      have hgroup := hL.start hs ha target g.rules
        (hsettled.imp_right fun hs m hm => hs m (List.mem_append_left _ hm))
      rw [Session.groupMoments] at hsettled
      rw [Session.startByGroups, Session.startByGroups]
      generalize s.start c target g.rules a = x, s'.start d target g.rules b = y
        at hgroup hsettled ⊢
      cases hgroup with
      | @intro verdict x y h =>
          rcases verdict with f | _ | _
          · exact ⟨h⟩
          · exact ih h.1 h.2 (hsettled.imp_right fun hs m hm => hs m (List.mem_append_right _ hm))
          · exact ⟨h⟩

/-- So does what a definition declares. -/
theorem verify (hs : L.Sessions s s') (ha : L.Arounds a b) (target : String)
    (definition : Definition)
    (hsettled : L.shared ∨ ∀ m ∈ s.verifyMoments c target definition a, m.Settled c) :
    Alike L.Checks (s.verify c target definition a) (s'.verify d target definition b) := by
  rw [Session.verifyMoments] at hsettled
  rw [Session.verify, Session.verify]
  cases hrules : definition.rules with
  | chain rules => exact hL.start hs ha target rules (by rwa [hrules] at hsettled)
  | groups groups => exact hL.startByGroups hs ha target groups (by rwa [hrules] at hsettled)

/-- What sessions that lose their variables give back leaves what they share alike. -/
theorem sessionGiveBack (hs : L.Sessions s s') (ha : L.Arounds a b) :
    L.Arounds (s.giveBack a) (s'.giveBack b) := by
  refine ⟨?_, ha.outside, ha.journal⟩
  change L.models (a.models.giveBackAll s.vars.values) (b.models.giveBackAll s'.vars.values)
  rw [hs.vars]
  exact hL.models.giveBackAll ha.models s'.vars.values

omit hL in
/-- A caller changes variables alike. -/
theorem onScene (hs : L.Sessions s s') (ha : L.Arounds a b)
    {change : Scene → Except Fault Unit × Scene}
    (hchange : ∀ {t t'}, Models.Scenes L.models t t' →
      Alike (Models.Scenes L.models) (change t) (change t')) :
    Alike L.Checks (s.onScene a change) (s'.onScene b change) := by
  have hbefore : Models.Scenes L.models ⟨s.vars, a.models⟩ ⟨s'.vars, b.models⟩ :=
    ⟨hs.vars, ha.models⟩
  have hscenes := hchange hbefore
  rw [Session.onScene, Session.onScene]
  generalize change ⟨s.vars, a.models⟩ = x, change ⟨s'.vars, b.models⟩ = y at hscenes ⊢
  cases hscenes with
  | @intro result t t' ht =>
      have hsessions : L.Sessions { s with vars := t.vars } { s' with vars := t'.vars } :=
        ⟨hs.definition, hs.env, ht.vars⟩
      have harounds : L.Arounds { a with models := t.models } { b with models := t'.models } :=
        ⟨ht.models, ha.outside, ha.journal⟩
      exact ⟨⟨hsessions, harounds⟩⟩

end Kept

/-! ### Engines -/

end Likeness

/-- The rules that are performed in a check with a session of its own. -/
def Engine.verifyMoments {σ : Type} (c : Collaborators σ) (target : String) (d : Definition)
    (e : Engine σ) : List (Moment σ) :=
  match e.acquire d with
  | (.error _, _) => []
  | (.ok s, e) => s.verifyMoments c target d e.around

/-- They are performed in the course of the session of the check. -/
theorem Fleet.mem_eventsOf_verifyOnce {σ : Type} {c : Collaborators σ} {f : Fleet σ} {target : String}
    {d : Definition} {m : Moment σ} (h : m ∈ f.engine.verifyMoments c target d) :
    .performed m ∈ f.eventsOf c (.verifyOnce target d) := by
  rw [Engine.verifyMoments] at h
  rw [eventsOf]
  generalize f.engine.acquire d = x at h ⊢
  obtain ⟨_ | s, e⟩ := x
  · cases h
  · exact List.mem_cons_of_mem _ (List.mem_append_left _ (List.mem_map_of_mem h))

namespace Likeness

variable {σ τ : Type}

/-- Engines whose pools of sessions are alike, and what their sessions share. -/
structure Engines (L : Likeness σ τ) (S : Pool Session → Pool Session → Prop) (e : Engine σ)
    (e' : Engine τ) : Prop where
  sessions : S e.sessions e'.sessions
  around : L.Arounds e.around e'.around

/-- Sessions that are alike are equal, if environments that are alike are. -/
theorem Sessions.eq {L : Likeness σ τ} (hL : ∀ {env env'}, L.env env env' → env = env')
    {s s' : Session} (h : L.Sessions s s') : s = s' := by
  obtain ⟨name, env, vars⟩ := s
  obtain ⟨name', env', vars'⟩ := s'
  obtain ⟨rfl, henv, rfl⟩ := h
  cases henv with
  | none => rfl
  | some henv =>
      obtain rfl := hL henv
      rfl

/-- A session is like itself, if environments are. -/
theorem sessions_refl {L : Likeness σ τ} (hL : ∀ env, L.env env env) (s : Session) :
    L.Sessions s s := by
  refine ⟨rfl, ?_, rfl⟩
  cases s.env with
  | none => exact .none
  | some env => exact .some (hL env)

namespace Kept

variable {L : Likeness σ τ} {c : Collaborators σ} {d : Collaborators τ} (hL : L.Kept c d)
  {S : Pool Session → Pool Session → Prop} (hS : Pool.Lasting S) {e : Engine σ} {e' : Engine τ}
include hL hS

theorem engineRelease (h : L.Engines S e e') {s s' : Session} (hs : L.Sessions s s') :
    L.Engines S (e.release s) (e'.release s') :=
  ⟨hS.release h.sessions s s', hL.sessionGiveBack hs h.around⟩

/-- The same session is lent, if the schema has one environment. -/
theorem engineAcquire (hrefl : ∀ env, L.env env env) (h : L.Engines S e e')
    {definition : Definition}
    (hcompile : Environment.compile e.chance.left definition.set =
      Environment.compile e'.chance.left definition.set) :
    Alike (L.Engines S) (e.acquire definition) (e'.acquire definition) := by
  have hlent := hS.acquire h.sessions
  rw [Engine.acquire, Engine.acquire, hcompile]
  generalize e.sessions.acquire = x, e'.sessions.acquire = y at hlent ⊢
  cases hlent with
  | @intro s p q hpq =>
      have hengines : L.Engines S { e with sessions := p, chance := e.chance.right }
          { e' with sessions := q, chance := e'.chance.right } := ⟨hpq, h.around⟩
      dsimp only
      cases Environment.compile e'.chance.left definition.set with
      | error f => exact ⟨engineRelease hL hS hengines (sessions_refl hrefl s)⟩
      | ok env => exact ⟨hengines⟩

/-- A check with a session of its own comes to the same. -/
theorem engineVerify (hrefl : ∀ env, L.env env env) (h : L.Engines S e e') (target : String)
    {definition : Definition}
    (hcompile : Environment.compile e.chance.left definition.set =
      Environment.compile e'.chance.left definition.set)
    (hsettled : L.shared ∨ ∀ m ∈ e.verifyMoments c target definition, m.Settled c) :
    Alike (L.Engines S) (e.verify c target definition) (e'.verify d target definition) := by
  have hacquired := hL.engineAcquire hS hrefl h hcompile
  rw [Engine.verifyMoments] at hsettled
  rw [Engine.verify, Engine.verify]
  generalize e.acquire definition = x, e'.acquire definition = y at hacquired hsettled ⊢
  cases hacquired with
  | @intro result e e' h =>
      cases result with
      | error f => exact ⟨h⟩
      | ok s =>
          have hverified := hL.verify (sessions_refl hrefl s) h.around target definition hsettled
          dsimp only
          generalize s.verify c target definition e.around = x,
            s.verify d target definition e'.around = y at hverified ⊢
          cases hverified with
          | @intro verdict x y hxy =>
              have hchecked : L.Engines S { e with around := x.2 } { e' with around := y.2 } :=
                ⟨h.sessions, hxy.2⟩
              exact ⟨engineRelease hL hS hchecked hxy.1⟩

end Kept

end Likeness

end HttpProbe
