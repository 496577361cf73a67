/-
**The accounts of an engine.**

An engine counts the sessions and the models that it has on loan.  Whatever its callers do, and
however the rules that they perform end, the sessions on loan are those that are held, and the models
on loan are the handles in the variables of those sessions.  While a request is being sent there is
one request more on loan, the one that is sent.

Main definitions:

* `handles` — how many variables of several sessions hold a handle of a kind;
* `Engine.Balanced` — **the accounts are those of the sessions that live**;
* `Operation.Lends` — operations that put no model of the caller's into a variable.

Main results:

* `Engine.Balanced.acquire`, `Engine.Balanced.release`, `Engine.Balanced.verify` — the operations of
  the engine keep the accounts;
* `Fleet.balanced_perform` — **every operation keeps the accounts**;
* `Fleet.accounts_of_reachable` — the accounts in every state, and at every exchange.
-/

import HttpProbe.Proofs.Balance
import HttpProbe.Proofs.Exchanges

set_option autoImplicit false
set_option relaxedAutoImplicit false

namespace HttpProbe

-- Sums are those of the core library, also where Mathlib is in scope.
attribute [local instance (1100)] Zero.ofOfNat0

/-- How many variables of several sessions hold a value of a kind. -/
def handles (k : Kind) (live : List Variables) : Nat := (live.map fun vars => vars.count k).sum

theorem handles_perm {k : Kind} {live live' : List Variables} (h : live.Perm live') :
    handles k live = handles k live' :=
  (h.map _).sum_nat

/-! ### Fresh sessions -/

/-- The defaults of an environment are scalars. -/
theorem Environment.mem_values_seed (env : Environment) {vars : Variables}
    (h : ∀ v ∈ vars.values, ∃ x, v = .scalar x) :
    ∀ v ∈ (env.seed vars).values, ∃ x, v = .scalar x := by
  rw [Environment.seed]
  induction env.declarations generalizing vars with
  | nil => exact h
  | cons d rest ih =>
      refine ih ?_
      intro v hv
      rcases Variables.mem_values_insert hv with rfl | hv
      · exact ⟨d.default, rfl⟩
      · exact h v hv

/-- Scalars hold nothing on loan. -/
theorem Variables.count_of_scalars {vars : Variables}
    (h : ∀ v ∈ vars.values, ∃ x, v = .scalar x) {k : Kind} (hk : k.IsHandle) :
    vars.count k = 0 := by
  refine List.countP_eq_zero.2 ?_
  intro v hv
  obtain ⟨x, rfl⟩ := h v hv
  have hx := Value.count_scalar x hk
  intro heq
  rw [Value.count, if_pos (of_decide_eq_true heq)] at hx
  cases hx

namespace Engine

variable {σ : Type}

/-! ### The accounts -/

/-- **The accounts are those of the sessions that live**: sessions and models on loan are counted by
the sessions, and by the handles among their variables.  Sessions that wait are blank. -/
structure Balanced (e : Engine σ) (live : List Session) : Prop where
  sessions : e.sessions.outstanding = live.length
  clean : e.sessions.Clean
  onLoan : ∀ s ∈ live, ∀ v ∈ s.vars.values, v.OnLoan
  lent : ∀ k, k.IsHandle → e.around.models.lent k = handles k (live.map Session.vars)

theorem balanced_new (maxIdleSessions maxIdleModels : Nat) (outside : σ) (chance : Chance) :
    (new maxIdleSessions maxIdleModels outside chance).Balanced [] := by
  refine ⟨rfl, Pool.clean_new maxIdleSessions, ?_, ?_⟩
  · intro s hs
    cases hs
  · intro k hk
    rcases hk with rfl | rfl <;> rfl

namespace Balanced

variable {e : Engine σ} {s : Session} {live : List Session}

theorem perm (h : e.Balanced live) {live' : List Session} (hp : live.Perm live') :
    e.Balanced live' := by
  refine ⟨h.sessions.trans hp.length_eq, h.clean, ?_, ?_⟩
  · intro s hs
    exact h.onLoan s (hp.mem_iff.2 hs)
  · intro k hk
    exact (h.lent k hk).trans (handles_perm (hp.map _))

/-- What one session sees of the accounts. -/
theorem scene (h : e.Balanced (s :: live)) :
    (s.scene e.around).Balanced fun k => handles k (live.map Session.vars) :=
  ⟨h.onLoan s List.mem_cons_self, h.lent⟩

/-- A session that keeps its balance keeps the accounts. -/
theorem change (h : e.Balanced (s :: live)) {s' : Session} {a : Surroundings σ}
    (hs : (s'.scene a).Balanced fun k => handles k (live.map Session.vars)) :
    ({ e with around := a } : Engine σ).Balanced (s' :: live) := by
  refine ⟨h.sessions, h.clean, ?_, hs.lent⟩
  intro t ht
  rcases List.mem_cons.1 ht with rfl | ht
  · exact hs.onLoan
  · exact h.onLoan t (List.mem_cons_of_mem _ ht)

/-- A session that goes back takes the models of its variables with it. -/
theorem release (h : e.Balanced (s :: live)) : (e.release s).Balanced live := by
  refine ⟨?_, h.clean.release s, ?_, ?_⟩
  · have hsessions := h.sessions
    change e.sessions.outstanding - 1 = live.length
    rw [hsessions, List.length_cons]
    omega
  · intro t ht
    exact h.onLoan t (List.mem_cons_of_mem s ht)
  · intro k hk
    have hclear := h.scene.clear.lent k hk
    change (e.around.models.giveBackAll s.vars.values).lent k = _
    exact hclear.trans (Nat.zero_add _)

/-- A session that is lent has no handles; an attempt that fails changes nothing. -/
theorem acquire (h : e.Balanced live) (d : Definition) :
    match e.acquire d with
    | (.error _, e') => e'.Balanced live
    | (.ok s, e') => e'.Balanced (s :: live) := by
  have hsessions := h.sessions
  have hclean := (Pool.acquire_of_clean h.clean).2
  rw [acquire_of_clean h.clean]
  cases Environment.compile e.chance.left d.set with
  | error f =>
      refine ⟨?_, hclean.release _, h.onLoan, h.lent⟩
      change e.sessions.acquire.2.outstanding - 1 = live.length
      rw [Pool.outstanding_acquire]
      omega
  | ok env =>
      have hseed : ∀ v ∈ (env.seed .empty).values, ∃ x, v = .scalar x := by
        refine env.mem_values_seed ?_
        intro v hv
        cases hv
      refine ⟨?_, hclean, ?_, ?_⟩
      · change e.sessions.acquire.2.outstanding = live.length + 1
        rw [Pool.outstanding_acquire, hsessions]
      · intro t ht v hv
        rcases List.mem_cons.1 ht with rfl | ht
        · obtain ⟨x, rfl⟩ := hseed v hv
          trivial
        · exact h.onLoan t ht v hv
      · intro k hk
        have hnone := Variables.count_of_scalars hseed hk
        change e.around.models.lent k = (env.seed .empty).count k + _
        rw [hnone, Nat.zero_add]
        exact h.lent k hk

/-- A check with a session of its own leaves the accounts as they were. -/
theorem verify {c : Collaborators σ} (hc : c.WritesScalars) (h : e.Balanced live)
    (target : String) (d : Definition) : (e.verify c target d).2.Balanced live := by
  -- the session of its own lives beside the others, and then goes back
  have hacquire := h.acquire d
  rw [Engine.verify]
  generalize e.acquire d = result at hacquire ⊢
  rcases result with ⟨_ | s, e'⟩
  · exact hacquire
  · exact (hacquire.change (Session.balanced_verify hc target d hacquire.scene)).release

end Balanced

end Engine

/-! ### The accounts at an exchange -/

/-- At an exchange, the models on loan are the handles of the sessions that live and so many more,
and the request that is sent. -/
def Exchange.Accounted (x : Exchange) (more : Kind → Nat) : Prop :=
  x.call.outstanding =
    (handles .request x.live + more .request + 1, handles .response x.live + more .response)

theorem handles_append (k : Kind) (live live' : List Variables) :
    handles k (live ++ live') = handles k live + handles k live' := by
  simp [handles]

/-- Sessions that live beside the exchange account for what they hold. -/
theorem Exchange.Accounted.beside {x : Exchange} {others : List Variables}
    (h : x.Accounted fun k => handles k others) : (x.beside others).Accounted fun _ => 0 := by
  rw [Accounted] at h ⊢
  simpa [Exchange.beside, handles_append] using h

section Exchanges

variable {σ : Type} {c : Collaborators σ} {more : Kind → Nat} (target : String)

theorem Run.accounted_exchange? {run : Run σ} (h : run.scene.Balanced more) (rule : Rule) :
    ∀ x ∈ run.exchange? target rule, x.Accounted more := by
  intro x hx
  rw [exchange?] at hx
  cases hrequest : (rule.template target (run.merge rule.set).scene.vars).request with
  | error f =>
      rw [hrequest] at hx
      cases hx
  | ok q =>
      rw [hrequest] at hx
      cases hx
      have hasking := (h.merge rule.set).lendRequest q
      have hrequests := hasking.lent .request (.inl rfl)
      have hresponses := hasking.lent .response (.inr rfl)
      refine Prod.ext ?_ ?_
      · change (run.scene.merge rule.set).models.lendRequest.2.lent .request = _
        rw [hrequests]
        rfl
      · change (run.scene.merge rule.set).models.lendRequest.2.lent .response = _
        rw [hresponses]
        rfl

theorem Run.accounted_exchanges (hc : c.WritesScalars) {run : Run σ}
    (h : run.scene.Balanced more) (rules : List Rule) :
    ∀ x ∈ run.exchanges c target rules, x.Accounted more := by
  induction rules generalizing run with
  | nil =>
      intro x hx
      cases hx
  | cons rule rest ih =>
      intro x hx
      have hfirst := accounted_exchange? target h rule x
      by_cases hholds : (run.perform c target rule).1 = .ok true
      · rw [exchanges_of_holds hholds] at hx
        rcases List.mem_append.1 hx with hx | hx
        · exact hfirst (Option.mem_toList.1 hx)
        · exact ih (balanced_perform hc h target rule) x hx
      · rw [exchanges_of_fails hholds] at hx
        exact hfirst (Option.mem_toList.1 hx)

theorem Session.accounted_startExchanges (hc : c.WritesScalars) (rules : List Rule) {s : Session}
    {a : Surroundings σ} (h : (s.scene a).Balanced more) :
    ∀ x ∈ s.startExchanges c target rules a, x.Accounted more := by
  intro x hx
  rw [startExchanges] at hx
  cases henv : s.env with
  | none =>
      rw [henv] at hx
      cases hx
  | some env =>
      rw [henv] at hx
      have hrun : (s.run env a).scene.Balanced more := h
      exact Run.accounted_exchanges target hc hrun rules x hx

theorem Session.accounted_groupExchanges (hc : c.WritesScalars) (groups : List RuleGroup)
    {s : Session} {a : Surroundings σ} (h : (s.scene a).Balanced more) :
    ∀ x ∈ groupExchanges c target groups s a, x.Accounted more := by
  induction groups generalizing s a with
  | nil =>
      intro x hx
      cases hx
  | cons g rest ih =>
      intro x hx
      have hfirst := accounted_startExchanges target hc g.rules h x
      by_cases hnext : (s.start c target g.rules a).1 = .ok false
      · rw [groupExchanges_of_next hnext] at hx
        rcases List.mem_append.1 hx with hx | hx
        · exact hfirst hx
        · exact ih (balanced_start hc target g.rules h) x hx
      · rw [groupExchanges_of_last hnext] at hx
        exact hfirst hx

theorem Session.accounted_verifyExchanges (hc : c.WritesScalars) (d : Definition) {s : Session}
    {a : Surroundings σ} (h : (s.scene a).Balanced more) :
    ∀ x ∈ s.verifyExchanges c target d a, x.Accounted more := by
  intro x hx
  rw [verifyExchanges] at hx
  cases hrules : d.rules with
  | chain rules =>
      rw [hrules] at hx
      exact accounted_startExchanges target hc rules h x hx
  | groups groups =>
      rw [hrules] at hx
      exact accounted_groupExchanges target hc groups h x hx

end Exchanges

/-! ### Operations -/

/-- Is the offer a scalar? -/
def Offer.IsScalar : Offer → Prop
  | .scalar _ => True
  | _ => False

/-- Operations that put no model of the caller's into a variable. -/
def Operation.Lends : Operation → Prop
  | .bring _ _ o => o.IsScalar
  | _ => True

namespace Fleet

variable {σ : Type}

/-- The accounts of the engine are those of the sessions in the slots. -/
structure Balanced (f : Fleet σ) : Prop where
  distinct : Slots.Distinct f.held
  engine : f.engine.Balanced (f.held.map Prod.snd)

theorem balanced_new {e : Engine σ} (h : e.Balanced []) : (new e).Balanced :=
  ⟨List.nodup_nil, h⟩

namespace Balanced

variable {f : Fleet σ} {slot : String} {s : Session}

/-- The session in a slot, and the others. -/
theorem focus (h : f.Balanced) (hs : f.get? slot = some s) :
    f.engine.Balanced (s :: (f.others slot).map Prod.snd) :=
  h.engine.perm ((Slots.perm_cons_filter h.distinct hs).map Prod.snd)

/-- A change of one session that keeps its balance keeps the accounts. -/
theorem onSlot (h : f.Balanced)
    {change : Session → Surroundings σ → Report × Session × Surroundings σ}
    (hchange : ∀ s a more, (s.scene a).Balanced more →
      ((change s a).2.1.scene (change s a).2.2).Balanced more) (slot : String) :
    (f.onSlot slot change).2.Balanced := by
  rw [Fleet.onSlot]
  cases hs : f.get? slot with
  | none => exact h
  | some s =>
      have hslot := h.focus hs
      have hchanged := hslot.change (hchange s f.engine.around _ hslot.scene)
      have hperm := Slots.perm_replace h.distinct hs (change s f.engine.around).2.1
      refine ⟨?_, hchanged.perm ?_⟩
      · exact Slots.distinct_replace h.distinct slot _
      · exact (hperm.map Prod.snd).symm

theorem vacate (h : f.Balanced) (slot : String) : (f.vacate slot).Balanced := by
  rw [Fleet.vacate]
  cases hs : f.get? slot with
  | none => exact h
  | some s => exact ⟨Slots.distinct_filter h.distinct _, (h.focus hs).release⟩

theorem accounted_during (h : f.Balanced)
    {exchanges : Session → Surroundings σ → List Exchange}
    (hx : ∀ s a more, (s.scene a).Balanced more → ∀ x ∈ exchanges s a, x.Accounted more)
    (slot : String) : ∀ x ∈ f.during slot exchanges, x.Accounted fun _ => 0 := by
  intro x hmem
  rw [during] at hmem
  cases hs : f.get? slot with
  | none =>
      rw [hs] at hmem
      cases hmem
  | some s =>
      rw [hs] at hmem
      obtain ⟨y, hy, rfl⟩ := List.mem_map.1 hmem
      refine Exchange.Accounted.beside (hx s f.engine.around _ ?_ y hy)
      have hscene := (h.focus hs).scene
      rw [List.map_map] at hscene
      exact hscene

/-- A slot that is free is taken by a session that is lent. -/
theorem occupy {e : Engine σ} {held : List (String × Session)} (hd : Slots.Distinct held)
    (h : e.Balanced (s :: held.map Prod.snd)) (slot : String) :
    (Fleet.occupy ⟨e, held⟩ slot s).Balanced := by
  have hfree : ∀ {held' : List (String × Session)}, Slots.Distinct held' →
      (∀ x ∈ held', x.1 ≠ slot) → Slots.Distinct (held' ++ [(slot, s)]) := by
    intro held' hd' hne
    rw [Slots.Distinct, List.map_append]
    refine List.nodup_append.2 ⟨hd', by simp, ?_⟩
    intro n hn m hm heq
    obtain ⟨x, hx, rfl⟩ := List.mem_map.1 hn
    exact hne x hx (heq.trans (List.mem_singleton.1 hm))
  have hlast : ∀ held' : List (String × Session),
      (s :: held'.map Prod.snd).Perm ((held' ++ [(slot, s)]).map Prod.snd) := by
    intro held'
    rw [List.map_append]
    exact (List.perm_append_singleton s _).symm
  rw [Fleet.occupy, Fleet.vacate]
  cases hs : Fleet.get? ⟨e, held⟩ slot with
  | none =>
      refine ⟨hfree hd ?_, h.perm (hlast held)⟩
      intro x hx heq
      exact bne_iff_ne.1 (List.lookup_eq_none_iff.1 hs x hx) heq.symm
  | some t =>
      -- the session that was there goes back once the new one is lent
      have hperm := (Slots.perm_cons_filter hd hs).map Prod.snd
      have hboth : e.Balanced (t :: s :: (Fleet.others ⟨e, held⟩ slot).map Prod.snd) :=
        h.perm ((hperm.cons s).trans (List.Perm.swap _ _ _))
      refine ⟨hfree (Slots.distinct_filter hd _) ?_, hboth.release.perm (hlast _)⟩
      intro x hx
      exact bne_iff_ne.1 (List.mem_filter.1 hx).2

end Balanced

variable {c : Collaborators σ}

/-- **Every operation keeps the accounts.** -/
theorem balanced_perform (hc : c.WritesScalars) {f : Fleet σ} (h : f.Balanced) {op : Operation}
    (hop : op.Lends) : (f.perform c op).2.Balanced := by
  cases op with
  | acquire slot d =>
      have hacquire := h.engine.acquire d
      rw [perform]
      generalize f.engine.acquire d = result at hacquire ⊢
      rcases result with ⟨_ | s, e⟩
      · exact ⟨h.distinct, hacquire⟩
      · exact Balanced.occupy h.distinct hacquire slot
  | lend slot name o =>
      refine h.onSlot ?_ slot
      intro s a more hs
      exact hs.put name o
  | bring slot name o =>
      cases o with
      | scalar x =>
          refine h.onSlot ?_ slot
          intro s a more hs
          exact hs.insert_scalar name x
      | request template => exact hop.elim
      | response raw template => exact hop.elim
  | start slot target rules =>
      refine h.onSlot ?_ slot
      intro s a more hs
      exact Session.balanced_start hc target rules hs
  | startByGroups slot target groups =>
      refine h.onSlot ?_ slot
      intro s a more hs
      exact Session.balanced_startByGroups hc target groups hs
  | verify slot target d =>
      refine h.onSlot ?_ slot
      intro s a more hs
      exact Session.balanced_verify hc target d hs
  | verifyOnce target d => exact ⟨h.distinct, h.engine.verify hc target d⟩
  | reset slot =>
      refine h.onSlot ?_ slot
      intro s a more hs
      exact hs.clear
  | release slot => exact h.vacate slot

/-- What operations in a row keep. -/
theorem balanced_performAll (hc : c.WritesScalars) {ops : List Operation}
    (hops : ∀ op ∈ ops, op.Lends) {f : Fleet σ} (h : f.Balanced) :
    (performAll c ops f).2.Balanced := by
  induction ops generalizing f with
  | nil => exact h
  | cons op rest ih =>
      have hop := hops op List.mem_cons_self
      have hrest : ∀ op ∈ rest, op.Lends := fun o ho => hops o (List.mem_cons_of_mem op ho)
      exact ih hrest (balanced_perform hc h hop)

/-- At every exchange in the middle of an operation, the models on loan are the handles of the
sessions that live, and the request that is sent. -/
theorem accounted_exchanges (hc : c.WritesScalars) {f : Fleet σ} (h : f.Balanced)
    (op : Operation) : ∀ x ∈ f.exchanges c op, x.Accounted fun _ => 0 := by
  intro x hx
  cases op with
  | start slot target rules =>
      refine h.accounted_during ?_ slot x hx
      intro s a more hs
      exact Session.accounted_startExchanges target hc rules hs
  | startByGroups slot target groups =>
      refine h.accounted_during ?_ slot x hx
      intro s a more hs
      exact Session.accounted_groupExchanges target hc groups hs
  | verify slot target d =>
      refine h.accounted_during ?_ slot x hx
      intro s a more hs
      exact Session.accounted_verifyExchanges target hc d hs
  | verifyOnce target d =>
      have hacquire := h.engine.acquire d
      rw [exchanges] at hx
      generalize f.engine.acquire d = result at hacquire hx
      rcases result with ⟨_ | s, e⟩
      · cases hx
      · obtain ⟨y, hy, rfl⟩ := List.mem_map.1 hx
        refine Exchange.Accounted.beside ?_
        refine Session.accounted_verifyExchanges target hc d ?_ y hy
        have hscene := hacquire.scene
        rw [List.map_map] at hscene
        exact hscene
  | acquire slot d => cases hx
  | lend slot name o => cases hx
  | bring slot name o => cases hx
  | reset slot => cases hx
  | release slot => cases hx

/-- **The accounts in every state that callers can bring about.**  The sessions on loan are those in
the slots, and the models on loan are the handles in their variables.  Moreover, whatever operation
comes next, the calls that it writes down are those of its exchanges, and at each of them the models
on loan are the handles of all sessions that live just then, and the request that is sent. -/
theorem accounts_of_reachable (hc : c.WritesScalars) (maxIdleSessions maxIdleModels : Nat)
    (outside : σ) (chance : Chance) {ops : List Operation} (hops : ∀ op ∈ ops, op.Lends) :
    let f := (performAll c ops (new (.new maxIdleSessions maxIdleModels outside chance))).2
    f.engine.sessions.outstanding = f.held.length ∧
      f.engine.around.models.requests.outstanding = handles .request (heldVars f.held) ∧
      f.engine.around.models.responses.outstanding = handles .response (heldVars f.held) ∧
      ∀ op, (f.perform c op).2.engine.around.journal =
          f.engine.around.journal ++ (f.exchanges c op).map Exchange.call ∧
        ∀ x ∈ f.exchanges c op,
          x.call.outstanding = (handles .request x.live + 1, handles .response x.live) := by
  intro f
  have hnew := balanced_new (Engine.balanced_new maxIdleSessions maxIdleModels outside chance)
  have hf : f.Balanced := balanced_performAll hc hops hnew
  have hlive : (f.held.map Prod.snd).map Session.vars = heldVars f.held := List.map_map
  have hlent := hf.engine.lent
  rw [hlive] at hlent
  refine ⟨?_, hlent .request (.inl rfl), hlent .response (.inr rfl), ?_⟩
  · have hsessions := hf.engine.sessions
    rwa [List.length_map] at hsessions
  · intro op
    refine ⟨journal_perform c op f, ?_⟩
    intro x hx
    exact accounted_exchanges hc hf op x hx

/-- The accounts after a request was lent to a session under the name of the exchange, and a rule was
performed with it. -/
theorem accounts_of_lent_request :
    let c := Collaborators.standard fun _ _ (sent : Nat) =>
      (.ok ⟨200, Http.Headers.empty, [], none, 3⟩, sent + 1)
    let ops : List Operation :=
      [.acquire "first" ⟨"probe", [("port", "80")], .chain [], .blank⟩,
        .lend "first" "request" (.request none), .start "first" "http://host" [.get "/"]]
    c.WritesScalars ∧ (∀ op ∈ ops, op.Lends) ∧
      let f := (performAll c ops (new (.new 2 2 ⟨0, [], .constant 7⟩ (.constant 1)))).2
      f.engine.sessions.outstanding = f.held.length ∧
        f.engine.around.models.requests.outstanding = handles .request (heldVars f.held) ∧
        f.engine.around.models.responses.outstanding = handles .response (heldVars f.held) ∧
        ∀ op, (f.perform c op).2.engine.around.journal =
            f.engine.around.journal ++ (f.exchanges c op).map Exchange.call ∧
          ∀ x ∈ f.exchanges c op,
            x.call.outstanding = (handles .request x.live + 1, handles .response x.live) := by
  intro c ops
  have hc : c.WritesScalars := Collaborators.writesScalars_standard _
  have hops : ∀ op ∈ ops, op.Lends := by
    intro op hop
    simp only [ops, List.mem_cons, List.not_mem_nil, or_false] at hop
    rcases hop with rfl | rfl | rfl <;> trivial
  exact ⟨hc, hops, accounts_of_reachable hc 2 2 ⟨0, [], .constant 7⟩ (.constant 1) hops⟩

end Fleet

end HttpProbe
