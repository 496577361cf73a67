/-
**Pooling cannot be seen.**

How many objects a pool may keep waiting decides how often one is made anew, and nothing else.  Take
two engines that may keep different numbers of sessions and of models.  Whatever their callers do,
they give the same answers, lend the same sessions, send the same requests, and have equally much on
loan.  Only what is drawn at random can tell them apart: random defaults are drawn anew in each engine, so
schemas that draw are left out; and unless both evaluate expressions by the same chance, these must be
settled.

Main definitions:

* `Pool.Interchangeable` — two pools with equally much on loan, in which whatever waits is blank;
* `Outside.Matches` — states of collaborators that differ at most in the chance that is left;
* `Likeness.pooled` — systems that differ in their pools only;
* `Fleet.Interchangeable` — **fleets that differ in what waits**;
* `Fleet.View`, `Fleet.history` — what callers see of a fleet, after each of several operations.

Main results:

* `Likeness.kept_pooled` — performing rules keeps pools interchangeable;
* `Fleet.Interchangeable.history` — so does every operation, and it is answered the same;
* `Fleet.history_eq_of_pooling` — the same is seen whatever the pools may keep;
* `Fleet.history_ne_of_chance` — what is not settled can hold in one engine and not in another.
-/

import HttpProbe.Proofs.Fleets

set_option autoImplicit false
set_option relaxedAutoImplicit false

namespace HttpProbe

/-! ### Pools -/

namespace Pool

variable {α : Type} [Recyclable α] [Renewable α]

/-- Two pools with equally much on loan, in which whatever waits is blank. -/
structure Interchangeable (p q : Pool α) : Prop where
  outstanding : p.outstanding = q.outstanding
  clean : p.Clean
  clean' : q.Clean

namespace Interchangeable

variable {p q : Pool α}

theorem new (maxIdle maxIdle' : Nat) :
    (Pool.new maxIdle : Pool α).Interchangeable (Pool.new maxIdle') :=
  ⟨rfl, clean_new maxIdle, clean_new maxIdle'⟩

end Interchangeable

/-- Both lend a blank object, be it one that waited or a new one. -/
theorem lasting_interchangeable : Lasting (Interchangeable : Pool α → Pool α → Prop) where
  acquire := by
    intro p q h
    have hp := acquire_of_clean h.clean
    have hq := acquire_of_clean h.clean'
    have hrest : p.acquire.2.Interchangeable q.acquire.2 := by
      refine ⟨?_, hp.2, hq.2⟩
      rw [outstanding_acquire, outstanding_acquire, h.outstanding]
    change Alike _ (p.acquire.1, _) (q.acquire.1, _)
    rw [hp.1, hq.1]
    exact ⟨hrest⟩
  release := by
    intro p q h a b
    refine ⟨?_, h.clean.release a, h.clean'.release b⟩
    rw [outstanding_release, outstanding_release, h.outstanding]

end Pool

/-- Two pools of each kind that differ in what waits. -/
structure Models.Interchangeable (m n : Models) : Prop where
  requests : m.requests.Interchangeable n.requests
  responses : m.responses.Interchangeable n.responses

/-- Lending and taking back keeps pools of models interchangeable. -/
theorem Models.lasting_interchangeable : Lasting Interchangeable :=
  lasting_of_pools Pool.lasting_interchangeable Pool.lasting_interchangeable fun _ _ =>
    ⟨fun h => ⟨h.requests, h.responses⟩, fun h => ⟨h.1, h.2⟩⟩

theorem Models.Interchangeable.outstanding {m n : Models} (h : m.Interchangeable n) :
    m.outstanding = n.outstanding :=
  Prod.ext h.requests.outstanding h.responses.outstanding

/-! ### Rules -/

/-- States of collaborators that differ at most in the chance that is left, and not in that either if it is
shared. -/
structure Outside.Matches {τ : Type} (shared : Prop) (o o' : Outside τ) : Prop where
  transport : o.transport = o'.transport
  patterns : o.patterns = o'.patterns
  chance : shared → o.chance = o'.chance

namespace Likeness

variable {τ : Type} {shared : Prop}

/-- Systems that differ in their pools only, and in the chance that is left unless it is shared. -/
def pooled (shared : Prop) : Likeness (Outside τ) (Outside τ) where
  shared := shared
  models := Models.Interchangeable
  env := (· = ·)
  outside := Outside.Matches shared
  journal := (· = ·)

/-- **Performing rules keeps pools interchangeable.** -/
theorem kept_pooled (shared : Prop)
    (exchange : Http.Request → Bool → τ → Except TransportFault Http.RawResponse × τ) :
    (pooled shared).Kept (.standard exchange) (.standard exchange) where
  models := Models.lasting_interchangeable
  note := by
    rintro m n j _ h rfl request follow
    change j ++ [⟨request, follow, m.outstanding⟩] = j ++ [⟨request, follow, n.outstanding⟩]
    rw [h.outstanding]
  exchange := by
    intro o o' ho request follow
    change Alike _ (Collaborators.exchangeBy exchange request follow o)
      (Collaborators.exchangeBy exchange request follow o')
    rw [Collaborators.exchangeBy, Collaborators.exchangeBy, ho.transport]
    exact ⟨⟨rfl, ho.patterns, ho.chance⟩⟩
  extract := by
    intro s t o o' h ho pattern text
    change Alike _ (Collaborators.search pattern text s o)
      (Collaborators.search pattern text t o')
    rw [Collaborators.search, Collaborators.search, Extraction.extract, Extraction.extract,
      ho.patterns]
    rcases Extraction.ready o'.patterns pattern with ⟨f | r, kept⟩
    · exact ⟨⟨h, ho.transport, rfl, ho.chance⟩⟩
    · dsimp only
      cases Extraction.captures r text with
      | error f => exact ⟨⟨h, ho.transport, rfl, ho.chance⟩⟩
      | ok found =>
          exact ⟨⟨Models.lasting_interchangeable.write h found, ho.transport, rfl, ho.chance⟩⟩
  evaluate := by
    rintro env _ o o' rfl ho expression vars hsettled
    obtain ⟨hverdict, henv⟩ := Environment.evaluate_of_settled
      (hsettled.imp_left fun hs => congrArg Chance.left (ho.chance hs))
    exact ⟨hverdict, henv, ho.transport, ho.patterns, fun hs => congrArg Chance.right (ho.chance hs)⟩

end Likeness

/-! ### Fleets -/

namespace Fleet

variable {τ : Type} {shared : Prop}

/-- **Fleets that differ in what waits**, and in the chance that they draw with: the sessions in the slots are
the same. -/
abbrev Interchangeable (shared : Prop) : Fleet (Outside τ) → Fleet (Outside τ) → Prop :=
  (Likeness.pooled shared).Fleets Pool.Interchangeable Eq

theorem Interchangeable.new (maxIdleSessions maxIdleModels maxIdleSessions' maxIdleModels' : Nat)
    {outside outside' : Outside τ} (h : outside.Matches shared outside') (seed seed' : Chance) :
    Interchangeable shared (new (.new maxIdleSessions maxIdleModels outside seed))
      (new (.new maxIdleSessions' maxIdleModels' outside' seed')) :=
  ⟨⟨.new _ _, ⟨⟨.new _ _, .new _ _⟩, h, rfl⟩⟩, rfl⟩

/-! ### What callers see -/

/-- What callers see of a fleet: the sessions in the slots with their variables and declarations, the
state of the transport, the patterns that were compiled, the calls, and how many sessions and models are on
loan. -/
structure View (τ : Type) where
  held : List (String × Session)
  transport : τ
  patterns : Extraction.Patterns
  journal : List Call
  sessions : Nat
  models : Nat × Nat

/-- What callers see of a fleet. -/
def view (f : Fleet (Outside τ)) : View τ where
  held := f.held
  transport := f.engine.around.outside.transport
  patterns := f.engine.around.outside.patterns
  journal := f.engine.around.journal
  sessions := f.engine.sessions.outstanding
  models := f.engine.around.models.outstanding

/-- The answers to operations in a row, and what callers see after each of them. -/
def history (c : Collaborators (Outside τ)) :
    List Operation → Fleet (Outside τ) → List (Report × View τ)
  | [], _ => []
  | op :: rest, f =>
    let (report, f) := f.perform c op
    (report, f.view) :: history c rest f

theorem Interchangeable.view {f f' : Fleet (Outside τ)} (h : Interchangeable shared f f') :
    f.view = f'.view := by
  have haround := h.engine.around
  rw [Fleet.view, Fleet.view, h.held, haround.outside.transport, haround.outside.patterns,
    haround.journal, h.engine.sessions.outstanding, haround.models.outstanding]

/-- **Operations keep fleets interchangeable**, so they have the same history. -/
theorem Interchangeable.history {c : Collaborators (Outside τ)}
    (hc : (Likeness.pooled shared).Kept c c) {f f' : Fleet (Outside τ)}
    (h : Interchangeable shared f f') {ops : List Operation}
    (hops : ∀ op ∈ ops, op.draws = false)
    (hsettled : shared ∨ ∀ who, f.Settled c who ops) : f.history c ops = f'.history c ops := by
  induction ops generalizing f f' with
  | nil => rfl
  | cons op rest ih =>
      have hperformed : Alike (Interchangeable shared) (f.perform c op) (f'.perform c op) :=
        h.perform .rfl hc Pool.lasting_interchangeable (fun slot _ => outlasting_eq slot)
          (.inl (hops op List.mem_cons_self)) (hsettled.imp_right fun hall => (hall op.slot?).first)
      have hrest : ∀ op ∈ rest, op.draws = false :=
        fun o ho => hops o (List.mem_cons_of_mem op ho)
      have hlater : shared ∨ ∀ who, (f.perform c op).2.Settled c who rest :=
        hsettled.imp_right fun hall who => (hall who).rest
      rw [Fleet.history, Fleet.history]
      generalize f.perform c op = x, f'.perform c op = y at hperformed hlater ⊢
      cases hperformed with
      | @intro report f f' hf =>
          dsimp only
          rw [hf.view, ih hf hrest hlater]

/-- **Pooling cannot be seen.**  Take two engines that may keep different numbers of sessions and of models
waiting.  Let both evaluate expressions by the same chance, or let all that sessions are judged by in the
first of them be settled.  Then both have the same history, whatever is done with them: the same answers, and
after every operation the same sessions, the same calls, and equally much on loan. -/
theorem history_eq_of_pooling
    (exchange : Http.Request → Bool → τ → Except TransportFault Http.RawResponse × τ)
    (transport : τ) (patterns : Extraction.Patterns)
    (maxIdleSessions maxIdleModels maxIdleSessions' maxIdleModels' : Nat)
    (luck luck' seed seed' : Chance) {ops : List Operation} (hops : ∀ op ∈ ops, op.draws = false) :
    let c := Collaborators.standard exchange
    let f := new (.new maxIdleSessions maxIdleModels ⟨transport, patterns, luck⟩ seed)
    let f' := new (.new maxIdleSessions' maxIdleModels' ⟨transport, patterns, luck'⟩ seed')
    (luck = luck' ∨ ∀ who, f.Settled c who ops) → f.history c ops = f'.history c ops := by
  intro c f f' hluck
  have houtside : Outside.Matches (luck = luck') ⟨transport, patterns, luck⟩
      ⟨transport, patterns, luck'⟩ := ⟨rfl, rfl, id⟩
  have hfleets : Interchangeable (luck = luck') f f' :=
    .new maxIdleSessions maxIdleModels maxIdleSessions' maxIdleModels' houtside seed seed'
  exact hfleets.history (Likeness.kept_pooled _ exchange) hops hluck

/-- A session that is judged by its schema, goes back and is lent again. -/
theorem history_eq_of_two_acquires :
    let exchange : Http.Request → Bool → Nat → Except TransportFault Http.RawResponse × Nat :=
      fun _ _ sent => (.ok ⟨200, Http.Headers.empty, [], none, 3⟩, sent + 1)
    let c := Collaborators.standard exchange
    let rule : Rule := { Rule.get "/" with expression := "port == 80" }
    let probe : Definition := ⟨"probe", [("port", "80")], .chain [rule], .blank⟩
    let ops : List Operation :=
      [.acquire "first" probe, .start "first" "http://[::1]" [rule], .release "first",
        .acquire "first" probe]
    let f := new (.new 0 0 ⟨0, [], .constant 5⟩ (.constant 7))
    let f' := new (.new 2 3 ⟨0, [], .constant 6⟩ (.constant 8))
    (∀ op ∈ ops, op.draws = false) ∧ (∀ who, f.Settled c who ops) ∧
      f.history c ops = f'.history c ops := by
  intro exchange c rule probe ops f f'
  have hops : ∀ op ∈ ops, op.draws = false := by decide +kernel
  have hsettled : ∀ who, f.Settled c who ops := by
    intro who
    by_cases hwho : some "first" = who
    · subst hwho
      exact settled_of_plain (by decide +kernel)
    · intro m hm
      simp [life, events, ops, Operation.slot?, hwho] at hm
  exact ⟨hops, hsettled, history_eq_of_pooling exchange 0 [] 0 0 2 3 (.constant 5) (.constant 6)
    (.constant 7) (.constant 8) hops (.inr hsettled)⟩

/-- **Chance can be seen**: a rule whose expression draws, or reads a name that a variable and the exchange
contest, holds in one engine and does not in another, which may keep more. -/
theorem history_ne_of_chance :
    let exchange : Http.Request → Bool → Unit → Except TransportFault Http.RawResponse × Unit :=
      fun _ _ _ => (.ok ⟨200, Http.Headers.empty, [], none, 0⟩, ())
    let c := Collaborators.standard exchange
    let probe : Definition := ⟨"probe", [], .groups [], .blank⟩
    let drawing : Rule :=
      { Rule.get "/" with expression := "randomInt(0, 9223372036854775807) == 5" }
    let contested : Rule :=
      { Rule.get "/" with
        set := [("request.method", .text "POST")], expression := "request.method == \"GET\"" }
    let ops := fun rule : Rule =>
      [Operation.acquire "s" probe, .start "s" "http://[::1]" [rule]]
    let f := new (.new 0 0 ⟨(), [], .constant 5⟩ (.constant 0))
    let f' := new (.new 4 8 ⟨(), [], .constant 0⟩ (.constant 0))
    ∀ rule ∈ [drawing, contested], (∀ op ∈ ops rule, op.draws = false) ∧
      (f.history c (ops rule)).map Prod.fst = [.done, .verdict true] ∧
      (f'.history c (ops rule)).map Prod.fst = [.done, .verdict false] ∧
      f.history c (ops rule) ≠ f'.history c (ops rule) := by
  intro exchange c probe drawing contested ops f f' rule hrule
  have hops : ∀ op ∈ ops rule, op.draws = false := by
    revert rule
    decide +kernel
  have hleft : (f.history c (ops rule)).map Prod.fst = [.done, .verdict true] := by
    revert rule
    decide +kernel
  have hright : (f'.history c (ops rule)).map Prod.fst = [.done, .verdict false] := by
    revert rule
    decide +kernel
  refine ⟨hops, hleft, hright, fun heq => ?_⟩
  rw [heq, hright] at hleft
  simp at hleft

end Fleet

end HttpProbe
