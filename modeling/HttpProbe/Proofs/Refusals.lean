/-
**A session that is refused leaves no trace.**

The engine takes a session out of its pool before it knows whether the schema of the definition compiles.
If the schema does not, the session goes back, and nobody can tell that it was out: it was blank, as all
sessions that wait are, and there is room for it, since it was one of those that waited.  Only if none
waited is a session made for nothing, and then it waits for the next caller, if any may.

Main definitions:

* `Pool.Tidy` — no more objects wait than may, and all of them are blank;
* `Pool.Returned` — a pool to which everything came back that was lent meanwhile;
* `Fleet.Untouched` — a fleet to which nothing happened, but that a session more may wait;
* `Session.Fresh` — a session as it is lent.

Main results:

* `Pool.returned_once`, `Pool.Returned.trans` — one object that comes back at once, and several;
* `Fleet.tidy_perform`, `Fleet.tidy_performAll` — every operation leaves the pool of sessions tidy;
* `Fleet.untouched_of_failed`, `Fleet.untouched_of_all_failed` — sessions that are refused;
* `Fleet.acquire_leaves_no_trace` — **what is left of sessions that are refused**, and the next one.
-/

import HttpProbe.Proofs.Isolation
import HttpProbe.Proofs.Loans
import HttpProbe.Proofs.Seeding

set_option autoImplicit false
set_option relaxedAutoImplicit false

namespace HttpProbe

/-! ### Tidy pools -/

namespace Pool

variable {α : Type} [Recyclable α] [Renewable α] {p p' p'' : Pool α} {maxIdle : Nat}

/-- No more objects wait than may, and all of them are blank. -/
structure Tidy (maxIdle : Nat) (p : Pool α) : Prop where
  bounded : p.Bounded maxIdle
  clean : p.Clean

namespace Tidy

theorem new (maxIdle : Nat) : (Pool.new maxIdle : Pool α).Tidy maxIdle :=
  ⟨.new maxIdle, clean_new maxIdle⟩

theorem acquire (h : p.Tidy maxIdle) : p.acquire.2.Tidy maxIdle :=
  ⟨h.bounded.acquire, (acquire_of_clean h.clean).2⟩

theorem release (h : p.Tidy maxIdle) (a : α) : (p.release a).Tidy maxIdle :=
  ⟨h.bounded.release a, h.clean.release a⟩

end Tidy

/-! ### Objects that come back at once -/

/-- **A pool to which everything came back** that was lent meanwhile: so many objects, one after the other.
If objects waited, they wait again.  If none did, the first was made, and waits now; or, if none may wait,
each of them was made and discarded. -/
structure Returned (times : Nat) (p p' : Pool α) : Prop where
  maxIdle : p'.maxIdle = p.maxIdle
  outstanding : p'.outstanding = p.outstanding
  waiting : p.idle ≠ [] → p'.idle = p.idle ∧ p'.created = p.created
  kept : p.idle = [] → 1 ≤ p.maxIdle →
    p'.idle = [Renewable.blank] ∧ p'.created = p.created + 1
  discarded : p.idle = [] → p.maxIdle = 0 → p'.idle = [] ∧ p'.created = p.created + times

/-- An object that comes back at once leaves the pool as it was, but that it may have been made. -/
theorem returned_once (h : p.Tidy maxIdle) (a : α) : p.Returned 1 (p.acquire.2.release a) := by
  obtain ⟨most, idle, outstanding, created⟩ := p
  have hbound : most = maxIdle := h.bounded.bound
  have hidle : idle.length ≤ maxIdle := h.bounded.idle_le
  cases idle with
  | nil =>
      refine ⟨rfl, Nat.add_sub_cancel .., ?_, ?_, ?_⟩
      · intro hsome
        exact absurd rfl hsome
      · intro _ hroom
        have hput := idle_release_of_lt (p := ⟨most, [], outstanding + 1, created + 1⟩) hroom a
        exact ⟨hput.trans (by rw [Renewable.reset_eq]), rfl⟩
      · intro _ hzero
        have hfull : most ≤ 0 := Nat.le_of_eq hzero
        exact ⟨idle_release_of_le (p := ⟨most, [], outstanding + 1, created + 1⟩) hfull a, rfl⟩
  | cons b rest =>
      have hblank : b = Renewable.blank := h.clean b List.mem_cons_self
      -- the object came out of the pool, so its place is still free
      have hfree : rest.length < most := by
        rw [List.length_cons] at hidle
        omega
      have hput := idle_release_of_lt (p := ⟨most, rest, outstanding + 1, created⟩) hfree a
      refine ⟨rfl, Nat.add_sub_cancel .., ?_, ?_, ?_⟩
      · intro _
        exact ⟨hput.trans (by rw [Renewable.reset_eq, hblank]), rfl⟩
      · intro hnone
        cases hnone
      · intro hnone
        cases hnone

namespace Returned

variable {m n : Nat}

theorem trans (h : p.Returned m p') (h' : p'.Returned n p'') : p.Returned (m + n) p'' := by
  refine ⟨h'.maxIdle.trans h.maxIdle, h'.outstanding.trans h.outstanding, ?_, ?_, ?_⟩
  · intro hsome
    obtain ⟨hidle, hcreated⟩ := h.waiting hsome
    obtain ⟨hidle', hcreated'⟩ := h'.waiting (hidle ▸ hsome)
    exact ⟨hidle'.trans hidle, hcreated'.trans hcreated⟩
  · intro hnone hroom
    obtain ⟨hidle, hcreated⟩ := h.kept hnone hroom
    -- the one that was made is lent again and again
    have hsome : p'.idle ≠ [] := by
      rw [hidle]
      exact List.cons_ne_nil _ _
    obtain ⟨hidle', hcreated'⟩ := h'.waiting hsome
    exact ⟨hidle'.trans hidle, hcreated'.trans hcreated⟩
  · intro hnone hzero
    obtain ⟨hidle, hcreated⟩ := h.discarded hnone hzero
    obtain ⟨hidle', hcreated'⟩ := h'.discarded hidle (h.maxIdle.trans hzero)
    refine ⟨hidle', ?_⟩
    omega

/-- If objects may wait, one at most is made. -/
theorem created_le (h : p.Returned n p') (hroom : 1 ≤ p.maxIdle) : p'.created ≤ p.created + 1 := by
  by_cases hnone : p.idle = []
  · have hcreated := (h.kept hnone hroom).2
    omega
  · have hcreated := (h.waiting hnone).2
    omega

end Returned

end Pool

/-! ### The pool of sessions -/

section Tidiness

variable {σ : Type} {maxIdle : Nat}

namespace Engine

variable {e : Engine σ}

theorem tidy_acquire (h : e.sessions.Tidy maxIdle) (d : Definition) :
    (e.acquire d).2.sessions.Tidy maxIdle := by
  rw [acquire]
  cases Environment.compile e.chance.left d.set with
  | error fault => exact h.acquire.release _
  | ok env => exact h.acquire

theorem tidy_verify (h : e.sessions.Tidy maxIdle) (c : Collaborators σ) (target : String)
    (d : Definition) : (e.verify c target d).2.sessions.Tidy maxIdle := by
  have hacquired := tidy_acquire h d
  rw [verify]
  generalize e.acquire d = result at hacquired ⊢
  rcases result with ⟨_ | s, e'⟩
  · exact hacquired
  · exact hacquired.release _

end Engine

namespace Fleet

variable {f : Fleet σ}

theorem tidy_vacate (h : f.engine.sessions.Tidy maxIdle) (slot : String) :
    (f.vacate slot).engine.sessions.Tidy maxIdle := by
  rw [vacate]
  cases f.get? slot with
  | none => exact h
  | some s => exact h.release s

theorem tidy_onSlot (h : f.engine.sessions.Tidy maxIdle) (slot : String)
    (change : Session → Surroundings σ → Report × Session × Surroundings σ) :
    (f.onSlot slot change).2.engine.sessions.Tidy maxIdle := by
  rw [onSlot]
  cases f.get? slot with
  | none => exact h
  | some s => exact h

/-- **Every operation leaves the pool of sessions tidy**, whatever the collaborators do. -/
theorem tidy_perform (h : f.engine.sessions.Tidy maxIdle) (c : Collaborators σ) (op : Operation) :
    (f.perform c op).2.engine.sessions.Tidy maxIdle := by
  cases op with
  | acquire slot d =>
      have hacquired := Engine.tidy_acquire h d
      rw [perform]
      generalize f.engine.acquire d = result at hacquired ⊢
      rcases result with ⟨_ | s, e⟩
      · exact hacquired
      · exact tidy_vacate (f := ⟨e, f.held⟩) hacquired slot
  | lend slot name o => exact tidy_onSlot h slot _
  | bring slot name o => exact tidy_onSlot h slot _
  | start slot target rules => exact tidy_onSlot h slot _
  | startByGroups slot target groups => exact tidy_onSlot h slot _
  | verify slot target d => exact tidy_onSlot h slot _
  | verifyOnce target d => exact Engine.tidy_verify h c target d
  | reset slot => exact tidy_onSlot h slot _
  | release slot => exact tidy_vacate h slot

theorem tidy_performAll (h : f.engine.sessions.Tidy maxIdle) (c : Collaborators σ)
    (ops : List Operation) : (f.performAll c ops).2.engine.sessions.Tidy maxIdle := by
  induction ops generalizing f with
  | nil => exact h
  | cons op rest ih => exact ih (tidy_perform h c op)

end Fleet

end Tidiness

/-! ### Sessions as they are lent -/

/-- **A session as it is lent** for a definition: it has the name of the definition, it is bound to the
environment, and its variables are the defaults of the declarations. -/
structure Session.Fresh (s : Session) (d : Definition) (env : Environment) : Prop where
  definition : s.definition = d.name
  bound : s.env = some env
  vars : ∀ name v, s.vars.get? name = some v ↔
    ∃ decl ∈ env.declarations, decl.name = name ∧ .scalar decl.default = v

/-- A blank session is fresh once it is bound. -/
theorem Session.fresh_bind {chance : Chance} {d : Definition} {env : Environment}
    (h : Environment.compile chance d.set = .ok env) : (blank.bind d.name env).Fresh d env := by
  have hdistinct := (Environment.wellDeclared_of_compile h).distinct
  refine ⟨String.empty_append, rfl, ?_⟩
  intro name v
  exact Environment.get?_seed_iff hdistinct env.compiled name v

/-! ### Sessions that are refused -/

namespace Fleet

variable {σ : Type} {f f' f'' : Fleet σ} {maxIdle : Nat} {c : Collaborators σ}

/-- **A fleet to which nothing happened**, but that so many sessions were taken out of the pool and put
back. -/
structure Untouched (times : Nat) (f f' : Fleet σ) : Prop where
  held : f'.held = f.held
  around : f'.engine.around = f.engine.around
  sessions : f.engine.sessions.Returned times f'.engine.sessions

theorem Untouched.trans {m n : Nat} (h : f.Untouched m f') (h' : f'.Untouched n f'') :
    f.Untouched (m + n) f'' :=
  ⟨h'.held.trans h.held, h'.around.trans h.around, h.sessions.trans h'.sessions⟩

/-- A session is refused if the schema does not compile. -/
theorem untouched_of_error (h : f.engine.sessions.Tidy maxIdle) (slot : String) {d : Definition}
    {fault : Fault} (hcompile : Environment.compile f.engine.chance.left d.set = .error fault) :
    (f.perform c (.acquire slot d)).1 = .failed fault ∧
      f.Untouched 1 (f.perform c (.acquire slot d)).2 := by
  have hreturned := Pool.returned_once h Session.blank
  rw [perform, Engine.acquire_of_clean h.clean, hcompile]
  exact ⟨rfl, rfl, rfl, hreturned⟩

/-- A session is lent, and held, if the schema compiles. -/
theorem fresh_of_ok (h : f.engine.sessions.Tidy maxIdle) (slot : String) {d : Definition}
    {env : Environment} (hcompile : Environment.compile f.engine.chance.left d.set = .ok env) :
    (f.perform c (.acquire slot d)).1 = .done ∧
      ∃ s, (f.perform c (.acquire slot d)).2.get? slot = some s ∧ s.Fresh d env := by
  rw [perform, Engine.acquire_of_clean h.clean, hcompile]
  refine ⟨rfl, Session.blank.bind d.name env, ?_, Session.fresh_bind hcompile⟩
  exact (get?_occupy _ slot slot _).trans (if_pos rfl)

theorem untouched_of_failed (h : f.engine.sessions.Tidy maxIdle) {slot : String} {d : Definition}
    {fault : Fault} (hfailed : (f.perform c (.acquire slot d)).1 = .failed fault) :
    f.Untouched 1 (f.perform c (.acquire slot d)).2 := by
  cases hcompile : Environment.compile f.engine.chance.left d.set with
  | error _ => exact (untouched_of_error h slot hcompile).2
  | ok env =>
      have hdone : (f.perform c (.acquire slot d)).1 = .done := (fresh_of_ok h slot hcompile).1
      rw [hfailed] at hdone
      cases hdone

/-- The attempts to acquire sessions for several definitions, each for a slot. -/
def attempts (wanted : List (String × Definition)) : List Operation :=
  wanted.map fun w => .acquire w.1 w.2

/-- **Sessions that are refused in a row leave no more than one does.** -/
theorem untouched_of_all_failed (h : f.engine.sessions.Tidy maxIdle)
    {wanted : List (String × Definition)} (hne : wanted ≠ [])
    (hfailed : ∀ report ∈ (f.performAll c (attempts wanted)).1, ∃ fault, report = .failed fault) :
    f.Untouched wanted.length (f.performAll c (attempts wanted)).2 := by
  induction wanted generalizing f with
  | nil => exact absurd rfl hne
  | cons w rest ih =>
      obtain ⟨fault, hfirst⟩ : ∃ fault, (f.perform c (.acquire w.1 w.2)).1 = .failed fault :=
        hfailed _ List.mem_cons_self
      have huntouched := untouched_of_failed h hfirst
      cases rest with
      | nil => exact huntouched
      | cons w' rest =>
          have hrest := ih (tidy_perform h c (.acquire w.1 w.2)) (List.cons_ne_nil w' rest)
            fun report hreport => hfailed report (List.mem_cons_of_mem _ hreport)
          rw [List.length_cons, Nat.add_comm]
          exact huntouched.trans hrest

/-- **A session that is refused leaves no trace**, whatever was done before.  If the schema of a definition
does not compile, the caller is told why; the sessions in the slots, what they share, and the count of the
sessions on loan are as they were, and so are the sessions that wait, but that one waits afterwards if none
did and one may.  So any number of sessions that are refused in a row make one session at most.  If the
schema compiles, the session that is lent has the name of the definition, its environment, and the declared
defaults for variables. -/
theorem acquire_leaves_no_trace (c : Collaborators σ) (maxIdleSessions maxIdleModels : Nat)
    (outside : σ) (chance : Chance) (ops : List Operation) :
    let f := (performAll c ops (new (.new maxIdleSessions maxIdleModels outside chance))).2
    f.engine.sessions.maxIdle = maxIdleSessions ∧
    (∀ slot d, match Environment.compile f.engine.chance.left d.set with
      | .error fault => (f.perform c (.acquire slot d)).1 = .failed fault ∧
          f.Untouched 1 (f.perform c (.acquire slot d)).2
      | .ok env => (f.perform c (.acquire slot d)).1 = .done ∧
          ∃ s, (f.perform c (.acquire slot d)).2.get? slot = some s ∧ s.Fresh d env) ∧
    (∀ wanted, wanted ≠ [] →
      let (reports, f') := f.performAll c (attempts wanted)
      (∀ report ∈ reports, ∃ fault, report = .failed fault) →
        f.Untouched wanted.length f' ∧
          (1 ≤ maxIdleSessions → f'.engine.sessions.created ≤ f.engine.sessions.created + 1)) := by
  intro f
  have hnew : (new (.new maxIdleSessions maxIdleModels outside chance)).engine.sessions.Tidy
      maxIdleSessions := .new maxIdleSessions
  have htidy : f.engine.sessions.Tidy maxIdleSessions := tidy_performAll hnew c ops
  have hbound := htidy.bounded.bound
  refine ⟨hbound, ?_, ?_⟩
  · intro slot d
    cases hcompile : Environment.compile f.engine.chance.left d.set with
    | error fault => exact untouched_of_error htidy slot hcompile
    | ok env => exact fresh_of_ok htidy slot hcompile
  · intro wanted hne hfailed
    have huntouched := untouched_of_all_failed htidy hne hfailed
    refine ⟨huntouched, ?_⟩
    intro hroom
    rw [← hbound] at hroom
    exact huntouched.sessions.created_le hroom

/-- Two sessions that are refused make one. -/
example : let d : Definition := ⟨"broken", [("x", "(")], .chain [], .blank⟩
    let f := (performAll (.standard fun _ _ outside => (.error ⟨.timeout, ""⟩, outside))
      (attempts [("a", d), ("b", d)]) (new (.new 1 1 ⟨(), [], .constant 7⟩ (.constant 1)))).2
    (f.engine.sessions.outstanding, f.engine.sessions.idle.length, f.engine.sessions.created) =
      (0, 1, 1) := by
  decide +kernel

end Fleet

end HttpProbe
