/-
**Fleets that look alike.**

The callers of two engines that are alike do the same with both.  They need not hold the same sessions, only
the same one in the slot that an operation is about.  Then the operation is answered the same, and leaves the
engines alike and the same session in the slot.

Main definitions:

* `Operation.draws` — does an operation bind a session to a schema that draws?
* `Fleet.Outlasting` — relations of the sessions in slots that outlast what is done with one of them;
* `Likeness.Fleets` — **fleets that are alike**.

Main results:

* `Likeness.Fleets.onSlot`, `Likeness.Fleets.check` — a change, or a check, of the session in a slot;
* `Likeness.Fleets.perform` — **an operation is answered the same, and leaves fleets alike**.
-/

import HttpProbe.Proofs.Likeness

set_option autoImplicit false
set_option relaxedAutoImplicit false

namespace HttpProbe

/-- Does an operation bind a session to a schema that draws? -/
def Operation.draws : Operation → Bool
  | .acquire _ d => Environment.draws d.set
  | .verifyOnce _ d => Environment.draws d.set
  | _ => false

/-- Sessions in slots that are the same as far as one slot is concerned, and stay so whatever is done with the
session in it. -/
structure Fleet.Outlasting (H : List (String × Session) → List (String × Session) → Prop)
    (slot : String) : Prop where
  same : ∀ {l l'}, H l l' → l.lookup slot = l'.lookup slot
  vacate : ∀ {l l'}, H l l' →
    H (l.filter fun h => h.1 != slot) (l'.filter fun h => h.1 != slot)
  occupy : ∀ {l l'}, H l l' → ∀ s, H (l ++ [(slot, s)]) (l' ++ [(slot, s)])
  replace : ∀ {l l'}, H l l' → ∀ s,
    H (l.map fun h => if h.1 = slot then (slot, s) else h)
      (l'.map fun h => if h.1 = slot then (slot, s) else h)

/-- The same sessions in all slots. -/
theorem Fleet.outlasting_eq (slot : String) : Outlasting Eq slot where
  same := by rintro l _ rfl; rfl
  vacate := by rintro l _ rfl; rfl
  occupy := by rintro l _ rfl s; rfl
  replace := by rintro l _ rfl s; rfl

namespace Likeness

variable {σ τ : Type}

/-- **Fleets that are alike**: their engines are, and so are the sessions in the slots. -/
structure Fleets (L : Likeness σ τ) (S : Pool Session → Pool Session → Prop)
    (H : List (String × Session) → List (String × Session) → Prop) (f : Fleet σ) (f' : Fleet τ) :
    Prop where
  engine : L.Engines S f.engine f'.engine
  held : H f.held f'.held

namespace Fleets

variable {L : Likeness σ τ} {c : Collaborators σ} {d : Collaborators τ}
  {S : Pool Session → Pool Session → Prop}
  {H : List (String × Session) → List (String × Session) → Prop} {f : Fleet σ} {f' : Fleet τ}
  (h : L.Fleets S H f f') {slot : String} (hH : Fleet.Outlasting H slot)
  (henv : ∀ {env env'}, L.env env env' ↔ env = env')
include h hH henv

/-- A change that comes to the same for the session in a slot comes to the same for the fleet. -/
theorem onSlot {change : Session → Surroundings σ → Report × Session × Surroundings σ}
    {change' : Session → Surroundings τ → Report × Session × Surroundings τ}
    (hchange : ∀ s, f.get? slot = some s →
      Alike L.Checks (change s f.engine.around) (change' s f'.engine.around)) :
    Alike (L.Fleets S H) (f.onSlot slot change) (f'.onSlot slot change') := by
  have hsame : f.get? slot = f'.get? slot := hH.same h.held
  rw [Fleet.onSlot, Fleet.onSlot, ← hsame]
  cases hs : f.get? slot with
  | none => exact ⟨h⟩
  | some s =>
      have hchanged := hchange s hs
      dsimp only
      generalize change s f.engine.around = x, change' s f'.engine.around = y at hchanged ⊢
      cases hchanged with
      | @intro report x y hxy =>
          obtain ⟨t, a⟩ := x
          obtain ⟨t', b⟩ := y
          obtain rfl : t = t' := hxy.1.eq henv.1
          exact ⟨⟨⟨h.engine.sessions, hxy.2⟩, hH.replace h.held t⟩⟩

/-- A check that comes to the same for the session in a slot, if what it is judged by is settled, comes to
the same for the fleet. -/
theorem check {check : Session → Surroundings σ → Verdict × Session × Surroundings σ}
    {check' : Session → Surroundings τ → Verdict × Session × Surroundings τ}
    {moments : Session → Surroundings σ → List (Moment σ)}
    (hsettled : L.shared ∨
      ∀ m, .performed m ∈ f.eventsOn slot (fun s a => (moments s a).map .performed) → m.Settled c)
    (hcheck : ∀ s, (L.shared ∨ ∀ m ∈ moments s f.engine.around, m.Settled c) →
      Alike L.Checks (check s f.engine.around) (check' s f'.engine.around)) :
    Alike (L.Fleets S H) (f.check slot check) (f'.check slot check') := by
  refine h.onSlot hH henv fun s hs => ?_
  have hmoments : L.shared ∨ ∀ m ∈ moments s f.engine.around, m.Settled c := by
    refine hsettled.imp_right fun hall m hm => hall m ?_
    rw [Fleet.eventsOn, hs]
    exact List.mem_map_of_mem hm
  have hchecked := hcheck s hmoments
  generalize check s f.engine.around = x, check' s f'.engine.around = y at hchecked ⊢
  cases hchecked with
  | intro h => exact ⟨h⟩

/-- Writing a variable comes to the same. -/
theorem onScene {change : Scene → Except Fault Unit × Scene}
    (hchange : ∀ {t t'}, Models.Scenes L.models t t' →
      Alike (Models.Scenes L.models) (change t) (change t')) :
    Alike (L.Fleets S H) (f.onScene slot change) (f'.onScene slot change) := by
  refine h.onSlot hH henv fun s _ => ?_
  have hs : L.Sessions s s := sessions_refl (fun _ => henv.2 rfl) s
  have hchanged := Kept.onScene hs h.engine.around hchange
  generalize s.onScene f.engine.around change = x, s.onScene f'.engine.around change = y
    at hchanged ⊢
  cases hchanged with
  | intro h => exact ⟨h⟩

variable (hL : L.Kept c d) (hS : Pool.Lasting S)
include hL hS

theorem vacate : L.Fleets S H (f.vacate slot) (f'.vacate slot) := by
  have hsame : f.get? slot = f'.get? slot := hH.same h.held
  rw [Fleet.vacate, Fleet.vacate, hsame]
  cases f'.get? slot with
  | none => exact h
  | some s =>
      have hs : L.Sessions s s := sessions_refl (fun _ => henv.2 rfl) s
      exact ⟨hL.engineRelease hS h.engine hs, hH.vacate h.held⟩

theorem occupy (s : Session) : L.Fleets S H (f.occupy slot s) (f'.occupy slot s) := by
  have hvacant := h.vacate hH henv hL hS
  exact ⟨hvacant.engine, hH.occupy hvacant.held s⟩

omit hH in
/-- **An operation is answered the same, and leaves fleets alike.**  If it binds a session to a schema that
draws, the engines must draw alike; and either chance is shared, or what a session is judged by is settled. -/
theorem perform {op : Operation} (hH : ∀ slot, op.slot? = some slot → Fleet.Outlasting H slot)
    (hdraws : op.draws = false ∨ f.engine.chance = f'.engine.chance)
    (hsettled : L.shared ∨ ∀ m, .performed m ∈ f.eventsOf c op → m.Settled c) :
    Alike (L.Fleets S H) (f.perform c op) (f'.perform d op) := by
  have hM := hL.models
  have hrefl : ∀ s, L.Sessions s s := sessions_refl fun _ => henv.2 rfl
  have haround := h.engine.around
  have hcompile : ∀ schema, (op.draws = false → Environment.draws schema = false) →
      Environment.compile f.engine.chance.left schema =
        Environment.compile f'.engine.chance.left schema := by
    intro schema hschema
    rcases hdraws with hdraws | hchance
    · exact Environment.compile_of_not_draws (hschema hdraws) _ _
    · rw [hchance]
  cases op with
  | acquire slot definition =>
      have hacquired := hL.engineAcquire hS (fun _ => henv.2 rfl) h.engine
        (hcompile definition.set id)
      rw [Fleet.perform, Fleet.perform]
      generalize f.engine.acquire definition = x, f'.engine.acquire definition = y at hacquired ⊢
      cases hacquired with
      | @intro result e e' he =>
          have hfleets : L.Fleets S H { f with engine := e } { f' with engine := e' } := ⟨he, h.held⟩
          cases result with
          | error fault => exact ⟨hfleets⟩
          | ok s => exact ⟨hfleets.occupy (hH slot rfl) henv hL hS s⟩
  | lend slot name o => exact h.onScene (hH slot rfl) henv fun ht => hM.put ht name o
  | bring slot name o => exact h.onScene (hH slot rfl) henv fun ht => hM.bring ht name o
  | start slot target rules =>
      refine h.check (hH slot rfl) henv hsettled fun s hs => ?_
      exact hL.start (hrefl s) haround target rules hs
  | startByGroups slot target groups =>
      refine h.check (hH slot rfl) henv hsettled fun s hs => ?_
      exact hL.startByGroups (hrefl s) haround target groups hs
  | verify slot target definition =>
      refine h.check (hH slot rfl) henv hsettled fun s hs => ?_
      exact hL.verify (hrefl s) haround target definition hs
  | verifyOnce target definition =>
      have hverified := hL.engineVerify hS (fun _ => henv.2 rfl) h.engine target
        (hcompile definition.set id)
        (hsettled.imp_right fun hall m hm => hall m (Fleet.mem_eventsOf_verifyOnce hm))
      rw [Fleet.perform, Fleet.perform]
      generalize f.engine.verify c target definition = x, f'.engine.verify d target definition = y
        at hverified ⊢
      cases hverified with
      | @intro verdict e e' he =>
          have hfleets : L.Fleets S H { f with engine := e } { f' with engine := e' } := ⟨he, h.held⟩
          exact ⟨hfleets⟩
  | reset slot =>
      rw [Fleet.perform, Fleet.perform]
      refine h.onSlot (hH slot rfl) henv fun s _ => ?_
      exact ⟨⟨hrefl s.reset, hL.sessionGiveBack (hrefl s) haround⟩⟩
  | release slot => exact ⟨h.vacate (hH slot rfl) henv hL hS⟩

end Fleets

end Likeness

end HttpProbe
