/-
**Sessions in slots.**

Callers hold sessions in slots.  This module describes what callers can do as operations, and a run of
the whole as the operations performed one after the other.

Main definitions:

* `Fleet` — an engine and the sessions held in slots;
* `Operation`, `Report` — what callers do, and what they are answered;
* `Fleet.perform`, `Fleet.performAll` — performing one operation, and several.
-/

import HttpProbe.Engine

set_option autoImplicit false
set_option relaxedAutoImplicit false

namespace HttpProbe

/-- An engine and the sessions held in slots. -/
structure Fleet (σ : Type) where
  engine : Engine σ
  held : List (String × Session)

/-- What a caller does. -/
inductive Operation where
  | acquire (slot : String) (d : Definition)
  | lend (slot name : String) (o : Offer)
  | bring (slot name : String) (o : Offer)
  | start (slot target : String) (rules : List Rule)
  | startByGroups (slot target : String) (groups : List RuleGroup)
  | verify (slot target : String) (d : Definition)
  | verifyOnce (target : String) (d : Definition)
  | reset (slot : String)
  | release (slot : String)

/-- What a caller is answered. -/
inductive Report where
  | vacant
  | done
  | failed (f : Fault)
  | verdict (holds : Bool)
  deriving DecidableEq, Repr

/-- The answer to an attempt. -/
def Report.ofAttempt : Except Fault Unit → Report
  | .ok () => .done
  | .error f => .failed f

/-- The answer to a check. -/
def Report.ofVerdict : Verdict → Report
  | .ok b => .verdict b
  | .error f => .failed f

namespace Fleet

variable {σ : Type}

/-- No slot is taken. -/
def new (e : Engine σ) : Fleet σ := ⟨e, []⟩

/-- The session in a slot. -/
def get? (f : Fleet σ) (slot : String) : Option Session := f.held.lookup slot

/-- The sessions in the other slots. -/
def others (f : Fleet σ) (slot : String) : List (String × Session) :=
  f.held.filter fun h => h.1 != slot

/-- Gives the session in a slot back. -/
def vacate (f : Fleet σ) (slot : String) : Fleet σ :=
  match f.get? slot with
  | none => f
  | some s => ⟨f.engine.release s, f.others slot⟩

/-- Puts a session into a slot, and gives the one that was there back. -/
def occupy (f : Fleet σ) (slot : String) (s : Session) : Fleet σ :=
  let f := f.vacate slot
  { f with held := f.held ++ [(slot, s)] }

/-- Puts a session in place of the one in a slot. -/
def replace (f : Fleet σ) (slot : String) (s : Session) : Fleet σ :=
  { f with held := f.held.map fun h => if h.1 = slot then (slot, s) else h }

/-- Changes the session in a slot and what it shares. -/
def onSlot (f : Fleet σ) (slot : String)
    (change : Session → Surroundings σ → Report × Session × Surroundings σ) : Report × Fleet σ :=
  match f.get? slot with
  | none => (.vacant, f)
  | some s =>
    let (report, s, around) := change s f.engine.around
    (report, replace { f with engine := { f.engine with around := around } } slot s)

/-- A check of the session in a slot. -/
def check (f : Fleet σ) (slot : String)
    (check : Session → Surroundings σ → Verdict × Session × Surroundings σ) : Report × Fleet σ :=
  f.onSlot slot fun s a =>
    let (verdict, s, a) := check s a
    (.ofVerdict verdict, s, a)

/-- A change of the variables of the session in a slot. -/
def onScene (f : Fleet σ) (slot : String) (change : Scene → Except Fault Unit × Scene) :
    Report × Fleet σ :=
  f.onSlot slot fun s a =>
    let (result, s, a) := s.onScene a change
    (.ofAttempt result, s, a)

/-- Performs an operation. -/
def perform (c : Collaborators σ) (op : Operation) (f : Fleet σ) : Report × Fleet σ :=
  match op with
  | .acquire slot d =>
    match f.engine.acquire d with
    | (.error fault, e) => (.failed fault, { f with engine := e })
    | (.ok s, e) => (.done, occupy { f with engine := e } slot s)
  | .lend slot name o => f.onScene slot fun scene => scene.put name o
  | .bring slot name o => f.onScene slot fun scene => scene.bring name o
  | .start slot target rules => f.check slot fun s a => s.start c target rules a
  | .startByGroups slot target groups => f.check slot fun s a => s.startByGroups c target groups a
  | .verify slot target d => f.check slot fun s a => s.verify c target d a
  | .verifyOnce target d =>
    let (verdict, e) := f.engine.verify c target d
    (.ofVerdict verdict, { f with engine := e })
  | .reset slot => f.onSlot slot fun s a => (.done, s.reset, s.giveBack a)
  | .release slot => (.done, f.vacate slot)

/-- Performs operations one after the other. -/
def performAll (c : Collaborators σ) : List Operation → Fleet σ → List Report × Fleet σ
  | [], f => ([], f)
  | op :: rest, f =>
    let (report, f) := f.perform c op
    let (reports, f) := performAll c rest f
    (report :: reports, f)

end Fleet

end HttpProbe
