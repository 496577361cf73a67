/-
**The engine.**

The engine lends sessions bound to definitions.  All its sessions share the pools of models and the
collaborators.

Main definitions:

* `Engine`, `Engine.new`, `Engine.ofConfig` — an engine, and how it starts;
* `Engine.acquire`, `Engine.release` — lending a session, and taking it back;
* `Engine.verify` — checking a target with a session of its own.
-/

import HttpProbe.Client
import HttpProbe.Session.Basic

set_option autoImplicit false
set_option relaxedAutoImplicit false

namespace HttpProbe

/-- The pool of sessions, what they share, and the chance that random defaults are drawn with. -/
structure Engine (σ : Type) where
  sessions : Pool Session
  around : Surroundings σ
  chance : Chance

namespace Engine

variable {σ : Type}

/-- An engine that lent nothing yet. -/
def new (maxIdleSessions maxIdleModels : Nat) (outside : σ) (chance : Chance) : Engine σ :=
  ⟨Pool.new maxIdleSessions, ⟨Models.new maxIdleModels, outside, []⟩, chance⟩

/-- The engine of a configuration, if a client can be built for it. -/
def ofConfig (c : Config) (outside : σ) (chance : Chance) : Except Fault (Engine σ) :=
  match Client.check c.http with
  | .error f => .error f
  | .ok () => .ok (new c.pool.maxIdleSessions c.pool.maxIdleModels outside chance)

/-- Takes a session back, with the models that its variables have on loan. -/
def release (e : Engine σ) (s : Session) : Engine σ :=
  { e with sessions := e.sessions.release s, around := s.giveBack e.around }

/-- Lends a session bound to a definition.  If the environment of the definition cannot be compiled,
the session goes back. -/
def acquire (e : Engine σ) (d : Definition) : Except Fault Session × Engine σ :=
  let (s, sessions) := e.sessions.acquire
  let e' : Engine σ := { e with sessions := sessions, chance := e.chance.right }
  match Environment.compile e.chance.left d.set with
  | .error f => (.error f, e'.release s)
  | .ok env => (.ok (s.bind d.name env), e')

/-- Checks a target with a session that goes back at the end. -/
def verify (c : Collaborators σ) (target : String) (d : Definition) (e : Engine σ) :
    Verdict × Engine σ :=
  match e.acquire d with
  | (.error f, e) => (.error f, e)
  | (.ok s, e) =>
    let (verdict, s, around) := s.verify c target d e.around
    (verdict, release { e with around := around } s)

end Engine

end HttpProbe
