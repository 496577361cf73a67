/-
**Models on loan.**

Requests and responses are lent from two pools.  A handle in a variable is a model on loan, unless the
caller brought it: when the variable loses a model on loan, the model goes back to its pool.

Main definitions:

* `Models` — the pool of requests and the pool of responses;
* `Models.prepare`, `Models.respond` — lending a request and a response that are filled;
* `Models.giveBack` — takes back what a value has on loan;
* `Scene` — variables together with the pools that their handles come from;
* `Scene.insert`, `Scene.erase`, `Scene.clear`, `Scene.merge` — writing variables; what they lose goes
  back to its pool;
* `Offer`, `Scene.put`, `Scene.bring` — values to come, with models on loan or of the caller's.
-/

import HttpProbe.Pool
import HttpProbe.Variables

set_option autoImplicit false
set_option relaxedAutoImplicit false

namespace HttpProbe

instance : Recyclable Http.Request where
  make _ := Http.Request.blank
  reset := Http.Request.reset

instance : Recyclable Http.Response where
  make _ := Http.Response.blank
  reset := Http.Response.reset

/-! ### The two pools -/

/-- The pool of requests and the pool of responses. -/
structure Models where
  requests : Pool Http.Request
  responses : Pool Http.Response

namespace Models

/-- Pools from which nothing was lent yet. -/
def new (maxIdle : Nat) : Models := ⟨Pool.new maxIdle, Pool.new maxIdle⟩

/-- Lends a request. -/
def lendRequest (m : Models) : Http.Request × Models :=
  let (r, requests) := m.requests.acquire
  (r, { m with requests := requests })

/-- Lends a response. -/
def lendResponse (m : Models) : Http.Response × Models :=
  let (r, responses) := m.responses.acquire
  (r, { m with responses := responses })

/-- Takes a request back. -/
def takeRequest (m : Models) (r : Http.Request) : Models :=
  { m with requests := m.requests.release r }

/-- Takes a response back. -/
def takeResponse (m : Models) (r : Http.Response) : Models :=
  { m with responses := m.responses.release r }

/-- Lends a request filled from a template.  If the template is malformed, the request goes back. -/
def prepare (m : Models) (t : Http.Template) : Except Fault Http.Request × Models :=
  let (r, m) := m.lendRequest
  match r.setup t with
  | (some f, r) => (.error f, m.takeRequest r)
  | (none, r) => (.ok r, m)

/-- Lends a response filled from what an exchange brought back. -/
def respond (m : Models) (raw : Http.RawResponse) (asked : Http.Request) :
    Http.Response × Models :=
  let (r, m) := m.lendResponse
  (r.fill raw asked, m)

/-- Takes back what a value has on loan; neither a scalar nor a model of the caller's is on loan. -/
def giveBack (m : Models) : Value → Models
  | .request r .pools => m.takeRequest r
  | .response r .pools => m.takeResponse r
  | _ => m

/-- Takes back what several values have on loan. -/
def giveBackAll (m : Models) (vs : List Value) : Models := vs.foldl giveBack m

/-- How many requests and how many responses are on loan. -/
def outstanding (m : Models) : Nat × Nat := (m.requests.outstanding, m.responses.outstanding)

end Models

/-! ### Variables with their pools -/

/-- Variables together with the pools that their handles come from. -/
structure Scene where
  vars : Variables
  models : Models

namespace Scene

/-- Puts a value under a name. -/
def insert (s : Scene) (name : String) (v : Value) : Scene where
  vars := s.vars.insert name v
  models := s.models.giveBackAll (s.vars.get? name).toList

/-- Removes the value under a name. -/
def erase (s : Scene) (name : String) : Scene where
  vars := s.vars.erase name
  models := s.models.giveBackAll (s.vars.get? name).toList

/-- Removes all variables. -/
def clear (s : Scene) : Scene where
  vars := .empty
  models := s.models.giveBackAll s.vars.values

/-- Puts bindings in, one after the other; each text is a template that sees those before it. -/
def merge (s : Scene) (bindings : List (String × Scalar)) : Scene :=
  bindings.foldl (fun s b => s.insert b.1 (s.vars.bound b.2)) s

/-- Puts texts in, one after the other. -/
def write (s : Scene) (captures : List (String × String)) : Scene :=
  captures.foldl (fun s c => s.insert c.1 (.scalar (.text c.2))) s

/-- Removes the exchange that the last rule was about. -/
def dropExchange (s : Scene) : Scene :=
  (s.erase Variables.requestName).erase Variables.responseName

@[simp] theorem vars_insert (s : Scene) (name : String) (v : Value) :
    (s.insert name v).vars = s.vars.insert name v := rfl

@[simp] theorem vars_erase (s : Scene) (name : String) :
    (s.erase name).vars = s.vars.erase name := rfl

@[simp] theorem vars_clear (s : Scene) : s.clear.vars = .empty := rfl

end Scene

/-! ### Values to come -/

/-- A value to put under a name: a scalar, or what a model on loan is to be filled with. -/
inductive Offer where
  | scalar (s : Scalar)
  | request (template : Option Http.Template)
  | response (raw : Http.RawResponse) (origin : Option Http.Template)

namespace Offer

/-- The request that a response answers. -/
def origin (template : Option Http.Template) : Except Fault Http.Request :=
  match template with
  | none => .ok .blank
  | some t => t.request

/-- Makes the value with a model on loan.  If a message is malformed, no model stays on loan. -/
def accept (o : Offer) (m : Models) : Except Fault Value × Models :=
  match o with
  | .scalar s => (.ok (.scalar s), m)
  | .request none =>
    let (r, m) := m.lendRequest
    (.ok (.request r .pools), m)
  | .request (some t) =>
    match m.prepare t with
    | (.error f, m) => (.error f, m)
    | (.ok r, m) => (.ok (.request r .pools), m)
  | .response raw template =>
    match origin template with
    | .error f => (.error f, m)
    | .ok asked =>
      let (r, m) := m.respond raw asked
      (.ok (.response r .pools), m)

/-- Makes the value with a model of the caller's. -/
def own (o : Offer) : Except Fault Value :=
  match o with
  | .scalar s => .ok (.scalar s)
  | .request template => (origin template).map fun r => .request r .caller
  | .response raw template =>
    (origin template).map fun asked => .response (.ofRaw raw asked) .caller

end Offer

/-- Puts an offer under a name, with a model on loan. -/
def Scene.put (s : Scene) (name : String) (o : Offer) : Except Fault Unit × Scene :=
  match o.accept s.models with
  | (.error f, m) => (.error f, { s with models := m })
  | (.ok v, m) => (.ok (), Scene.insert { s with models := m } name v)

/-- Puts an offer under a name, with a model of the caller's. -/
def Scene.bring (s : Scene) (name : String) (o : Offer) : Except Fault Unit × Scene :=
  match o.own with
  | .error f => (.error f, s)
  | .ok v => (.ok (), s.insert name v)

end HttpProbe
