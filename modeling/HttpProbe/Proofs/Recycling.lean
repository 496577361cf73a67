/-
**Nothing is left of what was lent before.**

A pool may hand out an object that somebody else had before.  Two things keep that from being seen:
an object is cleared when it comes back, so that the objects that wait are as good as new; and
filling a model overwrites all of it, so that a request that could be filled, and every response, is
the same whichever model was filled.

Main definitions:

* `Renewable` — objects that are made, and reset, to one and the same blank;
* `Pool.Clean` — every object that waits is blank.

Main results:

* `Pool.acquire_of_clean` — a clean pool lends blank objects, and stays clean;
* `Http.Request.setup_of_request` — filling a request has the same outcome whatever was in it;
* `Models.prepare_of_ok`, `Models.prepare_of_error`, `Models.respond_eq` — what the pools of models
  lend is what the template, or the exchange, says;
* `Engine.acquire_of_clean` — what a clean pool of sessions lends.
-/

import HttpProbe.Engine

set_option autoImplicit false
set_option relaxedAutoImplicit false

namespace HttpProbe

/-! ### Pools whose waiting objects are blank -/

/-- Objects that are made blank, and that resetting makes blank again. -/
class Renewable (α : Type) [Recyclable α] where
  blank : α
  make_eq : ∀ n, Recyclable.make n = blank
  reset_eq : ∀ a : α, Recyclable.reset a = blank

instance : Renewable Http.Request := ⟨.blank, fun _ => rfl, fun _ => rfl⟩

instance : Renewable Http.Response := ⟨.blank, fun _ => rfl, fun _ => rfl⟩

instance : Renewable Session := ⟨.blank, fun _ => rfl, fun _ => rfl⟩

namespace Pool

variable {α : Type} [Recyclable α]

@[simp] theorem outstanding_acquire (p : Pool α) :
    p.acquire.2.outstanding = p.outstanding + 1 := by
  rcases p with ⟨_, _ | ⟨a, rest⟩, _, _⟩ <;> rfl

@[simp] theorem outstanding_release (p : Pool α) (a : α) :
    (p.release a).outstanding = p.outstanding - 1 := rfl

variable [Renewable α]

/-- Every object that waits is blank. -/
def Clean (p : Pool α) : Prop := ∀ a ∈ p.idle, a = Renewable.blank

theorem clean_new (maxIdle : Nat) : (new maxIdle : Pool α).Clean := by
  intro a ha
  simp [new] at ha

/-- A clean pool lends a blank object, and stays clean. -/
theorem acquire_of_clean {p : Pool α} (h : p.Clean) :
    p.acquire.1 = Renewable.blank ∧ p.acquire.2.Clean := by
  rcases p with ⟨maxIdle, idle, outstanding, created⟩
  cases idle with
  | nil => exact ⟨Renewable.make_eq created, h⟩
  | cons a rest =>
      refine ⟨h a List.mem_cons_self, ?_⟩
      intro b hb
      exact h b (List.mem_cons_of_mem a hb)

/-- Whatever comes back, a clean pool stays clean. -/
theorem Clean.release {p : Pool α} (h : p.Clean) (a : α) : (p.release a).Clean := by
  intro b hb
  simp only [Pool.release] at hb
  split at hb
  · rcases List.mem_cons.1 hb with rfl | hb
    · exact Renewable.reset_eq a
    · exact h b hb
  · exact h b hb

end Pool

/-! ### Filling a request -/

/-- What filling does to a request that is not blank: the outcome is that of the template, and a
request that could be filled is the template's. -/
theorem Http.Request.setup_of_request (r : Http.Request) (t : Http.Template) :
    (∀ q, t.request = .ok q → r.setup t = (none, q)) ∧
      ∀ f, t.request = .error f → (r.setup t).1 = some f := by
  simp only [Http.Template.request, setup]
  -- each part is written in full before the next one is looked at
  cases Http.method? t.method with
  | none => simp
  | some method =>
      cases Url.parse t.url with
      | error f => simp
      | ok url =>
          rcases Http.addHeaders Http.Headers.empty t.headers with ⟨_ | f, headers⟩ <;> simp

/-- The request of a rule that gets the root of a host. -/
theorem Rule.request_root {rule : Rule} (hmethod : rule.method = "GET") (hpath : rule.path = "/")
    (hbody : rule.body = "") (hheaders : rule.headers = []) (vars : Variables) :
    (rule.template "http://[::1]" vars).request =
      .ok ⟨"GET", some ⟨"http", "", "", some (.ipv6 [0, 0, 0, 0, 0, 0, 0, 1]), none, .segments [""],
        none, none⟩, .empty, []⟩ := by
  have hurl : joinUrl "http://[::1]" "/" = "http://[::1]/" := by decide
  have htemplate : rule.template "http://[::1]" vars = ⟨"GET", "http://[::1]/", "", []⟩ := by
    have hroot : vars.render "/" = "/" := rfl
    have hempty : vars.render "" = "" := rfl
    rw [template, hmethod, hpath, hbody, hheaders, hroot, hempty, hurl, List.map_nil]
  have hget : Http.method? "GET" = some "GET" := by decide +kernel
  have hparsed : Url.parse "http://[::1]/" = .ok ⟨"http", "", "",
      some (.ipv6 [0, 0, 0, 0, 0, 0, 0, 1]), none, .segments [""], none, none⟩ := rfl
  simp only [htemplate, Http.Template.request, Http.Request.setup, hget, hparsed]
  rfl

namespace Models

/-- A template that stands for a request gets a model that is filled with it. -/
theorem prepare_of_ok {t : Http.Template} {q : Http.Request} (h : t.request = .ok q)
    (m : Models) : m.prepare t = (.ok q, m.lendRequest.2) := by
  simp only [prepare, (Http.Request.setup_of_request m.lendRequest.1 t).1 q h]

/-- A malformed template leaves nothing on loan: the model goes back, half filled as it is. -/
theorem prepare_of_error {t : Http.Template} {f : Fault} (h : t.request = .error f)
    (m : Models) : ∃ r, m.prepare t = (.error f, m.lendRequest.2.takeRequest r) := by
  have hf := (Http.Request.setup_of_request m.lendRequest.1 t).2 f h
  refine ⟨(m.lendRequest.1.setup t).2, ?_⟩
  rcases hr : m.lendRequest.1.setup t with ⟨fault, r⟩
  rw [hr] at hf
  cases hf
  simp only [prepare, hr]

/-- A response is what the exchange brought back. -/
theorem respond_eq (m : Models) (raw : Http.RawResponse) (asked : Http.Request) :
    m.respond raw asked = (.ofRaw raw asked, m.lendResponse.2) := rfl

end Models

/-! ### Fresh sessions -/

namespace Engine

variable {σ : Type}

/-- What a clean pool of sessions lends: a blank session bound to the definition.  If there is no
environment, a blank session goes back. -/
theorem acquire_of_clean {e : Engine σ} (h : e.sessions.Clean) (d : Definition) :
    e.acquire d = match Environment.compile e.chance.left d.set with
      | .error f =>
        (.error f, { e with
          sessions := e.sessions.acquire.2.release .blank
          chance := e.chance.right })
      | .ok env =>
        (.ok (Session.blank.bind d.name env), { e with
          sessions := e.sessions.acquire.2
          chance := e.chance.right }) := by
  have hblank : e.sessions.acquire.1 = Session.blank := (Pool.acquire_of_clean h).1
  simp only [acquire, hblank]
  cases Environment.compile e.chance.left d.set <;> rfl

end Engine

end HttpProbe
