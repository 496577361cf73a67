/-
**Expressions that draw at random.**

Two functions draw at random.  An expression that calls neither of them has the same value whatever
source of chance it is given, and a schema whose defaults call neither of them declares the same
variables.

Main definitions:

* `Operator.draws`, `Node.draws` — does an operator, or a tree, call a function that draws?
* `Environment.draws` — does the default of some entry of a schema call such a function?

Main results:

* `Node.eval_of_not_draws` — **a tree that does not draw has one value**;
* `Environment.compile_of_not_draws` — a schema that does not draw has one environment.
-/

import HttpProbe.Environment.Schema

set_option autoImplicit false
set_option relaxedAutoImplicit false

namespace HttpProbe

namespace Expression

/-! ### Trees that do not draw -/

/-- Does an operator call a function that draws? -/
def Operator.draws : Operator → Bool
  | .call name => name = "randomInt" || name = "randomLowercase"
  | _ => false

mutual
/-- Does a tree call a function that draws? -/
def Node.draws : Node → Bool
  | .mk op args => op.draws || anyDraws args

/-- Does one of several trees call a function that draws? -/
def Node.anyDraws : List Node → Bool
  | [] => false
  | n :: rest => n.draws || anyDraws rest
end

theorem apply_of_not_draws {name : String} (h : (Operator.call name).draws = false)
    (chance chance' : Chance) (v : Value) : apply chance name v = apply chance' name v := by
  simp only [Operator.draws, Bool.or_eq_false_iff, decide_eq_false_iff_not] at h
  have hprobe : probeFunction? chance name = probeFunction? chance' name := by
    unfold probeFunction?
    cases textQuestion? name with
    | some f => rfl
    | none =>
        dsimp only
        -- the two functions that draw are those that `h` excludes
        split
        · rfl
        · exact absurd rfl h.1
        · exact absurd rfl h.2
        · rfl
  rw [apply, apply, function?, function?, hprobe]

/-- An operator that does not draw comes to the same. -/
theorem operate_of_not_draws {op : Operator} (h : op.draws = false) (chance chance' : Chance)
    (vars : Bindings) (args : List Value) :
    operate chance vars op args = operate chance' vars op args := by
  cases op with
  | call name =>
      rcases args with _ | ⟨v, _ | ⟨w, rest⟩⟩
      · rfl
      · exact apply_of_not_draws h chance chance' v
      · rfl
  | _ => rfl

mutual
/-- **A tree that does not draw has one value.** -/
theorem Node.eval_of_not_draws (n : Node) (h : n.draws = false) (chance chance' : Chance)
    (vars : Bindings) : n.eval chance vars = n.eval chance' vars := by
  cases n with
  | mk op args =>
      rw [Node.draws, Bool.or_eq_false_iff] at h
      have hargs := Node.evalAll_of_not_draws args h.2 chance.left chance'.left vars
      have hop := operate_of_not_draws h.1 chance.right chance'.right vars
      rw [Node.eval, Node.eval, hargs]
      exact bind_congr fun vs => hop vs.reverse

theorem Node.evalAll_of_not_draws (args : List Node) (h : Node.anyDraws args = false)
    (chance chance' : Chance) (vars : Bindings) :
    Node.evalAll chance vars args = Node.evalAll chance' vars args := by
  cases args with
  | nil => rfl
  | cons last earlier =>
      rw [Node.anyDraws, Bool.or_eq_false_iff] at h
      have hearlier := Node.evalAll_of_not_draws earlier h.2 chance.left chance'.left vars
      have hlast := Node.eval_of_not_draws last h.1 chance.right chance'.right vars
      rw [Node.evalAll, Node.evalAll, hearlier, hlast]
end

end Expression

/-! ### Schemas that do not draw -/

namespace Environment

/-- Does the default of some entry of a schema call a function that draws? -/
def draws (schema : List (String × String)) : Bool :=
  schema.any fun entry =>
    match Expression.parse entry.2 with
    | .ok n => n.draws
    | .error _ => false

theorem defaultOf_of_not_draws {expression : String}
    (h : ∀ n, Expression.parse expression = .ok n → n.draws = false) (chance chance' : Chance)
    (ctx : Expression.Bindings) (ds : List Declaration) (name : String) :
    defaultOf chance ctx ds name expression = defaultOf chance' ctx ds name expression := by
  simp only [defaultOf]
  cases hparse : Expression.parse expression with
  | error f => rfl
  | ok n =>
      dsimp only
      rw [n.eval_of_not_draws (h n hparse) chance chance']

theorem declare_of_not_draws {schema : List (String × String)} (h : draws schema = false)
    (chance chance' : Chance) (ctx : Expression.Bindings) (ds : List Declaration) :
    declare chance ctx ds schema = declare chance' ctx ds schema := by
  induction schema generalizing chance chance' ctx ds with
  | nil => rfl
  | cons entry rest ih =>
      obtain ⟨name, expression⟩ := entry
      rw [draws, List.any_cons, Bool.or_eq_false_iff] at h
      have hentry : ∀ n, Expression.parse expression = .ok n → n.draws = false := by
        intro n hn
        have hfirst := h.1
        rw [hn] at hfirst
        exact hfirst
      rw [declare, declare, defaultOf_of_not_draws hentry chance.left chance'.left]
      cases defaultOf chance'.left ctx ds name expression with
      | error f => rfl
      | ok x =>
          dsimp only
          cases ctx.set name (.ofScalar x) with
          | error f => rfl
          | ok ctx => exact ih h.2 chance.right chance'.right ctx _

/-- A schema that does not draw has one environment. -/
theorem compile_of_not_draws {schema : List (String × String)} (h : draws schema = false)
    (chance chance' : Chance) : compile chance schema = compile chance' schema := by
  rw [compile, compile, declare_of_not_draws h chance chance']

end Environment

end HttpProbe
