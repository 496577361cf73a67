/-
**Pools.**

A pool lends objects and takes them back.  An object that comes back is reset and waits for the next
borrower, unless enough objects wait already; only if none waits is a new one made.

Main definitions:

* `Recyclable` — objects that can be made and reset;
* `Pool` — the waiting objects and the counts of the lent and the made ones;
* `Pool.acquire`, `Pool.release` — lending and taking back.
-/

set_option autoImplicit false
set_option relaxedAutoImplicit false

namespace HttpProbe

/-- Objects that can be made and reset.  The number of those made before is told to the maker. -/
class Recyclable (α : Type) where
  make : Nat → α
  reset : α → α

/-- A pool: the most objects that may wait, those that do, the last one to come back first, how many
are lent, and how many were made. -/
structure Pool (α : Type) where
  maxIdle : Nat
  idle : List α
  outstanding : Nat
  created : Nat

namespace Pool

variable {α : Type}

/-- A pool from which nothing was lent yet. -/
def new (maxIdle : Nat) : Pool α := ⟨maxIdle, [], 0, 0⟩

/-- Lends an object. -/
def acquire [Recyclable α] (p : Pool α) : α × Pool α :=
  match p.idle with
  | a :: rest => (a, { p with idle := rest, outstanding := p.outstanding + 1 })
  | [] =>
    (Recyclable.make p.created,
      { p with outstanding := p.outstanding + 1, created := p.created + 1 })

/-- Takes an object back. -/
def release [Recyclable α] (p : Pool α) (a : α) : Pool α :=
  { p with
    outstanding := p.outstanding - 1
    idle := if p.idle.length < p.maxIdle then Recyclable.reset a :: p.idle else p.idle }

end Pool

end HttpProbe
