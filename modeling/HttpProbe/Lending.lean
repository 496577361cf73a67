/-
**Objects on loan.**

The borrowers of a pool go by names.  A borrower holds one object and may change it; who borrows again
gives back what he held before, once he has the new object.

Main definitions:

* `Lending` — a pool with what its borrowers hold;
* `Lending.lend`, `Lending.change`, `Lending.giveBack`, `Lending.giveBackAll`.
-/

import HttpProbe.Pool

set_option autoImplicit false
set_option relaxedAutoImplicit false

namespace HttpProbe

/-- A pool with what its borrowers hold. -/
structure Lending (α : Type) where
  pool : Pool α
  held : List (String × α)

namespace Lending

variable {α : Type}

/-- A pool without borrowers. -/
def new (maxIdle : Nat) : Lending α := ⟨Pool.new maxIdle, []⟩

/-- What a borrower holds. -/
def get? (l : Lending α) (name : String) : Option α := l.held.lookup name

/-- The borrowings of all but one borrower. -/
def others (l : Lending α) (name : String) : List (String × α) :=
  l.held.filter fun h => h.1 != name

/-- Takes back what a borrower holds. -/
def giveBack [Recyclable α] (l : Lending α) (name : String) : Lending α :=
  match l.get? name with
  | none => l
  | some a => ⟨l.pool.release a, l.others name⟩

/-- Lends an object to a borrower. -/
def lend [Recyclable α] (l : Lending α) (name : String) : Lending α :=
  let (a, pool) := l.pool.acquire
  let l := giveBack { l with pool := pool } name
  { l with held := l.held ++ [(name, a)] }

/-- Changes what a borrower holds. -/
def change (l : Lending α) (name : String) (f : α → α) : Lending α :=
  { l with held := l.held.map fun h => if h.1 = name then (h.1, f h.2) else h }

/-- Takes back everything. -/
def giveBackAll [Recyclable α] (l : Lending α) : Lending α :=
  ⟨l.held.foldl (fun pool h => pool.release h.2) l.pool, []⟩

end Lending

end HttpProbe
