/-
**Chance.**

Expressions may draw numbers and letters at random, and variables are listed in an order of chance.  A
source of chance is a value like any other: it can be split in two that are independent, and a draw from
it says a number below a bound.  So every place of an expression draws from a source of its own, and the
same source always draws the same.  What a source says is arbitrary: there is one for every outcome.

Main definitions:

* `Chance` — a source;
* `Chance.left`, `Chance.right` — the two sources it splits into;
* `Chance.join` — the source that splits into two given ones;
* `Chance.below`, `Chance.letters`, `Chance.shuffle` — what is drawn;
* `Chance.constant`, `Chance.ofSeed` — a source that always says the same, and one that stirs a seed.

Main results:

* `Chance.below_lt` — a number below a bound is below it.
-/

set_option autoImplicit false
set_option relaxedAutoImplicit false

namespace HttpProbe

/-- A source of chance: the number that is said once the source was split along a path, where `false` and
`true` stand for the first and the second of two sources. -/
structure Chance where
  say : List Bool → Nat

namespace Chance

variable {α : Type}

/-! ### Splitting -/

/-- The first of the two sources that a source splits into. -/
def left (c : Chance) : Chance := ⟨fun path => c.say (false :: path)⟩

/-- The second of the two sources that a source splits into. -/
def right (c : Chance) : Chance := ⟨fun path => c.say (true :: path)⟩

/-- The source that says a number and splits into two given ones. -/
def join (n : Nat) (l r : Chance) : Chance where
  say
    | [] => n
    | false :: path => l.say path
    | true :: path => r.say path

@[simp] theorem say_join (n : Nat) (l r : Chance) : (join n l r).say [] = n := rfl

@[simp] theorem left_join (n : Nat) (l r : Chance) : (join n l r).left = l := rfl

@[simp] theorem right_join (n : Nat) (l r : Chance) : (join n l r).right = r := rfl

/-! ### Drawing -/

/-- A number below a bound. -/
def below (c : Chance) (bound : Nat) : Nat := c.say [] % bound

theorem below_lt (c : Chance) {bound : Nat} (h : 0 < bound) : c.below bound < bound :=
  Nat.mod_lt _ h

theorem below_join {n bound : Nat} (h : n < bound) (l r : Chance) : (join n l r).below bound = n :=
  Nat.mod_eq_of_lt h

/-- A number of small letters. -/
def letters (c : Chance) : Nat → List Char
  | 0 => []
  | n + 1 => Char.ofNat (97 + c.below 26) :: c.left.letters n

/-- A list in an order of chance: each item is put at a place of chance among those after it. -/
def shuffle (c : Chance) : List α → List α
  | [] => []
  | a :: rest => (c.left.shuffle rest).insertIdx (c.below (rest.length + 1)) a

/-! ### Sources -/

/-- The source that always says the same number. -/
def constant (n : Nat) : Chance := ⟨fun _ => n⟩

/-- Stirs the bits of a word. -/
def stir (x : UInt64) : UInt64 :=
  let x := (x ^^^ (x >>> 30)) * 0xBF58476D1CE4E5B9
  let x := (x ^^^ (x >>> 27)) * 0x94D049BB133111EB
  x ^^^ (x >>> 31)

/-- The source that stirs a seed, anew for every step along a path. -/
def ofSeed (seed : UInt64) : Chance where
  say path :=
    let stirred := path.foldl (fun seed second =>
      stir (seed + if second then 0x3C6EF372FE94F82A else 0x9E3779B97F4A7C15)) seed
    (stir stirred).toNat

end Chance

end HttpProbe
