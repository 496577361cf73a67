/-
**The accounts of a pool.**

Whoever has an object of a pool on loan may change it, and gives it back when he likes.  To tell the
objects of a pool from one another each of them is given the number under which it was made; the numbers
are mere labels, and the pool does what it does without them.  Then every number that was given out is at
exactly one place: its object waits, is on loan, or was discarded because enough objects waited when it
came back.  All that a pool counts follows from this.

Main definitions:

* `Pool.Bounded` — no more objects wait than may;
* `Numbered` — an object with the number under which it was made;
* `Loans`, `Loans.Use` — a pool with its objects on loan and those it discarded, and what is done with it;
* `Loans.after`, `Loans.numbered` — a new pool after several uses, without numbers and with them;
* `Loans.Accounted` — **every object is at exactly one place**;
* `Loans.TakesBack` — what becomes of an object that comes back.

Main results:

* `Loans.Accounted.takesBack` — an object that comes back is reset, and waits or is discarded;
* `Loans.Accounted.step`, `Loans.accounted_numbered` — every use keeps the accounts;
* `Loans.roomy_numbered` — a pool that may keep as many objects as are ever on loan discards none;
* `Loans.accounts_of_uses` — **the accounts of a pool**, all of them.
-/

import HttpProbe.Proofs.Recycling
import Mathlib.Data.List.Induction
import Mathlib.Data.List.InsertIdx
import Mathlib.Data.List.Perm.Basic

set_option autoImplicit false
set_option relaxedAutoImplicit false

namespace HttpProbe

/-! ### Lending and taking back, case by case -/

namespace Pool

variable {α : Type} [Recyclable α] {p : Pool α}

theorem acquire_of_nil (h : p.idle = []) : p.acquire = (Recyclable.make p.created,
    { p with outstanding := p.outstanding + 1, created := p.created + 1 }) := by
  rw [acquire, h]

theorem acquire_of_cons {a : α} {rest : List α} (h : p.idle = a :: rest) :
    p.acquire = (a, { p with idle := rest, outstanding := p.outstanding + 1 }) := by
  rw [acquire, h]

theorem idle_release_of_lt (h : p.idle.length < p.maxIdle) (a : α) :
    (p.release a).idle = Recyclable.reset a :: p.idle :=
  if_pos h

theorem idle_release_of_le (h : p.maxIdle ≤ p.idle.length) (a : α) :
    (p.release a).idle = p.idle :=
  if_neg (Nat.not_lt.2 h)

/-- No more objects wait than may. -/
structure Bounded (maxIdle : Nat) (p : Pool α) : Prop where
  bound : p.maxIdle = maxIdle
  idle_le : p.idle.length ≤ maxIdle

namespace Bounded

variable {maxIdle : Nat}

omit [Recyclable α] in
theorem new (maxIdle : Nat) : (Pool.new maxIdle : Pool α).Bounded maxIdle := ⟨rfl, Nat.zero_le _⟩

theorem acquire (h : p.Bounded maxIdle) : p.acquire.2.Bounded maxIdle := by
  have hidle := h.idle_le
  cases hwaiting : p.idle with
  | nil =>
      rw [acquire_of_nil hwaiting]
      exact ⟨h.bound, hidle⟩
  | cons a rest =>
      rw [hwaiting, List.length_cons] at hidle
      rw [acquire_of_cons hwaiting]
      exact ⟨h.bound, by dsimp only; omega⟩

theorem release (h : p.Bounded maxIdle) (a : α) : (p.release a).Bounded maxIdle := by
  have hidle := h.idle_le
  have hbound := h.bound
  refine ⟨hbound, ?_⟩
  rcases Nat.lt_or_ge p.idle.length p.maxIdle with hlt | hge
  · rw [idle_release_of_lt hlt, List.length_cons]
    omega
  · rw [idle_release_of_le hge]
    exact hidle

end Bounded

end Pool

/-! ### Objects with numbers -/

/-- An object with the number under which it was made.  It keeps the number for good. -/
structure Numbered (α : Type) where
  number : Nat
  object : α

namespace Numbered

variable {α : Type}

instance [Recyclable α] : Recyclable (Numbered α) where
  make n := ⟨n, Recyclable.make n⟩
  reset a := ⟨a.number, Recyclable.reset a.object⟩

/-- Changes the object. -/
def change (f : α → α) (a : Numbered α) : Numbered α := ⟨a.number, f a.object⟩

end Numbered

/-! ### Uses of a pool -/

/-- A pool, the objects on loan from it, and the objects that it discarded.  A pool may have several
handles; whichever of them an object is asked of, it is the same pool that lends it. -/
structure Loans (α : Type) where
  pool : Pool α
  held : List α
  discarded : List α

namespace Loans

variable {α : Type}

/-- What is done with a pool: an object is asked of it, one on loan is changed, or one on loan comes back.
The objects on loan are told by their places, those lent first standing first. -/
inductive Use (α : Type) where
  | lend
  | change (place : Nat) (f : α → α)
  | giveBack (place : Nat)

/-- A pool from which nothing was lent yet. -/
def new (maxIdle : Nat) : Loans α := ⟨Pool.new maxIdle, [], []⟩

/-- Takes an object back; it is discarded if as many objects wait as may. -/
def takeBack [Recyclable α] (l : Loans α) (place : Nat) (a : α) : Loans α where
  pool := l.pool.release a
  held := l.held.eraseIdx place
  discarded :=
    if l.pool.idle.length = l.pool.maxIdle then Recyclable.reset a :: l.discarded else l.discarded

/-- One use of a pool.  Nothing comes of it if no object is on loan at the place. -/
def step [Recyclable α] (l : Loans α) : Use α → Loans α
  | .lend => { l with pool := l.pool.acquire.2, held := l.held ++ [l.pool.acquire.1] }
  | .change place f => { l with held := l.held.modify place f }
  | .giveBack place =>
    match l.held[place]? with
    | none => l
    | some a => l.takeBack place a

/-- A new pool after several uses. -/
def after [Recyclable α] (maxIdle : Nat) (uses : List (Use α)) : Loans α :=
  uses.foldl step (new maxIdle)

/-- The same use of a pool whose objects have numbers. -/
def Use.numbered : Use α → Use (Numbered α)
  | .lend => .lend
  | .change place f => .change place (Numbered.change f)
  | .giveBack place => .giveBack place

/-- A new pool whose objects have numbers, after several uses. -/
def numbered [Recyclable α] (maxIdle : Nat) (uses : List (Use α)) : Loans (Numbered α) :=
  after maxIdle (uses.map Use.numbered)

/-- The pool without the numbers. -/
def plain (l : Loans (Numbered α)) : Loans α where
  pool := ⟨l.pool.maxIdle, l.pool.idle.map Numbered.object, l.pool.outstanding, l.pool.created⟩
  held := l.held.map Numbered.object
  discarded := l.discarded.map Numbered.object

variable [Recyclable α]

theorem numbered_concat (maxIdle : Nat) (uses : List (Use α)) (u : Use α) :
    numbered maxIdle (uses ++ [u]) = (numbered maxIdle uses).step u.numbered := by
  rw [numbered, after, List.map_append, List.foldl_append]
  rfl

/-! ### The numbers are mere labels -/

omit [Recyclable α] in
/-- A change that a view of the objects can follow. -/
theorem map_modify {β : Type} (view : α → β) {f : α → α} {f' : β → β}
    (h : ∀ a, view (f a) = f' (view a)) (l : List α) (i : Nat) :
    (l.modify i f).map view = (l.map view).modify i f' := by
  refine List.ext_getElem? fun j => ?_
  rw [List.getElem?_map, List.getElem?_modify, List.getElem?_modify, List.getElem?_map]
  cases l[j]? with
  | none => rfl
  | some a =>
      by_cases hij : i = j
      · simp [hij, h]
      · simp [hij]

theorem plain_takeBack (l : Loans (Numbered α)) (place : Nat) (a : Numbered α) :
    (l.takeBack place a).plain = l.plain.takeBack place a.object := by
  obtain ⟨⟨maxIdle, idle, outstanding, created⟩, held, discarded⟩ := l
  have hlength : (idle.map Numbered.object).length = idle.length := List.length_map _
  simp only [takeBack, plain, Pool.release, hlength, List.eraseIdx_map]
  by_cases hfree : idle.length < maxIdle
  · have hroom : idle.length ≠ maxIdle := Nat.ne_of_lt hfree
    simp [hfree, hroom, Recyclable.reset]
  · by_cases hfull : idle.length = maxIdle
    · simp [hfull, Recyclable.reset]
    · simp [hfree, hfull]

theorem plain_step (l : Loans (Numbered α)) (u : Use α) :
    (l.step u.numbered).plain = l.plain.step u := by
  cases u with
  | lend =>
      obtain ⟨⟨maxIdle, idle, outstanding, created⟩, held, discarded⟩ := l
      cases idle with
      | nil => simp [step, plain, Use.numbered, Pool.acquire, Recyclable.make]
      | cons a rest => simp [step, plain, Use.numbered, Pool.acquire]
  | change place f =>
      have hchange : ∀ a : Numbered α, (a.change f).object = f a.object := fun a => rfl
      have hheld := map_modify Numbered.object hchange l.held place
      simp only [step, plain, Use.numbered, hheld]
  | giveBack place =>
      have hplain : l.plain.held[place]? = l.held[place]?.map Numbered.object := List.getElem?_map
      simp only [step, Use.numbered, hplain]
      cases l.held[place]? with
      | none => rfl
      | some a => exact plain_takeBack l place a

/-- **The numbers are mere labels**: without them the pool is what it is after the same uses. -/
theorem plain_numbered (maxIdle : Nat) (uses : List (Use α)) :
    (numbered maxIdle uses).plain = after maxIdle uses := by
  induction uses using List.reverseRecOn with
  | nil => rfl
  | append_singleton uses u ih =>
      rw [numbered_concat, plain_step, ih, after, after, List.foldl_append]
      rfl

/-! ### Every object is at one place -/

/-- The numbers of the objects that wait, of those on loan and of those discarded. -/
def numbers (l : Loans (Numbered α)) : List Nat :=
  (l.pool.idle ++ l.held ++ l.discarded).map Numbered.number

/-- **Every object is at exactly one place**: the numbers that were given out are those of the objects that
wait, of those on loan and of those discarded, each of them once.  As many objects are counted as on loan as
are, and no more of them wait than may. -/
structure Accounted (maxIdle : Nat) (l : Loans (Numbered α)) : Prop where
  bounded : l.pool.Bounded maxIdle
  outstanding : l.pool.outstanding = l.held.length
  places : l.numbers.Perm (List.range l.pool.created)

/-- **What becomes of an object that comes back**: it is on loan no longer, and it is reset.  Then it waits,
or, if as many objects wait as may, it is discarded. -/
structure TakesBack (l l' : Loans α) (place : Nat) (a : α) : Prop where
  outstanding : l'.pool.outstanding + 1 = l.pool.outstanding
  held : l'.held = l.held.eraseIdx place
  put : l.pool.idle.length < l.pool.maxIdle ∧
      l'.pool.idle = Recyclable.reset a :: l.pool.idle ∧ l'.discarded = l.discarded ∨
    l.pool.idle.length = l.pool.maxIdle ∧
      l'.pool.idle = l.pool.idle ∧ l'.discarded = Recyclable.reset a :: l.discarded

namespace Accounted

variable {maxIdle : Nat} {l : Loans (Numbered α)}

omit [Recyclable α] in
theorem created (h : l.Accounted maxIdle) :
    l.pool.created = l.pool.idle.length + l.pool.outstanding + l.discarded.length := by
  have hlength := h.places.length_eq
  simp only [numbers, List.length_map, List.length_append, List.length_range] at hlength
  rw [h.outstanding]
  omega

omit [Recyclable α] in
theorem nodup (h : l.Accounted maxIdle) : l.numbers.Nodup :=
  h.places.nodup_iff.2 List.nodup_range

theorem takesBack (h : l.Accounted maxIdle) {place : Nat} {a : Numbered α}
    (ha : l.held[place]? = some a) : l.TakesBack (l.takeBack place a) place a := by
  have hplace : place < l.held.length := (List.getElem?_eq_some_iff.1 ha).1
  have houtstanding := h.outstanding
  have hidle := h.bounded.idle_le
  have hbound := h.bounded.bound
  refine ⟨?_, rfl, ?_⟩
  · rw [Loans.takeBack, Pool.outstanding_release]
    omega
  · rcases Nat.lt_or_ge l.pool.idle.length l.pool.maxIdle with hfree | hge
    · have hroom : l.pool.idle.length ≠ l.pool.maxIdle := Nat.ne_of_lt hfree
      exact .inl ⟨hfree, Pool.idle_release_of_lt hfree a, if_neg hroom⟩
    · have hfull : l.pool.idle.length = l.pool.maxIdle := by omega
      exact .inr ⟨hfull, Pool.idle_release_of_le hge a, if_pos hfull⟩

/-- An object that is lent waited before, or has a new number. -/
theorem lend (h : l.Accounted maxIdle) : (l.step .lend).Accounted maxIdle := by
  have hplaces := h.places
  refine ⟨h.bounded.acquire, ?_, ?_⟩
  · rw [Loans.step, Pool.outstanding_acquire, List.length_append, List.length_singleton, h.outstanding]
  · cases hwaiting : l.pool.idle with
    | nil =>
        -- the number is the next one
        rw [Loans.step, Pool.acquire_of_nil hwaiting, List.range_succ]
        refine List.Perm.trans ?_ (hplaces.append_right [l.pool.created])
        simp only [numbers, List.map_append, List.append_assoc]
        exact ((List.perm_append_comm).append_left _).append_left _
    | cons a rest =>
        rw [Loans.step, Pool.acquire_of_cons hwaiting]
        refine List.Perm.trans (List.Perm.map _ ?_) hplaces
        rw [hwaiting]
        simp only [List.append_assoc, List.cons_append, List.nil_append]
        rw [← List.append_assoc]
        exact List.perm_middle.trans (by rw [List.append_assoc])

/-- An object that is changed keeps its number. -/
theorem change (h : l.Accounted maxIdle) (place : Nat) (f : α → α) :
    (l.step (.change place (Numbered.change f))).Accounted maxIdle := by
  have hnumbers : (l.held.modify place (Numbered.change f)).map Numbered.number =
      l.held.map Numbered.number := by
    have hchange : ∀ a : Numbered α, (a.change f).number = id a.number := fun a => rfl
    rw [map_modify Numbered.number hchange, List.modify_id]
  refine ⟨h.bounded, ?_, ?_⟩
  · rw [Loans.step, List.length_modify]
    exact h.outstanding
  · have hsame : (l.step (.change place (Numbered.change f))).numbers = l.numbers := by
      simp only [numbers, Loans.step, List.map_append, hnumbers]
    rw [hsame]
    exact h.places

/-- An object that comes back waits or is discarded. -/
theorem takeBack (h : l.Accounted maxIdle) {place : Nat} {a : Numbered α}
    (ha : l.held[place]? = some a) : (l.takeBack place a).Accounted maxIdle := by
  have hback := h.takesBack ha
  obtain ⟨hplace, hat⟩ := List.getElem?_eq_some_iff.1 ha
  have hheld : (a :: l.held.eraseIdx place).Perm l.held := by
    rw [← hat]
    exact List.getElem_cons_eraseIdx_perm hplace
  -- the object is counted once, wherever it goes
  have hmoved : (a :: (l.pool.idle ++ l.held.eraseIdx place ++ l.discarded)).Perm
      (l.pool.idle ++ l.held ++ l.discarded) := by
    have hfront : (a :: (l.pool.idle ++ l.held.eraseIdx place)).Perm (l.pool.idle ++ l.held) :=
      List.perm_middle.symm.trans (hheld.append_left _)
    exact hfront.append_right _
  have hnumbers := (hmoved.map Numbered.number).trans h.places
  refine ⟨h.bounded.release a, ?_, ?_⟩
  · have hlength : (l.held.eraseIdx place).length + 1 = l.held.length := hheld.length_eq
    have hcount := hback.outstanding
    have hbefore := h.outstanding
    rw [hback.held]
    omega
  · rw [numbers, hback.held]
    rcases hback.put with ⟨_, hidle, hdiscarded⟩ | ⟨_, hidle, hdiscarded⟩
    · rw [hidle, hdiscarded]
      exact hnumbers
    · rw [hidle, hdiscarded]
      exact (List.perm_middle.map Numbered.number).trans hnumbers

theorem giveBack (h : l.Accounted maxIdle) (place : Nat) :
    (l.step (.giveBack place)).Accounted maxIdle := by
  rw [Loans.step]
  cases hplace : l.held[place]? with
  | none => exact h
  | some a => exact h.takeBack hplace

/-- **Every use keeps the accounts.** -/
theorem step (h : l.Accounted maxIdle) (u : Use α) : (l.step u.numbered).Accounted maxIdle := by
  cases u with
  | lend => exact h.lend
  | change place f => exact h.change place f
  | giveBack place => exact h.giveBack place

end Accounted

omit [Recyclable α] in
theorem accounted_new (maxIdle : Nat) : (new maxIdle : Loans (Numbered α)).Accounted maxIdle :=
  ⟨.new maxIdle, rfl, List.Perm.refl _⟩

/-- After any uses every object is at exactly one place. -/
theorem accounted_numbered (maxIdle : Nat) (uses : List (Use α)) :
    (numbered maxIdle uses).Accounted maxIdle := by
  induction uses using List.reverseRecOn with
  | nil => exact accounted_new maxIdle
  | append_singleton uses u ih =>
      rw [numbered_concat]
      exact ih.step u

/-! ### What is made -/

/-- Does a use make an object?  It does if an object is asked for and none waits. -/
def makes (l : Loans α) : Use α → Bool
  | .lend => l.pool.idle.isEmpty
  | _ => false

theorem created_step (l : Loans α) (u : Use α) :
    (l.step u).pool.created = l.pool.created + if l.makes u then 1 else 0 := by
  cases u with
  | lend =>
      rw [makes]
      cases hwaiting : l.pool.idle with
      | nil =>
          rw [step, Pool.acquire_of_nil hwaiting]
          rfl
      | cons a rest =>
          rw [step, Pool.acquire_of_cons hwaiting]
          rfl
  | change place f => rfl
  | giveBack place =>
      rw [step]
      cases l.held[place]? with
      | none => rfl
      | some a => rfl

/-- So many objects are made as were ever on loan at once, or more. -/
theorem length_held_le_created {maxIdle : Nat} {uses front : List (Use α)} (h : front <+: uses) :
    (numbered maxIdle front).held.length ≤ (numbered maxIdle uses).pool.created := by
  induction uses using List.reverseRecOn with
  | nil =>
      rw [List.prefix_nil.1 h]
      exact Nat.le_refl 0
  | append_singleton uses u ih =>
      rcases List.prefix_concat_iff.1 h with rfl | hfront
      · have haccounted := accounted_numbered maxIdle (uses ++ [u])
        have hcreated := haccounted.created
        have houtstanding := haccounted.outstanding
        omega
      · have hbefore := ih hfront
        have hstep := created_step (numbered maxIdle uses) u.numbered
        rw [← numbered_concat] at hstep
        omega

/-- As long as no more objects were made than may wait, none is discarded, and one is made only if all are on
loan. -/
theorem roomy_step {maxIdle : Nat} {l : Loans (Numbered α)} (h : l.Accounted maxIdle)
    (hnone : l.discarded = []) (hmade : l.pool.created ≤ maxIdle) (u : Use (Numbered α)) :
    (l.step u).discarded = [] ∧ ((l.step u).pool.created = l.pool.created ∨
      (l.step u).pool.created = (l.step u).held.length) := by
  have hcreated := h.created
  have houtstanding := h.outstanding
  have hbound := h.bounded.bound
  rw [hnone, List.length_nil] at hcreated
  cases u with
  | lend =>
      refine ⟨hnone, ?_⟩
      cases hwaiting : l.pool.idle with
      | nil =>
          rw [hwaiting, List.length_nil] at hcreated
          refine .inr ?_
          rw [step, Pool.acquire_of_nil hwaiting, List.length_append, List.length_singleton]
          change l.pool.created + 1 = l.held.length + 1
          omega
      | cons a rest =>
          refine .inl ?_
          rw [step, Pool.acquire_of_cons hwaiting]
  | change place f => exact ⟨hnone, .inl rfl⟩
  | giveBack place =>
      rw [step]
      cases hplace : l.held[place]? with
      | none => exact ⟨hnone, .inl rfl⟩
      | some a =>
          have hheld : place < l.held.length := (List.getElem?_eq_some_iff.1 hplace).1
          -- one object at least is on loan, so there is room for it among those that wait
          have hroom : l.pool.idle.length ≠ l.pool.maxIdle := by omega
          have hdiscarded : (l.takeBack place a).discarded = l.discarded := if_neg hroom
          exact ⟨hdiscarded.trans hnone, .inl rfl⟩

/-- **A pool that may keep as many objects as are ever on loan at once discards none**, and makes no more than
that. -/
theorem roomy_numbered {maxIdle : Nat} {uses : List (Use α)}
    (h : ∀ front, front <+: uses → (numbered maxIdle front).held.length ≤ maxIdle) :
    (numbered maxIdle uses).discarded = [] ∧
      ∃ front, front <+: uses ∧
        (numbered maxIdle front).held.length = (numbered maxIdle uses).pool.created := by
  induction uses using List.reverseRecOn with
  | nil => exact ⟨rfl, [], List.prefix_rfl, rfl⟩
  | append_singleton uses u ih =>
      have hbefore : uses <+: uses ++ [u] := List.prefix_append uses [u]
      obtain ⟨hnone, front, hfront, hpeak⟩ := ih fun front hf => h front (hf.trans hbefore)
      have hmade : (numbered maxIdle uses).pool.created ≤ maxIdle := by
        rw [← hpeak]
        exact h front (hfront.trans hbefore)
      have hstep := roomy_step (accounted_numbered maxIdle uses) hnone hmade u.numbered
      rw [← numbered_concat] at hstep
      refine ⟨hstep.1, ?_⟩
      rcases hstep.2 with hsame | hall
      · exact ⟨front, hfront.trans hbefore, hpeak.trans hsame.symm⟩
      · exact ⟨uses ++ [u], List.prefix_rfl, hall.symm⟩

/-! ### All accounts -/

/-- **The accounts of a pool.**  After any uses: the objects on loan are counted rightly, no more wait than
may, and what was made waits, is on loan or was discarded, every object at one place only.  An object that
comes back is reset and put where it belongs.  An object is made exactly if one is lent and none waits; so
if never more were on loan than may wait, none was discarded, and as many were made as were ever on loan
at once. -/
theorem accounts_of_uses (maxIdle : Nat) (uses : List (Use α)) :
    let l := numbered maxIdle uses
    l.plain = after maxIdle uses ∧ l.Accounted maxIdle ∧ l.numbers.Nodup ∧
    l.pool.created = l.pool.idle.length + l.pool.outstanding + l.discarded.length ∧
    (∀ place a, l.held[place]? = some a → l.TakesBack (l.step (.giveBack place)) place a) ∧
    (∀ u, (l.step u).pool.created = l.pool.created + if l.makes u then 1 else 0) ∧
    ((∀ front, front <+: uses → (numbered maxIdle front).held.length ≤ maxIdle) →
      l.discarded = [] ∧
      (∀ front, front <+: uses → (numbered maxIdle front).held.length ≤ l.pool.created) ∧
      ∃ front, front <+: uses ∧ (numbered maxIdle front).held.length = l.pool.created) := by
  intro l
  have haccounted : l.Accounted maxIdle := accounted_numbered maxIdle uses
  refine ⟨plain_numbered maxIdle uses, haccounted, haccounted.nodup, haccounted.created, ?_,
    l.created_step, ?_⟩
  · intro place a ha
    have hback : l.step (.giveBack place) = l.takeBack place a := by rw [step, ha]
    rw [hback]
    exact haccounted.takesBack ha
  · intro hfew
    obtain ⟨hnone, hpeak⟩ := roomy_numbered hfew
    exact ⟨hnone, fun front hfront => length_held_le_created hfront, hpeak⟩

/-- Two requests come back to a pool that may keep one. -/
example : let l : Loans Http.Request := after 1 [.lend, .lend, .giveBack 1, .giveBack 0]
    (l.pool.idle.length, l.pool.outstanding, l.pool.created, l.discarded.length) = (1, 0, 2, 1) := by
  decide

end Loans

end HttpProbe
