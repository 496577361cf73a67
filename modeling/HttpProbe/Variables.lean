/-
**Variables.**

A session's variables: names in order, each with a scalar or a handle on a model of a message.  The
order of the names is that of their code points, so two sets of variables that hold the same values
under the same names are equal.

Main definitions:

* `Value`, `Owner` — what a variable holds, and whose model it is;
* `Variables` — names with values, each name once, in order;
* `Variables.get?`, `Variables.insert`, `Variables.erase` — reading and writing;
* `Variables.render` — a template filled from the variables.

Main results:

* `Variables.get?_insert`, `Variables.get?_erase` — what is read after writing.
-/

import HttpProbe.Http.Response
import HttpProbe.Scalar
import HttpProbe.Template

set_option autoImplicit false
set_option relaxedAutoImplicit false

namespace HttpProbe

/-! ### Values -/

/-- Who a model belongs to: the pools that it is on loan from, or the caller who brought it. -/
inductive Owner where
  | pools
  | caller
  deriving DecidableEq, Repr

/-- What a variable holds: a scalar, or a handle on a model. -/
inductive Value where
  | scalar (s : Scalar)
  | request (r : Http.Request) (owner : Owner)
  | response (r : Http.Response) (owner : Owner)
  deriving DecidableEq

/-- The kind of a value. -/
def Value.kind : Value → Kind
  | .scalar s => s.kind
  | .request _ _ => .request
  | .response _ _ => .response

/-- The scalar that a value is, if it is no handle. -/
def Value.scalar? : Value → Option Scalar
  | .scalar s => some s
  | _ => none

/-- The text that stands for a value in a template; handles have none. -/
def Value.text? (v : Value) : Option String := v.scalar?.map Scalar.shown

/-! ### Sets of variables -/

/-- Names before other names. -/
abbrev NameOrder (a b : String × Value) : Prop := a.1 < b.1

/-- Names with values, each name once, in order. -/
structure Variables where
  entries : List (String × Value)
  sorted : entries.Pairwise NameOrder

namespace Variables

theorem ext_entries {a b : Variables} (h : a.entries = b.entries) : a = b := by
  cases a; cases b; cases h; rfl

instance : DecidableEq Variables := fun a b =>
  if h : a.entries = b.entries then isTrue (ext_entries h) else isFalse fun he => h (he ▸ rfl)

/-- No variables. -/
def empty : Variables := ⟨[], List.Pairwise.nil⟩

instance : EmptyCollection Variables := ⟨empty⟩

/-- The value under a name. -/
def get? (vars : Variables) (name : String) : Option Value := vars.entries.lookup name

/-- Is there a value under the name? -/
def contains (vars : Variables) (name : String) : Bool := (vars.get? name).isSome

/-- The number of variables. -/
def size (vars : Variables) : Nat := vars.entries.length

/-- The names, in order. -/
def names (vars : Variables) : List String := vars.entries.map Prod.fst

/-- The values, in the order of their names. -/
def values (vars : Variables) : List Value := vars.entries.map Prod.snd

/-! ### Writing -/

/-- Puts a value under a name into entries that are in order. -/
def place (name : String) (v : Value) : List (String × Value) → List (String × Value)
  | [] => [(name, v)]
  | (n, w) :: rest =>
    if name < n then (name, v) :: (n, w) :: rest
    else if name = n then (name, v) :: rest
    else (n, w) :: place name v rest

theorem mem_place {name : String} {v : Value} {e : String × Value}
    {entries : List (String × Value)} (h : e ∈ place name v entries) :
    e = (name, v) ∨ e ∈ entries := by
  induction entries with
  | nil => simpa [place] using h
  | cons d rest ih =>
    simp only [place] at h
    split at h
    · rcases List.mem_cons.1 h with h | h
      · exact .inl h
      · exact .inr h
    · split at h
      · rcases List.mem_cons.1 h with h | h
        · exact .inl h
        · exact .inr (List.mem_cons_of_mem _ h)
      · rcases List.mem_cons.1 h with h | h
        · exact .inr (h ▸ List.mem_cons_self)
        · rcases ih h with h | h
          · exact .inl h
          · exact .inr (List.mem_cons_of_mem _ h)

theorem lt_of_not_lt_of_ne {a b : String} (h : ¬ a < b) (hne : a ≠ b) : b < a := by
  rcases Std.lt_trichotomy a b with hab | hab | hab
  · exact absurd hab h
  · exact absurd hab hne
  · exact hab

theorem sorted_place {name : String} {v : Value} {entries : List (String × Value)}
    (h : entries.Pairwise NameOrder) : (place name v entries).Pairwise NameOrder := by
  induction entries with
  | nil => simp [place]
  | cons d rest ih =>
    obtain ⟨n, w⟩ := d
    rw [List.pairwise_cons] at h
    simp only [place]
    split
    · rename_i hlt
      refine List.pairwise_cons.2 ⟨fun e he => ?_, List.pairwise_cons.2 h⟩
      rcases List.mem_cons.1 he with rfl | he
      · exact hlt
      · exact String.lt_trans hlt (h.1 e he)
    · rename_i hnlt
      split
      · rename_i heq
        subst heq
        exact List.pairwise_cons.2 h
      · rename_i hne
        refine List.pairwise_cons.2 ⟨fun e he => ?_, ih h.2⟩
        rcases mem_place he with rfl | he
        · exact lt_of_not_lt_of_ne hnlt hne
        · exact h.1 e he

/-- Puts a value under a name. -/
def insert (vars : Variables) (name : String) (v : Value) : Variables :=
  ⟨place name v vars.entries, sorted_place vars.sorted⟩

/-- Removes the value under a name. -/
def erase (vars : Variables) (name : String) : Variables :=
  ⟨vars.entries.filter fun e => e.1 != name, vars.sorted.filter _⟩

/-- The variables of a list, put in one by one. -/
def ofList (l : List (String × Value)) : Variables :=
  l.foldl (fun vars e => vars.insert e.1 e.2) empty

/-! ### Reading after writing -/

theorem lookup_cons_eq {α : Type} (m n : String) (w : α) (rest : List (String × α)) :
    ((n, w) :: rest).lookup m = if m = n then some w else rest.lookup m := by
  rw [List.lookup_cons]
  by_cases h : m = n
  · simp [h]
  · have hmn : (m == n) = false := by simpa using h
    simp only [hmn, if_neg h]

theorem lookup_place (name m : String) (v : Value) (entries : List (String × Value)) :
    (place name v entries).lookup m = if m = name then some v else entries.lookup m := by
  induction entries with
  | nil => rw [place, lookup_cons_eq]
  | cons d rest ih =>
    obtain ⟨n, w⟩ := d
    simp only [place]
    split
    · rw [lookup_cons_eq]
    · split
      · rename_i heq
        subst heq
        rw [lookup_cons_eq, lookup_cons_eq]
        by_cases hm : m = name
        · rw [if_pos hm, if_pos hm]
        · rw [if_neg hm, if_neg hm, if_neg hm]
      · rename_i hne
        rw [lookup_cons_eq, lookup_cons_eq, ih]
        by_cases hm : m = name
        · rw [if_neg (hm ▸ hne), if_pos hm, if_pos hm]
        · rw [if_neg hm, if_neg hm]

@[simp] theorem get?_empty (m : String) : empty.get? m = none := rfl

theorem get?_insert (vars : Variables) (name m : String) (v : Value) :
    (vars.insert name v).get? m = if m = name then some v else vars.get? m :=
  lookup_place name m v vars.entries

theorem lookup_filter {α : Type} (keep : String → Bool) (m : String)
    (entries : List (String × α)) :
    (entries.filter fun e => keep e.1).lookup m =
      if keep m = true then entries.lookup m else none := by
  induction entries with
  | nil => simp
  | cons d rest ih =>
    obtain ⟨n, w⟩ := d
    by_cases hn : keep n = true
    · rw [List.filter_cons_of_pos (by exact hn), lookup_cons_eq, lookup_cons_eq, ih]
      by_cases hm : m = n
      · rw [if_pos hm, if_pos hm, if_pos (hm ▸ hn)]
      · rw [if_neg hm, if_neg hm]
    · rw [List.filter_cons_of_neg (by exact hn), ih, lookup_cons_eq]
      by_cases hm : m = n
      · rw [if_neg (hm ▸ hn), if_neg (hm ▸ hn)]
      · rw [if_neg hm]

theorem lookup_filter_ne {α : Type} (name m : String) (entries : List (String × α)) :
    (entries.filter fun e => e.1 != name).lookup m =
      if m = name then none else entries.lookup m := by
  rw [lookup_filter fun n => n != name]
  by_cases hm : m = name
  · simp [hm]
  · simp [hm]

theorem get?_erase (vars : Variables) (name m : String) :
    (vars.erase name).get? m = if m = name then none else vars.get? m :=
  lookup_filter_ne name m vars.entries

/-! ### Views -/

/-- The text under a name. -/
def text? (vars : Variables) (name : String) : Option String :=
  match vars.get? name with
  | some (.scalar (.text s)) => some s
  | _ => none

/-- The name of the request of the exchange that a rule is about. -/
def requestName : String := "request"

/-- The name of the response of the exchange that a rule is about. -/
def responseName : String := "response"

/-- The request of the exchange. -/
def request? (vars : Variables) : Option Http.Request :=
  match vars.get? requestName with
  | some (.request r _) => some r
  | _ => none

/-- The response of the exchange. -/
def response? (vars : Variables) : Option Http.Response :=
  match vars.get? responseName with
  | some (.response r _) => some r
  | _ => none

/-- The text that a name stands for in a template. -/
def shown? (vars : Variables) (name : String) : Option String :=
  (vars.get? name).bind Value.text?

/-- A template filled from the variables. -/
def render (vars : Variables) (template : String) : String := Template.render vars.shown? template

/-- The value that a binding gives to its name: a text is a template. -/
def bound (vars : Variables) (s : Scalar) : Value :=
  match s with
  | .text t => .scalar (.text (vars.render t))
  | s => .scalar s

end Variables

end HttpProbe
