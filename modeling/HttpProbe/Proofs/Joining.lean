/-
**Joining a target and a path.**

Whatever slashes a target ends with and a path begins with, one slash stands where they are joined: the
slashes count for nothing.  So joining is associative, also where the part in the middle is empty or
holds slashes only: then one slash stands between the other two.

Main definitions:

* `slashes` — a number of slashes;
* `IsBase`, `IsRest` — a target without the slashes that it ends with, and a path without those that it
  begins with.

Main results:

* `Text.dropTrailing_dropLeading` — it makes no difference at which end one begins to drop;
* `isBase_iff`, `isRest_iff` — a target has one base, and a path one rest;
* `joinUrl_assoc` — joining is associative;
* `joinUrl_insensitive_assoc` — **joining does not count slashes, and is associative**.
-/

import HttpProbe.Rule
import Mathlib.Data.List.DropRight

set_option autoImplicit false
set_option relaxedAutoImplicit false

namespace HttpProbe

/-! ### Dropping at both ends -/

namespace Text

variable {p : Char → Bool} {cs front back : List Char}

/-- What is dropped anyway makes no difference in front. -/
theorem dropLeading_append_of_all (h : ∀ c ∈ front, p c = true) :
    dropLeading p (front ++ cs) = dropLeading p cs :=
  List.dropWhile_append_of_pos h

/-- What is dropped anyway makes no difference at the back. -/
theorem dropTrailing_append_of_all (h : ∀ c ∈ back, p c = true) :
    dropTrailing p (cs ++ back) = dropTrailing p cs := by
  have hback : ∀ c ∈ back.reverse, p c = true := fun c hc => h c (List.mem_reverse.1 hc)
  rw [dropTrailing, List.reverse_append, List.dropWhile_append_of_pos hback, dropTrailing]

/-- From the front nothing is reached that stands behind a character that stays. -/
theorem dropLeading_append (h : dropLeading p cs ≠ []) :
    dropLeading p (cs ++ back) = dropLeading p cs ++ back := by
  have hstays : (cs.dropWhile p).isEmpty = false := List.isEmpty_eq_false_iff.2 h
  rw [dropLeading, List.dropWhile_append, hstays]
  rfl

/-- From the back nothing is reached that stands before a character that stays. -/
theorem dropTrailing_append (h : dropTrailing p cs ≠ []) :
    dropTrailing p (front ++ cs) = front ++ dropTrailing p cs := by
  have hstays : (cs.reverse.dropWhile p).isEmpty = false := by
    rw [List.isEmpty_eq_false_iff]
    exact fun hnil => h (congrArg List.reverse hnil)
  rw [dropTrailing, List.reverse_append, List.dropWhile_append, hstays]
  exact List.reverse_append.trans (congrArg (· ++ _) front.reverse_reverse)

/-- Dropping at one end leaves nothing exactly if dropping at the other end does. -/
theorem dropTrailing_eq_nil_iff_dropLeading : dropTrailing p cs = [] ↔ dropLeading p cs = [] :=
  List.rdropWhile_eq_nil_iff.trans List.dropWhile_eq_nil_iff.symm

theorem dropLeading_dropLeading : dropLeading p (dropLeading p cs) = dropLeading p cs :=
  List.dropWhile_idempotent p cs

theorem dropTrailing_dropTrailing : dropTrailing p (dropTrailing p cs) = dropTrailing p cs :=
  List.rdropWhile_idempotent p cs

/-- Nothing more is dropped from the beginning of what stays. -/
theorem dropLeading_eq_self (h : front <+: dropLeading p cs) : dropLeading p front = front := by
  induction cs with
  | nil => rw [List.prefix_nil.1 h]; rfl
  | cons c cs ih =>
      by_cases hc : p c = true
      · rw [dropLeading, List.dropWhile_cons_of_pos hc] at h
        exact ih h
      · rw [dropLeading, List.dropWhile_cons_of_neg hc] at h
        cases front with
        | nil => rfl
        | cons d front =>
            obtain ⟨rfl, _⟩ := List.cons_prefix_cons.1 h
            exact List.dropWhile_cons_of_neg hc

/-- **It makes no difference at which end one begins to drop.** -/
theorem dropTrailing_dropLeading (p : Char → Bool) (cs : List Char) :
    dropTrailing p (dropLeading p cs) = dropLeading p (dropTrailing p cs) := by
  by_cases hnone : dropLeading p cs = []
  · rw [hnone, dropTrailing_eq_nil_iff_dropLeading.2 hnone]
    rfl
  · have hback : dropTrailing p (dropLeading p cs) ≠ [] := by
      rw [ne_eq, dropTrailing_eq_nil_iff_dropLeading, dropLeading_dropLeading]
      exact hnone
    have hcut : cs = cs.takeWhile p ++ dropLeading p cs := List.takeWhile_append_dropWhile.symm
    have hfront : ∀ c ∈ cs.takeWhile p, p c = true := fun c hc => List.mem_takeWhile_imp hc
    have hstays := List.rdropWhile_prefix p (dropLeading p cs)
    calc dropTrailing p (dropLeading p cs)
        = dropLeading p (dropTrailing p (dropLeading p cs)) := (dropLeading_eq_self hstays).symm
      _ = dropLeading p (cs.takeWhile p ++ dropTrailing p (dropLeading p cs)) :=
          (dropLeading_append_of_all hfront).symm
      _ = dropLeading p (dropTrailing p cs) := by rw [← dropTrailing_append hback, ← hcut]

end Text

/-! ### Slashes -/

/-- A number of slashes. -/
def slashes (n : Nat) : String := String.ofList (List.replicate n '/')

/-- A target without the slashes that it ends with. -/
structure IsBase (base target : String) : Prop where
  cut : ∃ n, target = base ++ slashes n
  bare : Text.endsWith base "/" = false

/-- A path without the slashes that it begins with. -/
structure IsRest (rest path : String) : Prop where
  cut : ∃ n, path = slashes n ++ rest
  bare : Text.startsWith rest "/" = false

variable {base target rest path : String}

theorem isSlash_of_mem_slashes {n : Nat} {c : Char} (h : c ∈ (slashes n).toList) :
    isSlash c = true := by
  rw [slashes, String.toList_ofList] at h
  rw [List.eq_of_mem_replicate h]
  rfl

/-- Characters that are all slashes are a number of slashes. -/
theorem ofList_eq_slashes {cs : List Char} (h : ∀ c ∈ cs, isSlash c = true) :
    String.ofList cs = slashes cs.length := by
  have hall : cs = List.replicate cs.length '/' :=
    List.eq_replicate_of_mem fun c hc => of_decide_eq_true (h c hc)
  rw [slashes, ← hall]

/-- No slash stands in front exactly if there is nothing to drop. -/
theorem isPrefixOf_slash_iff {cs : List Char} :
    ['/'].isPrefixOf cs = false ↔ Text.dropLeading isSlash cs = cs := by
  cases cs with
  | nil => exact ⟨fun _ => rfl, fun _ => rfl⟩
  | cons c cs =>
      have hfirst : ['/'].isPrefixOf (c :: cs) = ('/' == c) := Bool.and_true _
      rw [hfirst, Text.dropLeading]
      by_cases hc : c = '/'
      · -- what is left of `cs` is too short to be all of it
        subst hc
        have hlong : (cs.dropWhile isSlash).length ≤ cs.length := List.length_dropWhile_le _ _
        rw [List.dropWhile_cons_of_pos rfl]
        refine ⟨fun h => absurd h (by decide), fun h => ?_⟩
        rw [h, List.length_cons] at hlong
        omega
      · have hstays : ¬ isSlash c = true := fun h => hc (of_decide_eq_true h)
        rw [List.dropWhile_cons_of_neg hstays]
        exact ⟨fun _ => rfl, fun _ => beq_false_of_ne (Ne.symm hc)⟩

theorem startsWith_slash_iff :
    Text.startsWith rest "/" = false ↔ Text.dropLeading isSlash rest.toList = rest.toList :=
  isPrefixOf_slash_iff

theorem endsWith_slash_iff :
    Text.endsWith base "/" = false ↔ Text.dropTrailing isSlash base.toList = base.toList := by
  rw [Text.dropTrailing, List.reverse_eq_iff]
  exact isPrefixOf_slash_iff

/-- **A path has one rest.** -/
theorem isRest_iff : IsRest rest path ↔ rest.toList = Text.dropLeading isSlash path.toList := by
  constructor
  · rintro ⟨⟨n, rfl⟩, hbare⟩
    rw [String.toList_append, Text.dropLeading_append_of_all fun c hc => isSlash_of_mem_slashes hc]
    exact (startsWith_slash_iff.1 hbare).symm
  · intro h
    refine ⟨⟨(path.toList.takeWhile isSlash).length, ?_⟩, ?_⟩
    · rw [← ofList_eq_slashes fun c hc => List.mem_takeWhile_imp hc]
      apply String.toList_injective
      rw [String.toList_append, String.toList_ofList, h]
      exact List.takeWhile_append_dropWhile.symm
    · rw [startsWith_slash_iff, h, Text.dropLeading_dropLeading]

/-- **A target has one base.** -/
theorem isBase_iff : IsBase base target ↔ base.toList = Text.dropTrailing isSlash target.toList := by
  constructor
  · rintro ⟨⟨n, rfl⟩, hbare⟩
    rw [String.toList_append, Text.dropTrailing_append_of_all fun c hc => isSlash_of_mem_slashes hc]
    exact (endsWith_slash_iff.1 hbare).symm
  · intro h
    refine ⟨⟨(target.toList.rtakeWhile isSlash).length, ?_⟩, ?_⟩
    · rw [← ofList_eq_slashes fun c hc => List.mem_rtakeWhile_imp hc]
      apply String.toList_injective
      rw [String.toList_append, String.toList_ofList, h]
      exact List.rdropWhile_append_rtakeWhile.symm
    · rw [endsWith_slash_iff, h, Text.dropTrailing_dropTrailing]

/-! ### Joining -/

theorem toList_joinUrl (target path : String) :
    (joinUrl target path).toList =
      Text.dropTrailing isSlash target.toList ++ '/' :: Text.dropLeading isSlash path.toList := by
  rw [joinUrl, String.toList_ofList]

/-- The joined text is the base, a slash and the rest. -/
theorem joinUrl_of_isBase_of_isRest (hbase : IsBase base target) (hrest : IsRest rest path) :
    joinUrl target path = base ++ "/" ++ rest := by
  apply String.toList_injective
  rw [toList_joinUrl, ← isBase_iff.1 hbase, ← isRest_iff.1 hrest, String.toList_append,
    String.toList_append, List.append_assoc]
  rfl

theorem exists_isBase (target : String) : ∃ base, IsBase base target :=
  ⟨.ofList (Text.dropTrailing isSlash target.toList), isBase_iff.2 String.toList_ofList⟩

theorem exists_isRest (path : String) : ∃ rest, IsRest rest path :=
  ⟨.ofList (Text.dropLeading isSlash path.toList), isRest_iff.2 String.toList_ofList⟩

/-- Slashes at the place of joining are not counted. -/
theorem joinUrl_slashes (target path : String) (m n : Nat) :
    joinUrl (target ++ slashes m) (slashes n ++ path) = joinUrl target path := by
  apply String.toList_injective
  rw [toList_joinUrl, toList_joinUrl, String.toList_append, String.toList_append,
    Text.dropTrailing_append_of_all fun c hc => isSlash_of_mem_slashes hc,
    Text.dropLeading_append_of_all fun c hc => isSlash_of_mem_slashes hc]

/-- **Joining is associative.** -/
theorem joinUrl_assoc (a b c : String) : joinUrl (joinUrl a b) c = joinUrl a (joinUrl b c) := by
  apply String.toList_injective
  simp only [toList_joinUrl]
  generalize a.toList = front, b.toList = middle, c.toList = back
  have hslash : ∀ c ∈ ['/'], isSlash c = true := by
    intro c hc
    rw [List.mem_singleton.1 hc]
    rfl
  by_cases hmiddle : Text.dropLeading isSlash middle = []
  · -- nothing is left of the middle: one slash stands between the other two
    have hnone : Text.dropTrailing isSlash middle = [] :=
      Text.dropTrailing_eq_nil_iff_dropLeading.2 hmiddle
    have hleft : Text.dropTrailing isSlash (Text.dropTrailing isSlash front ++ ['/']) =
        Text.dropTrailing isSlash front := by
      rw [Text.dropTrailing_append_of_all hslash, Text.dropTrailing_dropTrailing]
    have hright : Text.dropLeading isSlash (['/'] ++ Text.dropLeading isSlash back) =
        Text.dropLeading isSlash back := by
      rw [Text.dropLeading_append_of_all hslash, Text.dropLeading_dropLeading]
    rw [hmiddle, hnone, hleft]
    exact congrArg (fun cs => _ ++ '/' :: cs) hright.symm
  · -- what is left of the middle keeps the two joints apart
    have hstays : Text.dropTrailing isSlash (Text.dropLeading isSlash middle) ≠ [] := by
      rw [ne_eq, Text.dropTrailing_eq_nil_iff_dropLeading, Text.dropLeading_dropLeading]
      exact hmiddle
    have hstays' : Text.dropLeading isSlash (Text.dropTrailing isSlash middle) ≠ [] := by
      rw [← Text.dropTrailing_dropLeading]
      exact hstays
    have hleft : Text.dropTrailing isSlash
        (Text.dropTrailing isSlash front ++ '/' :: Text.dropLeading isSlash middle) =
        Text.dropTrailing isSlash front ++
          '/' :: Text.dropTrailing isSlash (Text.dropLeading isSlash middle) := by
      rw [List.append_cons, Text.dropTrailing_append hstays, ← List.append_cons]
    have hright : Text.dropLeading isSlash
        (Text.dropTrailing isSlash middle ++ '/' :: Text.dropLeading isSlash back) =
        Text.dropTrailing isSlash (Text.dropLeading isSlash middle) ++
          '/' :: Text.dropLeading isSlash back := by
      rw [Text.dropLeading_append hstays', Text.dropTrailing_dropLeading]
    rw [hleft, hright, List.append_assoc]
    rfl

/-- **Joining does not count slashes, and is associative.**  A target and a path are joined to the base of
the one, a slash, and the rest of the other, so that exactly one slash stands where they are joined; more
or fewer slashes at the end of the target or at the beginning of the path make no difference; and of three
texts it makes no difference which two are joined first, whether they are empty or hold slashes only. -/
theorem joinUrl_insensitive_assoc :
    (∀ target path url, joinUrl target path = url ↔
      ∃ base rest, IsBase base target ∧ IsRest rest path ∧ url = base ++ "/" ++ rest) ∧
    (∀ target path m n,
      joinUrl (target ++ slashes m) (slashes n ++ path) = joinUrl target path) ∧
    ∀ a b c, joinUrl (joinUrl a b) c = joinUrl a (joinUrl b c) := by
  refine ⟨fun target path url => ⟨?_, ?_⟩, joinUrl_slashes, joinUrl_assoc⟩
  · rintro rfl
    obtain ⟨base, hbase⟩ := exists_isBase target
    obtain ⟨rest, hrest⟩ := exists_isRest path
    exact ⟨base, rest, hbase, hrest, joinUrl_of_isBase_of_isRest hbase hrest⟩
  · rintro ⟨base, rest, hbase, hrest, rfl⟩
    exact joinUrl_of_isBase_of_isRest hbase hrest

/-- Only slashes in the middle, and nothing in front. -/
example : joinUrl (joinUrl "" "//") "/ping" = "/ping" := by decide

end HttpProbe
