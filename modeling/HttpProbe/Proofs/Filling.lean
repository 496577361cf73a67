/-
**Filling a request, and where it stops.**

A request is filled part by part: method, URL, headers, body.  Each part is written over whatever was
there, so what filling comes to is decided by the template alone.  A malformed part ends it; the parts
before are then the new ones, those after are the old ones, and the headers are those before the first
malformed one.  The headers of a request are a list of fields grouped by their names: each name once, in
the order in which the names first appear, and with each name its values in the order of the list.

Main definitions:

* `Http.grouped` — fields grouped by their names;
* `Http.ReadsAs`, `Http.Malformed` — a header of a template that is well formed, and one that is not;
* `Http.methodText`, `Http.IsMethod` — the method that a template asks for;
* `Http.Filled` — **how filling a request ends**.

Main results:

* `Http.Headers.groups_ofList` — adding fields one by one groups them;
* `Http.sum_grouped` — grouping loses no value and adds none;
* `Http.addHeaders_cases` — headers are added up to the first malformed one;
* `Http.Request.setup_filled` — filling a request ends in one of these ways;
* `Http.Request.setup_of_template` — **what filling comes to is decided by the template alone**.
-/

import HttpProbe.Proofs.Recycling
import Mathlib.Data.List.Forall2
import Mathlib.Data.List.Induction

set_option autoImplicit false
set_option relaxedAutoImplicit false

namespace HttpProbe.Http

-- Sums are those of the core library, also where Mathlib is in scope.
attribute [local instance (1100)] Zero.ofOfNat0

/-! ### Fields grouped by their names -/

/-- The values of a name, in the order of the list. -/
def valuesOf (fields : List (String × Octets)) (name : String) : List Octets :=
  (fields.filter fun p => p.1 == name).map Prod.snd

/-- Fields grouped by their names: each name once, in the order in which the names first appear, and with it
its values in the order of the list. -/
def grouped (fields : List (String × Octets)) : List (String × List Octets) :=
  (fields.map Prod.fst).eraseDups.map fun name => (name, valuesOf fields name)

theorem valuesOf_append (fields more : List (String × Octets)) (name : String) :
    valuesOf (fields ++ more) name = valuesOf fields name ++ valuesOf more name := by
  simp [valuesOf]

theorem valuesOf_eq_nil {fields : List (String × Octets)} {name : String}
    (h : name ∉ fields.map Prod.fst) : valuesOf fields name = [] := by
  rw [valuesOf, List.map_eq_nil_iff, List.filter_eq_nil_iff]
  intro p hp hname
  exact h (eq_of_beq hname ▸ List.mem_map_of_mem hp)

/-- A value of a name that has a group goes to the end of it. -/
theorem addTo_of_mem {name : String} (value : Octets) {names : List String} (hd : names.Nodup)
    (h : name ∈ names) (values : String → List Octets) :
    addTo name value (names.map fun n => (n, values n)) =
      names.map fun n => (n, if n = name then values n ++ [value] else values n) := by
  induction names with
  | nil => cases h
  | cons n rest ih =>
      rw [List.nodup_cons] at hd
      by_cases hn : n = name
      · subst hn
        have hrest : ∀ m ∈ rest, (m, values m) =
            (m, if m = n then values m ++ [value] else values m) := by
          intro m hm
          have hne : m ≠ n := fun heq => hd.1 (heq ▸ hm)
          rw [if_neg hne]
        simp only [List.map_cons, addTo, if_true]
        rw [List.map_congr_left hrest]
      · have hmem : name ∈ rest := by
          rcases List.mem_cons.1 h with heq | hmem
          · exact absurd heq.symm hn
          · exact hmem
        simp only [List.map_cons, addTo, if_neg hn]
        rw [ih hd.2 hmem]

/-- A value of a name without a group opens one at the end. -/
theorem addTo_of_not_mem {name : String} (value : Octets) {groups : List (String × List Octets)}
    (h : name ∉ groups.map Prod.fst) : addTo name value groups = groups ++ [(name, [value])] := by
  induction groups with
  | nil => rfl
  | cons g rest ih =>
      rw [List.map_cons, List.mem_cons, not_or] at h
      rw [addTo, if_neg (Ne.symm h.1), ih h.2, List.cons_append]

theorem nodup_eraseDups (names : List String) : names.eraseDups.Nodup := by
  cases names with
  | nil => exact List.nodup_nil
  | cons name rest =>
      rw [List.eraseDups_cons, List.nodup_cons]
      have hfirst : name ∉ (rest.filter fun m => !m == name).eraseDups := by
        simp [List.mem_eraseDups]
      exact ⟨hfirst, nodup_eraseDups _⟩
  termination_by names.length
  decreasing_by
    have hlength := List.length_filter_le (fun m => !m == name) rest
    rw [List.length_cons]
    omega

/-- One more field. -/
theorem addTo_grouped (fields : List (String × Octets)) (name : String) (value : Octets) :
    addTo name value (grouped fields) = grouped (fields ++ [(name, value)]) := by
  have hvalues : ∀ n, valuesOf (fields ++ [(name, value)]) n =
      if n = name then valuesOf fields n ++ [value] else valuesOf fields n := by
    intro n
    rw [valuesOf_append]
    by_cases hn : n = name
    · simp [valuesOf, hn]
    · have hne : (name == n) = false := by simpa using Ne.symm hn
      simp [valuesOf, hn, hne]
  have hnames : (fields ++ [(name, value)]).map Prod.fst = fields.map Prod.fst ++ [name] := by
    simp
  simp only [grouped, hvalues, hnames, List.eraseDups_append]
  by_cases hmem : name ∈ fields.map Prod.fst
  · have hnone : [name].removeAll (fields.map Prod.fst) = [] := by
      simpa [List.removeAll] using hmem
    rw [hnone, List.eraseDups_nil, List.append_nil]
    exact addTo_of_mem value (nodup_eraseDups _) (List.mem_eraseDups.2 hmem) (valuesOf fields)
  · have hlone : [name].removeAll (fields.map Prod.fst) = [name] := by
      simpa [List.removeAll] using hmem
    have hothers : ∀ n ∈ (fields.map Prod.fst).eraseDups, (n, valuesOf fields n) =
        (n, if n = name then valuesOf fields n ++ [value] else valuesOf fields n) := by
      intro n hn
      have hne : n ≠ name := fun heq => hmem (heq ▸ List.mem_eraseDups.1 hn)
      rw [if_neg hne]
    have hfree : name ∉ ((fields.map Prod.fst).eraseDups.map
        fun n => (n, valuesOf fields n)).map Prod.fst := by
      rw [List.map_map]
      simpa [List.mem_eraseDups] using hmem
    have hlast : [name].eraseDups = [name] := rfl
    rw [hlone, hlast, List.map_append, addTo_of_not_mem value hfree, List.map_congr_left hothers]
    simp [valuesOf_eq_nil hmem]

/-- **Adding fields one by one groups them by their names.** -/
theorem Headers.groups_ofList (fields : List (String × Octets)) :
    (Headers.ofList fields).groups = grouped fields := by
  induction fields using List.reverseRecOn with
  | nil => rfl
  | append_singleton fields field ih =>
      rw [Headers.ofList, List.foldl_append]
      change addTo field.1 field.2 (Headers.ofList fields).groups = _
      rw [ih, addTo_grouped]

/-- A name keeps the place where it first stood. -/
example : grouped [("a", [1]), ("b", [2]), ("a", [3])] = [("a", [[1], [3]]), ("b", [[2]])] := by
  decide

/-- One more value makes the groups together one value longer. -/
theorem sum_addTo (name : String) (value : Octets) (groups : List (String × List Octets)) :
    ((addTo name value groups).map fun g => g.2.length).sum =
      (groups.map fun g => g.2.length).sum + 1 := by
  induction groups with
  | nil => rfl
  | cons g rest ih =>
      by_cases hg : g.1 = name
      · simp only [addTo, hg, if_true, List.map_cons, List.sum_cons, List.length_append,
          List.length_singleton]
        omega
      · simp only [addTo, hg, if_false, List.map_cons, List.sum_cons, ih]
        omega

/-- Grouping loses no value and adds none. -/
theorem sum_grouped (fields : List (String × Octets)) :
    ((grouped fields).map fun g => g.2.length).sum = fields.length := by
  induction fields using List.reverseRecOn with
  | nil => rfl
  | append_singleton fields field ih =>
      rw [← addTo_grouped, sum_addTo, ih, List.length_append, List.length_singleton]

/-! ### The parts of a template -/

/-- A token that may be the name of a header; blanks at its ends do not count. -/
def IsHeaderName (name : String) : Prop :=
  let cs := Text.trimChars name.toList
  cs ≠ [] ∧ cs.length ≤ nameLimit ∧ ∀ c ∈ cs, isTokenChar c = true

/-- A text that may be the value of a header. -/
def IsHeaderValue (value : String) : Prop := ∀ b ∈ Text.octets value, isValueOctet b = true

/-- **What a well formed header reads as**: the name without the blanks at its ends, in small letters, and
the octets of the value. -/
def ReadsAs (header : String × String) (field : String × Octets) : Prop :=
  IsHeaderName header.1 ∧ IsHeaderValue header.2 ∧
    field = (String.ofList ((Text.trimChars header.1.toList).map Text.asciiLowerChar),
      Text.octets header.2)

/-- A header that is malformed, and the fault that says so; the name is looked at first. -/
inductive Malformed (header : String × String) : Fault → Prop
  | name (h : ¬ IsHeaderName header.1) : Malformed header (badHeaderName header.1)
  | value (hname : IsHeaderName header.1) (h : ¬ IsHeaderValue header.2) :
      Malformed header (badHeaderValue header.1)

/-- The method that a text asks for: without the blanks at its ends, in capitals; if nothing is left, it is
`GET`. -/
def methodText (method : String) : String :=
  let cs := Text.trimChars method.toList
  if cs = [] then "GET" else String.ofList (cs.map Text.asciiUpperChar)

/-- A text that may be a method: blank, or a token once it is trimmed and in capitals. -/
def IsMethod (method : String) : Prop :=
  ∀ c ∈ Text.trimChars method.toList, isTokenChar (Text.asciiUpperChar c) = true

theorem headerName?_of_is {name : String} (h : IsHeaderName name) : headerName? name =
    some (String.ofList ((Text.trimChars name.toList).map Text.asciiLowerChar)) := by
  obtain ⟨hne, hshort, htoken⟩ := h
  have hall : (Text.trimChars name.toList).all isTokenChar = true := List.all_eq_true.2 htoken
  rw [headerName?]
  refine if_neg ?_
  simp [hne, hall, Nat.not_lt.2 hshort]

theorem headerName?_of_not {name : String} (h : ¬ IsHeaderName name) : headerName? name = none := by
  rw [headerName?]
  refine if_pos ?_
  -- a text that passes the three checks would be a name
  by_contra hchecks
  simp only [Bool.or_eq_true, not_or, List.isEmpty_iff, decide_eq_true_eq, Nat.not_lt,
    Bool.not_eq_true', Bool.not_eq_false, List.all_eq_true] at hchecks
  exact h ⟨hchecks.1.1, hchecks.1.2, hchecks.2⟩

theorem headerValue?_of_is {value : String} (h : IsHeaderValue value) :
    headerValue? value = some (Text.octets value) := by
  have hall : (Text.octets value).all isValueOctet = true := List.all_eq_true.2 h
  rw [headerValue?]
  exact if_pos hall

theorem headerValue?_of_not {value : String} (h : ¬ IsHeaderValue value) :
    headerValue? value = none := by
  rw [headerValue?]
  exact if_neg fun hall => h (List.all_eq_true.1 hall)

theorem method?_of_is {method : String} (h : IsMethod method) :
    method? method = some (methodText method) := by
  rw [method?, methodText]
  by_cases hempty : Text.trimChars method.toList = []
  · simp [hempty]
  · have hall : ((Text.trimChars method.toList).map Text.asciiUpperChar).all isTokenChar = true := by
      rw [List.all_map]
      exact List.all_eq_true.2 h
    simp [hempty, hall]

theorem method?_of_not {method : String} (h : ¬ IsMethod method) : method? method = none := by
  have hempty : Text.trimChars method.toList ≠ [] := by
    intro hnil
    refine h ?_
    rw [IsMethod, hnil]
    exact fun c hc => absurd hc List.not_mem_nil
  have hall : ((Text.trimChars method.toList).map Text.asciiUpperChar).all isTokenChar ≠ true := by
    rw [List.all_map]
    exact fun hall => h (List.all_eq_true.1 hall)
  rw [method?]
  simp [hempty, hall]

/-! ### Headers up to the first malformed one -/

/-- Fields added one by one. -/
def Headers.add (h : Headers) (fields : List (String × Octets)) : Headers :=
  fields.foldl (fun h p => h.append p.1 p.2) h

/-- The first of several headers is well formed and is added, or is malformed and ends the adding. -/
theorem addHeaders_cons (header : String × String) (rest : List (String × String)) (h : Headers) :
    (∃ field, ReadsAs header field ∧
      addHeaders h (header :: rest) = addHeaders (h.append field.1 field.2) rest) ∨
    ∃ f, Malformed header f ∧ addHeaders h (header :: rest) = (some f, h) := by
  by_cases hname : IsHeaderName header.1
  · by_cases hvalue : IsHeaderValue header.2
    · refine .inl ⟨_, ⟨hname, hvalue, rfl⟩, ?_⟩
      rw [addHeaders, headerName?_of_is hname, headerValue?_of_is hvalue]
    · refine .inr ⟨_, .value hname hvalue, ?_⟩
      rw [addHeaders, headerName?_of_is hname, headerValue?_of_not hvalue]
  · refine .inr ⟨_, .name hname, ?_⟩
    rw [addHeaders, headerName?_of_not hname]

/-- **Headers are added up to the first malformed one.** -/
theorem addHeaders_cases (headers : List (String × String)) (h : Headers) :
    (∃ fields, List.Forall₂ ReadsAs headers fields ∧ addHeaders h headers = (none, h.add fields)) ∨
    ∃ before bad after fields f, headers = before ++ bad :: after ∧
      List.Forall₂ ReadsAs before fields ∧ Malformed bad f ∧
        addHeaders h headers = (some f, h.add fields) := by
  induction headers generalizing h with
  | nil => exact .inl ⟨[], .nil, rfl⟩
  | cons header rest ih =>
      rcases addHeaders_cons header rest h with ⟨field, hfield, hadd⟩ | ⟨f, hbad, hadd⟩
      · rw [hadd]
        rcases ih (h.append field.1 field.2) with ⟨fields, hread, hall⟩ |
          ⟨before, bad, after, fields, f, rfl, hread, hbad, hall⟩
        · exact .inl ⟨field :: fields, .cons hfield hread, hall⟩
        · exact .inr ⟨header :: before, bad, after, field :: fields, f, rfl, .cons hfield hread, hbad,
            hall⟩
      · exact .inr ⟨[], header, rest, [], f, rfl, .nil, hbad, hadd⟩

/-! ### Filling a request -/

/-- **How filling a request ends**: with which fault, if any, and as which request.  What comes before the
first malformed part is new, what comes after it is as it was. -/
inductive Filled (t : Template) (r : Request) : Option Fault → Request → Prop
  | method (h : ¬ IsMethod t.method) : Filled t r (some (badMethod t.method)) r
  | url {f : Url.Fault} (hmethod : IsMethod t.method) (h : Url.parse t.url = .error f) :
      Filled t r (some (badUrl t.url f)) { r with method := methodText t.method }
  | header {url : Url} {headers : Headers} {before after : List (String × String)}
      {bad : String × String} {fields : List (String × Octets)} {f : Fault}
      (hmethod : IsMethod t.method) (hurl : Url.parse t.url = .ok url)
      (hsplit : t.headers = before ++ bad :: after) (hread : List.Forall₂ ReadsAs before fields)
      (hbad : Malformed bad f) (hgroups : headers.groups = grouped fields) :
      Filled t r (some f) ⟨methodText t.method, some url, headers, r.body⟩
  | done {url : Url} {headers : Headers} {fields : List (String × Octets)}
      (hmethod : IsMethod t.method) (hurl : Url.parse t.url = .ok url)
      (hread : List.Forall₂ ReadsAs t.headers fields) (hgroups : headers.groups = grouped fields) :
      Filled t r none ⟨methodText t.method, some url, headers, Text.octets t.body⟩

namespace Request

theorem setup_filled (r : Request) (t : Template) : Filled t r (r.setup t).1 (r.setup t).2 := by
  rw [setup]
  by_cases hmethod : IsMethod t.method
  · rw [method?_of_is hmethod]
    cases hurl : Url.parse t.url with
    | error f => exact .url hmethod hurl
    | ok url =>
        dsimp only
        rcases addHeaders_cases t.headers .empty with ⟨fields, hread, hadd⟩ |
          ⟨before, bad, after, fields, f, hsplit, hread, hbad, hadd⟩
        · rw [hadd]
          exact .done hmethod hurl hread (Headers.groups_ofList fields)
        · rw [hadd]
          exact .header hmethod hurl hsplit hread hbad (Headers.groups_ofList fields)
  · rw [method?_of_not hmethod]
    exact .method hmethod

/-- A request that could be filled has as many values as the template has headers. -/
theorem sum_of_filled {t : Template} {r q : Request} (h : Filled t r none q) :
    (q.headers.groups.map fun g => g.2.length).sum = t.headers.length := by
  cases h with
  | done _ _ hread hgroups => rw [hgroups, sum_grouped, hread.length_eq]

/-- **What filling a request comes to is decided by the template alone**, whatever the request was filled with
before: the fault, if there is one, and the request, if there is none.  A request that could be filled has
every value of the template once; one that could not is new up to the malformed part.  Clearing makes any
request blank. -/
theorem setup_of_template (t : Template) (r : Request) :
    (∀ r' : Request, (r.setup t).1 = (r'.setup t).1) ∧
    ((r.setup t).1 = none → (r.setup t).2 = (blank.setup t).2 ∧
      ((r.setup t).2.headers.groups.map fun g => g.2.length).sum = t.headers.length) ∧
    Filled t r (r.setup t).1 (r.setup t).2 ∧ r.reset = blank := by
  have hfilled := r.setup_filled t
  cases hrequest : t.request with
  | ok q =>
      have hsame : ∀ r' : Request, r'.setup t = (none, q) := fun r' => (setup_of_request r' t).1 q hrequest
      refine ⟨fun r' => ?_, fun h => ⟨?_, ?_⟩, hfilled, rfl⟩
      · rw [hsame, hsame]
      · rw [hsame, hsame]
      · rw [h] at hfilled
        exact sum_of_filled hfilled
  | error f =>
      have hsame : ∀ r' : Request, (r'.setup t).1 = some f :=
        fun r' => (setup_of_request r' t).2 f hrequest
      refine ⟨fun r' => ?_, fun h => ?_, hfilled, rfl⟩
      · rw [hsame, hsame]
      · rw [hsame] at h
        cases h

end Request

end HttpProbe.Http
