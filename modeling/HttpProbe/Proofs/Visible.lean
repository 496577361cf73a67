/-
**What an expression sees.**

The context of an expression is made of the variables: a scalar is seen under its own name, and each of
the two messages of an exchange under names that begin with the name of its handle and a dot.  The headers
of a message are seen by keys in which underscores stand for hyphens, so two headers may come to one key;
then the last of them is seen.  As long as no scalar goes by a name of the exchange, no two variables add
anything under one name, and the context holds exactly this, in whatever order the variables are listed.
Only a scalar of another kind than its name is declared with prevents a context, and then no expression has
a truth value, whether or not it reads the name.

Main definitions:

* `Http.Headers.Shows`, `Http.Request.Shows`, `Http.Response.Shows` — what is seen of a message;
* `Variables.Shows` — **what is seen of variables**;
* `Variables.Plain` — no scalar goes by a name of the exchange;
* `Environment.Misfits` — a declared name holds a scalar of another kind.

Main results:

* `Environment.lookup_requestFields_iff`, `Environment.lookup_responseFields_iff` — what a message adds;
* `Environment.lookup_fields_iff_shows` — what variables add, in any order;
* `Environment.misfits_of_bind` — why there is no context;
* `Environment.bind_iff_shows` — **the context is what is seen of the variables**.
-/

import HttpProbe.Proofs.Enumeration

set_option autoImplicit false
set_option relaxedAutoImplicit false

namespace HttpProbe

/-! ### What is seen of a message -/

/-- A header is seen by the key that its name comes to, with underscores for hyphens: its values in a row.
Of several names that come to one key, the last is seen. -/
inductive Http.Headers.Shows (h : Http.Headers) : String → String → Prop
  | intro {before after : List String} {name : String} (hnames : h.names = before ++ name :: after)
      (hlast : ∀ later ∈ after, Text.replaceChar '-' '_' later ≠ Text.replaceChar '-' '_' name) :
      Shows h (Text.replaceChar '-' '_' name) (", ".intercalate ((h.values name).map Text.lossy))

/-- What is seen of a request. -/
inductive Http.Request.Shows (r : Http.Request) : String → Expression.Value → Prop
  | method : Shows r "request.method" (.text r.method)
  | url : Shows r "request.url" (.text (r.url.elim "" Url.text))
  | path : Shows r "request.path" (.text r.path)
  | body : Shows r "request.body" (.text (Text.lossy r.body))
  | header {key value : String} (h : r.headers.Shows key value) :
      Shows r ("request.headers." ++ key) (.text value)

/-- What the content type of a response is: the first value of the header, if all its octets can be read as
a text; otherwise nothing. -/
inductive Http.Response.TypedAs (r : Http.Response) : String → Prop
  | readable {value : Http.Octets} {more : List Http.Octets}
      (hvalues : r.headers.values "content-type" = value :: more)
      (hvisible : ∀ b ∈ value, Http.Response.isVisible b = true) : TypedAs r (Text.lossy value)
  | unreadable (h : ∀ value more, r.headers.values "content-type" = value :: more →
        ∃ b ∈ value, Http.Response.isVisible b = false) : TypedAs r ""

/-- What is seen of a response.  A latency that is too large for an integer is seen as the largest one. -/
inductive Http.Response.Shows (r : Http.Response) : String → Expression.Value → Prop
  | status : Shows r "response.status" (.int (Int64.ofNat r.status))
  | body : Shows r "response.body" (.text (Text.lossy r.body))
  | contentType {type : String} (h : r.TypedAs type) : Shows r "response.content_type" (.text type)
  | url : Shows r "response.url" (.text (r.url.elim "" Url.text))
  | latency {n : Int64} (hn : n.toInt = min (r.latency : Int) Int64.maxValue.toInt) :
      Shows r "response.latency" (.int n)
  | header {key value : String} (h : r.headers.Shows key value) :
      Shows r ("response.headers." ++ key) (.text value)

/-- **What is seen of variables**: the scalars, and the two messages of an exchange. -/
inductive Variables.Shows (vars : Variables) : String → Expression.Value → Prop
  | scalar {name : String} {s : Scalar} (h : vars.get? name = some (.scalar s)) :
      Shows vars name (.ofScalar s)
  | request {r : Http.Request} {name : String} {v : Expression.Value} (h : vars.request? = some r)
      (hr : r.Shows name v) : Shows vars name v
  | response {r : Http.Response} {name : String} {v : Expression.Value}
      (h : vars.response? = some r) (hr : r.Shows name v) : Shows vars name v

namespace Environment

open Expression (Bindings)

/-! ### What a message adds -/

/-- What is read in settings in a row is the last one of the name. -/
theorem lookup_reverse_eq_some_iff {fields : Bindings} {n : String} {v : Expression.Value} :
    fields.reverse.lookup n = some v ↔
      ∃ before after, fields = before ++ (n, v) :: after ∧ ∀ f ∈ after, f.1 ≠ n := by
  rw [List.lookup_eq_some_iff]
  constructor
  · rintro ⟨front, back, hsplit, hnot⟩
    refine ⟨back.reverse, front.reverse, ?_, fun f hf => ?_⟩
    · have hfields := congrArg List.reverse hsplit
      simpa using hfields
    · have hne := hnot f (List.mem_reverse.1 hf)
      exact fun heq => by simp [heq] at hne
  · rintro ⟨before, after, rfl, hnot⟩
    refine ⟨after.reverse, before.reverse, by simp, fun f hf => ?_⟩
    have hne := hnot f (List.mem_reverse.1 hf)
    simpa using Ne.symm hne

theorem lookup_reverse_append (fields more : Bindings) (n : String) :
    (fields ++ more).reverse.lookup n = (more.reverse.lookup n).or (fields.reverse.lookup n) := by
  rw [List.reverse_append, List.lookup_append]

/-- The values of a name are those of its group. -/
theorem values_of_mem_groups {h : Http.Headers} {g : String × List Http.Octets} (hg : g ∈ h.groups) :
    h.values g.1 = g.2 := by
  have hlookup : h.groups.lookup g.1 = some g.2 := (Slots.lookup_eq_some_iff h.nodup).2 hg
  rw [Http.Headers.values, hlookup, Option.getD_some]

/-- **What headers add**: the last one of each key. -/
theorem lookup_headerFields_iff {owner : String} {h : Http.Headers} {n : String}
    {v : Expression.Value} :
    (headerFields owner h).reverse.lookup n = some v ↔
      ∃ key value, h.Shows key value ∧ n = owner ++ ".headers." ++ key ∧ v = .text value := by
  rw [lookup_reverse_eq_some_iff, headerFields]
  have hkey : ∀ name key : String, headerKey owner name = owner ++ ".headers." ++ key ↔
      Text.replaceChar '-' '_' name = key := by
    intro name key
    rw [headerKey, String.append_right_inj]
  constructor
  · rintro ⟨before, after, hsplit, hlast⟩
    obtain ⟨front, rest, hgroups, rfl, hrest⟩ := List.map_eq_append_iff.1 hsplit
    obtain ⟨g, back, rfl, hg, rfl⟩ := List.map_eq_cons_iff.1 hrest
    obtain ⟨rfl, rfl⟩ := Prod.mk.inj hg
    have hnames : h.names = front.map Prod.fst ++ g.1 :: back.map Prod.fst := by
      simp [Http.Headers.names, hgroups]
    refine ⟨_, _, .intro hnames fun later hlater heq => ?_, rfl, ?_⟩
    · obtain ⟨d, hd, rfl⟩ := List.mem_map.1 hlater
      exact hlast _ (List.mem_map_of_mem hd) ((hkey d.1 _).2 heq)
    · rw [values_of_mem_groups (by simp [hgroups])]
      rfl
  · rintro ⟨key, value, ⟨hnames, hlast⟩, rfl, rfl⟩
    obtain ⟨front, rest, hgroups, rfl, hrest⟩ := List.map_eq_append_iff.1 hnames
    obtain ⟨g, back, rfl, rfl, rfl⟩ := List.map_eq_cons_iff.1 hrest
    let field := fun g : String × List Http.Octets =>
      (headerKey owner g.1, Expression.Value.text (Text.join ", " (g.2.map Text.lossy)))
    refine ⟨front.map field, back.map field, ?_, fun f hf heq => ?_⟩
    · rw [hgroups, List.map_append, List.map_cons, values_of_mem_groups (by simp [hgroups])]
      rfl
    · obtain ⟨d, hd, rfl⟩ := List.mem_map.1 hf
      exact hlast d.1 (List.mem_map_of_mem hd) ((hkey d.1 _).1 heq)

theorem startsWith_headerFields {owner : String} {h : Http.Headers} {f : String × Expression.Value}
    (hf : f ∈ headerFields owner h) :
    Text.startsWith f.1 (owner ++ ".headers.") = true ∧ f.2.shape = .text := by
  obtain ⟨g, _, rfl⟩ := List.mem_map.1 hf
  refine ⟨?_, rfl⟩
  rw [Text.startsWith, List.isPrefixOf_iff_prefix]
  exact ⟨_, String.toList_append.symm⟩

/-- The parts of a message have names of their own, and none of them is that of a header. -/
structure Apart (owner : String) (parts : Bindings) : Prop where
  distinct : Slots.Distinct parts
  unlike : ∀ f ∈ parts, Text.startsWith f.1 (owner ++ ".headers.") = false

theorem Apart.ne_header {owner : String} {parts : Bindings} (hparts : Apart owner parts)
    {h : Http.Headers} {f g : String × Expression.Value} (hf : f ∈ parts)
    (hg : g ∈ headerFields owner h) : f.1 ≠ g.1 := by
  intro heq
  have hheader := (startsWith_headerFields hg).1
  rw [← heq, hparts.unlike f hf] at hheader
  cases hheader

/-- A message adds its parts and its headers. -/
theorem Apart.lookup_iff {owner : String} {parts : Bindings} (hparts : Apart owner parts)
    {h : Http.Headers} {n : String} {v : Expression.Value} :
    (parts ++ headerFields owner h).reverse.lookup n = some v ↔
      (n, v) ∈ parts ∨
        ∃ key value, h.Shows key value ∧ n = owner ++ ".headers." ++ key ∧ v = .text value := by
  have hreverse : Slots.Distinct parts.reverse := by
    rw [Slots.Distinct, List.map_reverse]
    exact List.pairwise_reverse.2 (hparts.distinct.imp Ne.symm)
  have hpart : parts.reverse.lookup n = some v ↔ (n, v) ∈ parts := by
    rw [Slots.lookup_eq_some_iff hreverse, List.mem_reverse]
  rw [lookup_reverse_append, Option.or_eq_some_iff, lookup_headerFields_iff, hpart]
  constructor
  · rintro (hheader | ⟨_, hmem⟩)
    · exact .inr hheader
    · exact .inl hmem
  · rintro (hmem | hheader)
    · refine .inr ⟨?_, hmem⟩
      cases hlookup : (headerFields owner h).reverse.lookup n with
      | none => rfl
      | some w =>
          have hne := hparts.ne_header hmem (mem_of_lookup_reverse hlookup)
          exact absurd rfl hne
    · exact .inl hheader

theorem Apart.coherent {owner : String} {parts : Bindings} (hparts : Apart owner parts)
    (h : Http.Headers) : Coherent (parts ++ headerFields owner h) := by
  intro f hf g hg hname
  rcases List.mem_append.1 hf with hf | hf <;> rcases List.mem_append.1 hg with hg | hg
  · have hread := (Slots.lookup_eq_some_iff hparts.distinct).2 hf
    rw [hname, (Slots.lookup_eq_some_iff hparts.distinct).2 hg] at hread
    rw [Option.some.inj hread]
  · exact absurd hname (hparts.ne_header hf hg)
  · exact absurd hname.symm (hparts.ne_header hg hf)
  · rw [(startsWith_headerFields hf).2, (startsWith_headerFields hg).2]

/-- The parts of a request. -/
def requestParts (r : Http.Request) : Bindings :=
  [("request.method", .text r.method), ("request.url", .text r.urlText),
    ("request.path", .text r.path), ("request.body", .text r.bodyText)]

theorem apart_requestParts (r : Http.Request) : Apart Variables.requestName (requestParts r) where
  distinct := by
    change ["request.method", "request.url", "request.path", "request.body"].Nodup
    decide
  unlike := by
    simp only [requestParts, List.forall_mem_cons]
    decide

/-- The parts of a response. -/
def responseParts (r : Http.Response) : Bindings :=
  [("response.status", .int (Int64.ofNat r.status)), ("response.body", .text r.bodyText),
    ("response.content_type", .text r.contentType), ("response.url", .text r.urlText),
    ("response.latency", .int (Int64.ofNat (min r.latency latencyLimit)))]

theorem apart_responseParts (r : Http.Response) :
    Apart Variables.responseName (responseParts r) where
  distinct := by
    change ["response.status", "response.body", "response.content_type", "response.url",
      "response.latency"].Nodup
    decide
  unlike := by
    simp only [responseParts, List.forall_mem_cons]
    decide

/-- **What a request adds** is what is seen of it. -/
theorem lookup_requestFields_iff {r : Http.Request} {n : String} {v : Expression.Value} :
    (requestFields r).reverse.lookup n = some v ↔ r.Shows n v := by
  have hurl : r.urlText = r.url.elim "" Url.text := by
    rw [Http.Request.urlText]
    cases r.url <;> rfl
  refine (apart_requestParts r).lookup_iff.trans ?_
  simp only [requestParts, List.mem_cons, List.not_mem_nil, or_false, Prod.mk.injEq, hurl]
  constructor
  · rintro ((⟨rfl, rfl⟩ | ⟨rfl, rfl⟩ | ⟨rfl, rfl⟩ | ⟨rfl, rfl⟩) | ⟨key, value, hheader, rfl, rfl⟩)
    · exact .method
    · exact .url
    · exact .path
    · exact .body
    · exact .header hheader
  · intro h
    cases h with
    | header hheader => exact .inr ⟨_, _, hheader, rfl, rfl⟩
    | _ => simp [Http.Request.bodyText]

theorem typedAs_iff {r : Http.Response} {type : String} : r.TypedAs type ↔ type = r.contentType := by
  rw [Http.Response.contentType, Http.Headers.first?]
  constructor
  · intro h
    cases h with
    | readable hvalues hvisible =>
        rw [hvalues, List.head?_cons]
        exact (if_pos (List.all_eq_true.2 hvisible)).symm
    | unreadable hhidden =>
        cases hvalues : r.headers.values "content-type" with
        | nil => rfl
        | cons value more =>
            obtain ⟨b, hb, hfalse⟩ := hhidden value more hvalues
            have hall : ¬ value.all Http.Response.isVisible = true := by
              rw [List.all_eq_true]
              intro hvisible
              rw [hvisible b hb] at hfalse
              cases hfalse
            exact (if_neg hall).symm
  · rintro rfl
    cases hvalues : r.headers.values "content-type" with
    | nil => exact .unreadable fun value more h => by simp [hvalues] at h
    | cons value more =>
        rw [List.head?_cons]
        dsimp only
        split
        · rename_i hvisible
          exact .readable hvalues (List.all_eq_true.1 hvisible)
        · rename_i hhidden
          refine .unreadable fun value' more' h => ?_
          obtain ⟨rfl, rfl⟩ := List.cons.inj (hvalues.symm.trans h)
          simpa using hhidden

theorem toInt_latency (latency : Nat) :
    (Int64.ofNat (min latency latencyLimit)).toInt = min (latency : Int) Int64.maxValue.toInt := by
  have hlimit : Int64.maxValue.toInt = (latencyLimit : Int) := rfl
  have hsmall : min latency latencyLimit < 9223372036854775808 := by
    simp only [latencyLimit]
    omega
  rw [Int64.toInt_ofNat_of_lt hsmall, hlimit]
  omega

/-- **What a response adds** is what is seen of it. -/
theorem lookup_responseFields_iff {r : Http.Response} {n : String} {v : Expression.Value} :
    (responseFields r).reverse.lookup n = some v ↔ r.Shows n v := by
  have hurl : r.urlText = r.url.elim "" Url.text := by
    rw [Http.Response.urlText]
    cases r.url <;> rfl
  refine (apart_responseParts r).lookup_iff.trans ?_
  simp only [responseParts, List.mem_cons, List.not_mem_nil, or_false, Prod.mk.injEq, hurl]
  constructor
  · rintro ((⟨rfl, rfl⟩ | ⟨rfl, rfl⟩ | ⟨rfl, rfl⟩ | ⟨rfl, rfl⟩ | ⟨rfl, rfl⟩) |
      ⟨key, value, hheader, rfl, rfl⟩)
    · exact .status
    · exact .body
    · exact .contentType (typedAs_iff.2 rfl)
    · exact .url
    · exact .latency (toInt_latency r.latency)
    · exact .header hheader
  · intro h
    cases h with
    | header hheader => exact .inr ⟨_, _, hheader, rfl, rfl⟩
    | contentType htype => simp [typedAs_iff.1 htype]
    | latency hn =>
        rw [← toInt_latency] at hn
        simp [Int64.toInt_inj.1 hn]
    | _ => simp [Http.Response.bodyText]

end Environment

/-! ### What variables add -/

/-- **No scalar goes by a name of the exchange.** -/
def Variables.Plain (vars : Variables) : Prop :=
  ∀ n s, vars.get? n = some (.scalar s) → Environment.isDerived n = false

namespace Environment

open Expression (Bindings)

/-- The variable that a name in the context comes from, if no scalar goes by a name of the exchange. -/
def origin (n : String) : String :=
  if Text.startsWith n "request." then Variables.requestName
  else if Text.startsWith n "response." then Variables.responseName
  else n

theorem origin_requestFields (r : Http.Request) :
    ∀ f ∈ requestFields r, origin f.1 = Variables.requestName := by
  simp only [requestFields, List.forall_mem_append, List.forall_mem_cons]
  refine ⟨by decide, fun f hf => ?_⟩
  obtain ⟨g, _, rfl⟩ := List.mem_map.1 hf
  simp [origin, headerKey, Text.startsWith, Variables.requestName]

theorem origin_responseFields (r : Http.Response) :
    ∀ f ∈ responseFields r, origin f.1 = Variables.responseName := by
  simp only [responseFields, List.forall_mem_append, List.forall_mem_cons]
  refine ⟨by decide, fun f hf => ?_⟩
  obtain ⟨g, _, rfl⟩ := List.mem_map.1 hf
  simp [origin, headerKey, Text.startsWith, Variables.responseName]

theorem origin_of_isDerived {n : String} (h : isDerived n = false) : origin n = n := by
  rw [isDerived, Bool.or_eq_false_iff] at h
  have hrequest : Text.startsWith n "request." = false := h.1
  have hresponse : Text.startsWith n "response." = false := h.2
  simp [origin, hrequest, hresponse]

theorem origin_fieldsOf {vars : Variables} (h : vars.Plain) {e : String × Value}
    (he : e ∈ vars.entries) : ∀ f ∈ fieldsOf e, origin f.1 = e.1 := by
  obtain ⟨name, v⟩ := e
  intro f hf
  cases v with
  | scalar s =>
      obtain rfl := List.mem_singleton.1 hf
      exact origin_of_isDerived (h name s (Variables.get?_eq_some_iff.2 he))
  | request r owner =>
      simp only [fieldsOf] at hf
      split at hf
      · rename_i hname
        rw [hname]
        exact origin_requestFields r f hf
      · cases hf
  | response r owner =>
      simp only [fieldsOf] at hf
      split at hf
      · rename_i hname
        rw [hname]
        exact origin_responseFields r f hf
      · cases hf

/-- **No two variables add anything under one name.** -/
theorem eq_of_mem_fieldsOf {vars : Variables} (h : vars.Plain) {e e' : String × Value}
    (he : e ∈ vars.entries) (he' : e' ∈ vars.entries) {f f' : String × Expression.Value}
    (hf : f ∈ fieldsOf e) (hf' : f' ∈ fieldsOf e') (hname : f.1 = f'.1) : e = e' := by
  have hnames : e.1 = e'.1 := by
    rw [← origin_fieldsOf h he f hf, hname, origin_fieldsOf h he' f' hf']
  have hentry := Variables.get?_eq_some_iff.2 he
  rw [hnames, Variables.get?_eq_some_iff.2 he'] at hentry
  exact Prod.ext hnames (Option.some.inj hentry).symm

/-- What one variable adds goes together. -/
theorem coherent_fieldsOf (e : String × Value) : Coherent (fieldsOf e) := by
  have hnone : Coherent [] := fun f hf => absurd hf List.not_mem_nil
  obtain ⟨name, v⟩ := e
  cases v with
  | scalar s =>
      intro f hf g hg _
      rw [List.mem_singleton.1 hf, List.mem_singleton.1 hg]
  | request r owner =>
      simp only [fieldsOf]
      split
      · exact (apart_requestParts r).coherent r.headers
      · exact hnone
  | response r owner =>
      simp only [fieldsOf]
      split
      · exact (apart_responseParts r).coherent r.headers
      · exact hnone

theorem coherent_of_plain {vars : Variables} (h : vars.Plain) {entries : List (String × Value)}
    (horder : entries.Perm vars.entries) : Coherent (entries.flatMap fieldsOf) := by
  intro f hf g hg hname
  obtain ⟨e, he, hfe⟩ := List.mem_flatMap.1 hf
  obtain ⟨e', he', hge⟩ := List.mem_flatMap.1 hg
  obtain rfl := eq_of_mem_fieldsOf h (horder.subset he) (horder.subset he') hfe hge hname
  exact coherent_fieldsOf e f hfe g hge hname

theorem get?_of_request? {vars : Variables} {r : Http.Request} (h : vars.request? = some r) :
    ∃ owner, vars.get? Variables.requestName = some (.request r owner) := by
  rw [Variables.request?] at h
  split at h
  · rename_i r' owner hget
    obtain rfl := Option.some.inj h
    exact ⟨owner, hget⟩
  · cases h

theorem get?_of_response? {vars : Variables} {r : Http.Response} (h : vars.response? = some r) :
    ∃ owner, vars.get? Variables.responseName = some (.response r owner) := by
  rw [Variables.response?] at h
  split at h
  · rename_i r' owner hget
    obtain rfl := Option.some.inj h
    exact ⟨owner, hget⟩
  · cases h

/-- What some variable adds is what is seen of the variables. -/
theorem exists_added_iff_shows {vars : Variables} {n : String} {v : Expression.Value} :
    (∃ e ∈ vars.entries, added e n = some v) ↔ vars.Shows n v := by
  constructor
  · rintro ⟨⟨name, w⟩, he, hadded⟩
    have hget := Variables.get?_eq_some_iff.2 he
    cases w with
    | scalar s =>
        have hmem := List.mem_singleton.1 (mem_of_lookup_reverse hadded)
        obtain ⟨rfl, rfl⟩ := Prod.mk.inj hmem
        exact .scalar hget
    | request r owner =>
        simp only [added, fieldsOf] at hadded
        split at hadded
        · rename_i hname
          subst hname
          have hrequest : vars.request? = some r := by rw [Variables.request?, hget]
          exact .request hrequest (lookup_requestFields_iff.1 hadded)
        · cases hadded
    | response r owner =>
        simp only [added, fieldsOf] at hadded
        split at hadded
        · rename_i hname
          subst hname
          have hresponse : vars.response? = some r := by rw [Variables.response?, hget]
          exact .response hresponse (lookup_responseFields_iff.1 hadded)
        · cases hadded
  · intro h
    cases h with
    | scalar hget => exact ⟨_, Variables.get?_eq_some_iff.1 hget, by simp [added, fieldsOf]⟩
    | request hrequest hshows =>
        obtain ⟨owner, hget⟩ := get?_of_request? hrequest
        refine ⟨_, Variables.get?_eq_some_iff.1 hget, ?_⟩
        simp only [added, fieldsOf, if_true]
        exact lookup_requestFields_iff.2 hshows
    | response hresponse hshows =>
        obtain ⟨owner, hget⟩ := get?_of_response? hresponse
        refine ⟨_, Variables.get?_eq_some_iff.1 hget, ?_⟩
        simp only [added, fieldsOf, if_true]
        exact lookup_responseFields_iff.2 hshows

/-- **What variables add, in any order**, is what is seen of them. -/
theorem lookup_fields_iff_shows {vars : Variables} (h : vars.Plain) {entries : List (String × Value)}
    (horder : entries.Perm vars.entries) {n : String} {v : Expression.Value} :
    (entries.flatMap fieldsOf).reverse.lookup n = some v ↔ vars.Shows n v := by
  rw [← exists_added_iff_shows]
  constructor
  · intro hlookup
    obtain ⟨e, he, hadded⟩ := exists_added_of_lookup hlookup
    exact ⟨e, horder.subset he, hadded⟩
  · rintro ⟨e, he, hadded⟩
    obtain ⟨w, hlookup⟩ := exists_added_iff.2 ⟨e, horder.symm.subset he, v, hadded⟩
    obtain ⟨e', he', hadded'⟩ := exists_added_of_lookup hlookup
    -- whatever is added under the name comes from one variable
    obtain rfl := eq_of_mem_fieldsOf h he (horder.subset he') (mem_of_lookup_reverse hadded)
      (mem_of_lookup_reverse hadded') rfl
    rw [hlookup, ← hadded, hadded']

/-! ### Why there is no context -/

/-- The name is declared with a kind, and holds a scalar of another one. -/
def Misfits (env : Environment) (vars : Variables) (name : String) (expected found : Kind) : Prop :=
  env.kindOf? name = some expected ∧ found ≠ expected ∧
    ∃ s, vars.get? name = some (.scalar s) ∧ s.kind = found

theorem mistyped_iff {env : Environment} {e : String × Value} :
    env.mistyped e = true ↔
      ∃ s k, e.2 = .scalar s ∧ env.kindOf? e.1 = some k ∧ s.kind ≠ k := by
  obtain ⟨name, v⟩ := e
  cases v with
  | scalar s => cases hkind : env.kindOf? name <;> simp [mistyped, hkind]
  | request r owner => simp [mistyped]
  | response r owner => simp [mistyped]

theorem any_mistyped_iff {env : Environment} {vars : Variables} {entries : List (String × Value)}
    (horder : entries.Perm vars.entries) :
    entries.any env.mistyped = true ↔
      ∃ name expected found, env.Misfits vars name expected found := by
  rw [List.any_eq_true]
  constructor
  · rintro ⟨⟨name, v⟩, he, hmistyped⟩
    obtain ⟨s, k, rfl, hkind, hne⟩ := mistyped_iff.1 hmistyped
    exact ⟨name, k, s.kind, hkind, hne, s, Variables.get?_eq_some_iff.2 (horder.subset he), rfl⟩
  · rintro ⟨name, k, _, hkind, hne, s, hget, rfl⟩
    refine ⟨(name, .scalar s), horder.symm.subset (Variables.get?_eq_some_iff.1 hget), ?_⟩
    exact mistyped_iff.2 ⟨s, k, rfl, hkind, hne⟩

theorem bindFrom_append (env : Environment) (ctx : Bindings) (l l' : List (String × Value)) :
    env.bindFrom ctx (l ++ l') = env.bindFrom ctx l >>= (env.bindFrom · l') := by
  induction l generalizing ctx with
  | nil => rfl
  | cons e rest ih =>
      obtain ⟨name, v⟩ := e
      rw [List.cons_append, bindFrom, bindFrom]
      cases env.bindEntry ctx name v with
      | error fault => rfl
      | ok ctx => exact ih ctx

/-- **There is no context only because of the kind of a scalar**, if everything else goes together. -/
theorem misfits_of_bind {env : Environment} {vars : Variables} {entries : List (String × Value)}
    (horder : entries.Perm vars.entries) (hcoherent : Coherent (entries.flatMap fieldsOf))
    {fault : EvalFault} (h : env.bind entries = .error fault) :
    ∃ name expected found, env.Misfits vars name expected found ∧
      fault = .kindMismatch name expected found := by
  cases hfirst : entries.find? env.mistyped with
  | none =>
      have htyped : entries.any env.mistyped = false := by
        rw [List.any_eq_false]
        exact List.find?_eq_none.1 hfirst
      obtain ⟨ctx, hctx⟩ := (env.bind_eq_ok_iff entries).2 ⟨htyped, hcoherent⟩
      rw [h] at hctx
      cases hctx
  | some e =>
      -- the variables before the first that does not fit have a context
      obtain ⟨hmistyped, front, back, rfl, hfront⟩ := List.find?_eq_some_iff_append.1 hfirst
      obtain ⟨s, k, hscalar, hkind, hne⟩ := mistyped_iff.1 hmistyped
      have htyped : front.any env.mistyped = false := by
        rw [List.any_eq_false]
        simpa using hfront
      rw [List.flatMap_append] at hcoherent
      obtain ⟨ctx, hctx⟩ := (env.bind_eq_ok_iff front).2 ⟨htyped, hcoherent.of_append⟩
      refine ⟨e.1, k, s.kind, ⟨hkind, hne, s, ?_, rfl⟩, ?_⟩
      · rw [← hscalar]
        exact Variables.get?_eq_some_iff.2 (horder.subset (by simp))
      · rw [bind] at h hctx
        rw [bindFrom_append, hctx] at h
        change env.bindFrom ctx (e :: back) = _ at h
        rw [bindFrom, hscalar, bindEntry, hkind] at h
        dsimp only at h
        rw [if_neg hne] at h
        exact (Except.error.inj h).symm

theorem declarations_node (env : Environment) (expression : String) :
    (env.node expression).2.declarations = env.declarations := by
  rw [node]
  cases env.compiled.lookup expression with
  | some n => rfl
  | none => cases Expression.parse expression <;> rfl

/-- **Without a context no expression has a truth value**, whatever it reads. -/
theorem evaluateOn_of_bind {env : Environment} {entries : List (String × Value)} {fault : EvalFault}
    (h : env.bind entries = .error fault) {expression : String} {node : Expression.Node}
    (hnode : (env.node expression).1 = .ok node) (chance : Chance) :
    (env.evaluateOn chance expression entries).1 = .error fault := by
  have hdeclared := env.declarations_node expression
  cases hready : env.node expression with
  | mk result env' =>
      rw [hready] at hnode hdeclared
      obtain rfl : result = .ok node := hnode
      rw [evaluateOn, hready]
      dsimp only
      rw [truth_congr hdeclared, truth, h]

/-! ### The context -/

/-- **The context is what is seen of the variables**, if no scalar goes by a name of the exchange, and it
does not depend on the order in which they are listed.  There is one unless a declared name holds a scalar
of another kind; and then every expression fails for such a name, even one that does not read it. -/
theorem bind_iff_shows (env : Environment) {vars : Variables} (hplain : vars.Plain)
    {entries : List (String × Value)} (horder : entries.Perm vars.entries) :
    ((∃ ctx, env.bind entries = .ok ctx) ↔
        ∀ name expected found, ¬ env.Misfits vars name expected found) ∧
      (∀ fault, env.bind entries = .error fault →
        (∃ name expected found, env.Misfits vars name expected found ∧
          fault = .kindMismatch name expected found) ∧
        ∀ chance expression node, (env.node expression).1 = .ok node →
          (env.evaluateOn chance expression entries).1 = .error fault) ∧
      ∀ ctx, env.bind entries = .ok ctx → ∀ n v, ctx.get? n = some v ↔ vars.Shows n v := by
  have hcoherent := coherent_of_plain hplain horder
  refine ⟨?_, fun fault hfault => ⟨misfits_of_bind horder hcoherent hfault, ?_⟩, ?_⟩
  · rw [bind_eq_ok_iff, ← Bool.not_eq_true, any_mistyped_iff horder]
    constructor
    · rintro ⟨hnone, _⟩ name expected found hmisfits
      exact hnone ⟨name, expected, found, hmisfits⟩
    · intro hnone
      refine ⟨?_, hcoherent⟩
      rintro ⟨name, expected, found, hmisfits⟩
      exact hnone name expected found hmisfits
  · intro chance expression node hnode
    exact evaluateOn_of_bind hfault hnode chance
  · intro ctx hctx n v
    rw [get?_of_bind hctx]
    exact lookup_fields_iff_shows hplain horder

/-- A response of which two headers come to one key, listed before a declared scalar. -/
theorem bind_of_two_headers :
    let env : Environment := ⟨[⟨"n", .int 5⟩], []⟩
    let headers := Http.Headers.ofList
      [("x-id", Text.octets "a"), ("x_id", Text.octets "b"), ("x-id", Text.octets "c")]
    let response : Http.Response := ⟨200, headers, Text.octets "pong", none, 18446744073709551616⟩
    let vars := (Variables.empty.insert "n" (.scalar (.int 1))).insert "response"
      (.response response .pools)
    vars.Plain ∧ ∃ ctx, env.bind vars.entries.reverse = .ok ctx ∧
      ctx.get? "n" = some (.int 1) ∧ ctx.get? "response.headers.x_id" = some (.text "b") ∧
      ctx.get? "response.latency" = some (.int 9223372036854775807) := by
  intro env headers response vars
  have hn : vars.get? "n" = some (.scalar (.int 1)) := by decide
  have hresponse : vars.response? = some response := by decide +kernel
  have hscalar : ∀ n s, vars.get? n = some (.scalar s) → n = "n" ∧ s = .int 1 := by
    intro n s hs
    simp only [vars, Variables.get?_insert, Variables.get?_empty] at hs
    split at hs
    · cases hs
    · split at hs
      · exact ⟨by assumption, by simpa using hs.symm⟩
      · cases hs
  have hplain : vars.Plain := by
    intro n s hs
    obtain ⟨rfl, _⟩ := hscalar n s hs
    decide
  obtain ⟨hok, _, hread⟩ := bind_iff_shows env hplain (List.reverse_perm _)
  obtain ⟨ctx, hctx⟩ := hok.2 <| by
    rintro name _ _ ⟨hkind, hne, s, hs, rfl⟩
    obtain ⟨rfl, rfl⟩ := hscalar name s hs
    exact hne (Option.some.inj hkind)
  have hheader : headers.Shows "x_id" "b" :=
    .intro (show headers.names = ["x-id"] ++ "x_id" :: [] by decide) (by simp)
  have hfield : response.Shows ("response.headers." ++ "x_id") (.text "b") := .header hheader
  refine ⟨hplain, ctx, hctx, ?_, ?_, ?_⟩
  · exact (hread ctx hctx _ _).2 (.scalar hn)
  · exact (hread ctx hctx _ _).2 (.response hresponse hfield)
  · exact (hread ctx hctx _ _).2 (.response hresponse (.latency (by decide)))

end Environment

end HttpProbe
