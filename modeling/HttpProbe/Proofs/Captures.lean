/-
**What a search captures reaches later requests.**

A match writes the texts of its groups, first group first, so of several groups with one name the last one
that takes part is kept.  The name is one that a placeholder may hold: a group without a name is written
under its number, and the digits of a number may stand in a placeholder.  From then on the variable stays
what it is until it is written again, through rules, groups and checks; and wherever a template of a later
rule holds a placeholder of this name, the captured text comes into the request as it is, whatever it looks
like.

Main definitions:

* `Extraction.Holds` — a variable holds the text of a group once the groups of a match are written;
* `Extraction.Fillable` — a variable of a group that a placeholder can name;
* `Moment.Matches` — the search of a rule matches;
* `Moment.Fills` — a text stands in a request wherever a placeholder names a variable.

Main results:

* `Extraction.get?_write_capturesFrom` — what is read after a match is written;
* `Moment.fills_of_text` — a variable that is a text fills placeholders with it;
* `Fleet.fills_of_captured` — **a captured text reaches every later request as it is**.
-/

import HttpProbe.Proofs.Moments
import HttpProbe.Proofs.Placeholders

set_option autoImplicit false
set_option relaxedAutoImplicit false

namespace HttpProbe

/-! ### The groups of a match -/

namespace Extraction

/-- **The variable holds the text of a group** once the groups of a match are written: the group takes part
in the match, and no later group that does is written to the same variable.  Group zero is the match as a
whole, and is not written. -/
structure Holds (r : Regex.Matcher) (groups : List (Option String)) (j : Nat) (k text : String) : Prop where
  pos : 0 < j
  taken : groups[j]? = some (some text)
  key : key r j = k
  last : ∀ i later, j < i → groups[i]? = some (some later) → Extraction.key r i ≠ k

/-- The last group of all is not written over. -/
theorem holds_of_last (r : Regex.Matcher) {groups : List (Option String)} (hne : groups ≠ []) (text : String) :
    Holds r (groups ++ [some text]) groups.length (Extraction.key r groups.length) text := by
  refine ⟨List.length_pos_of_ne_nil hne, List.getElem?_concat_length, rfl, fun i later hi hlater => ?_⟩
  have hlength : (groups ++ [some text]).length ≤ i := by
    rw [List.length_append]
    exact hi
  rw [List.getElem?_eq_none hlength] at hlater
  cases hlater

/-- The variable of the group is one that a placeholder can name, and is no part of the exchange: the group
has no name, or its name is of this kind. -/
def Fillable (r : Regex.Matcher) (j : Nat) : Prop :=
  r.name? j = none ∨
    ∃ name, r.name? j = some name ∧ Template.isName name.toList = true ∧
      name ≠ Variables.requestName ∧ name ≠ Variables.responseName

/-- The number of a group may stand in a placeholder. -/
theorem isName_number (j : Nat) :
    Template.isName ("search." ++ String.ofList (Decimal.natText j)).toList = true := by
  have hdigits : ∀ c ∈ Decimal.natText j, Template.continuesName c = true := by
    intro c hc
    have hdigit : c.isDigit = true := Nat.isDigit_of_mem_toDigits (by omega) (by omega) hc
    simp [Template.continuesName, Char.isAlphanum, hdigit]
  have hword : ("search." : String).toList = ['s', 'e', 'a', 'r', 'c', 'h', '.'] := by decide
  rw [String.toList_append, hword, String.toList_ofList]
  simp only [List.cons_append, Template.isName, List.all_cons, List.nil_append, Bool.and_eq_true,
    List.all_eq_true]
  exact ⟨by decide, by decide, by decide, by decide, by decide, by decide, by decide, hdigits⟩

/-- The variable of such a group can be named by a placeholder, and is no part of the exchange. -/
theorem Fillable.key {r : Regex.Matcher} {j : Nat} (h : Fillable r j) :
    Template.isName (key r j).toList = true ∧
      Extraction.key r j ≠ Variables.requestName ∧ Extraction.key r j ≠ Variables.responseName := by
  rw [Extraction.key]
  rcases h with hnone | ⟨name, hname, hfillable⟩
  · rw [hnone]
    -- the name of such a group begins with another letter than those of the exchange
    have hfirst : ∀ s : String, s.toList.head? ≠ some 's' →
        "search." ++ String.ofList (Decimal.natText j) ≠ s := by
      rintro s hs rfl
      rw [String.toList_append] at hs
      exact hs rfl
    exact ⟨isName_number j, hfirst _ (by decide), hfirst _ (by decide)⟩
  · rw [hname]
    exact hfillable

/-- What is written is the text of a group. -/
theorem exists_of_mem_capturesFrom {r : Regex.Matcher} {group : Nat} {groups : List (Option String)}
    {w : String × String} (h : w ∈ capturesFrom r group groups) :
    ∃ i, groups[i]? = some (some w.2) ∧ w.1 = key r (group + i) := by
  induction groups generalizing group with
  | nil => cases h
  | cons g rest ih =>
      have hrest : w ∈ capturesFrom r (group + 1) rest →
          ∃ i, (g :: rest)[i]? = some (some w.2) ∧ w.1 = key r (group + i) := by
        intro hmem
        obtain ⟨i, hi, hkey⟩ := ih hmem
        exact ⟨i + 1, hi, by rw [hkey, Nat.add_assoc, Nat.add_comm 1]⟩
      cases g with
      | none => exact hrest h
      | some text =>
          rcases List.mem_cons.1 h with rfl | hmem
          · exact ⟨0, rfl, rfl⟩
          · exact hrest hmem

/-- The last group that is written to a variable is written after some, and before others that are not. -/
theorem capturesFrom_split {r : Regex.Matcher} {groups : List (Option String)} {j : Nat} {text : String}
    (h : groups[j]? = some (some text)) (group : Nat) :
    ∃ before, capturesFrom r group groups =
      before ++ (key r (group + j), text) :: capturesFrom r (group + j + 1) (groups.drop (j + 1)) := by
  induction groups generalizing group j with
  | nil => simp at h
  | cons g rest ih =>
      cases j with
      | zero =>
          obtain rfl : g = some text := by simpa using h
          exact ⟨[], rfl⟩
      | succ j =>
          have hnext : group + (j + 1) = group + 1 + j := by omega
          obtain ⟨before, hbefore⟩ := ih h (group + 1)
          rw [hnext, List.drop_succ_cons]
          cases g with
          | none => exact ⟨before, hbefore⟩
          | some first =>
              refine ⟨(key r group, first) :: before, ?_⟩
              rw [capturesFrom, hbefore, List.cons_append]

/-- **What is read after a match is written**: the text of the last group. -/
theorem get?_write_capturesFrom {r : Regex.Matcher} {groups : List (Option String)} {j : Nat}
    {k text : String} (h : Holds r groups j k text) (vars : Variables) :
    (vars.write (capturesFrom r 1 groups.tail)).get? k = some (.scalar (.text text)) := by
  obtain ⟨i, rfl⟩ : ∃ i, j = i + 1 := ⟨j - 1, by have := h.pos; omega⟩
  have htaken : groups.tail[i]? = some (some text) := by
    rw [List.getElem?_tail]
    exact h.taken
  obtain ⟨before, hbefore⟩ := capturesFrom_split (r := r) htaken 1
  rw [hbefore, Variables.write, List.foldl_append, List.foldl_cons, Nat.add_comm 1, h.key]
  change ((_ : Variables).write _).get? k = _
  rcases Variables.get?_write ((before.foldl _ vars).insert k (.scalar (.text text))) _ k with
    hkept | ⟨w, hw, hname, _⟩
  · rw [hkept, Variables.get?_insert, if_pos rfl]
  · -- no later group writes the variable
    obtain ⟨n, hn, hkey⟩ := exists_of_mem_capturesFrom hw
    rw [List.getElem?_drop, List.getElem?_tail] at hn
    have hlater := h.last (i + 1 + n + 1) w.2 (by omega) hn
    have hgroup : i + 1 + 1 + n = i + 1 + n + 1 := by omega
    rw [hname, hgroup] at hkey
    exact absurd hkey.symm hlater

end Extraction

/-! ### From one moment to a later one -/

/-- **The text stands in a rendered template wherever a placeholder names the variable**, as it is.  There
may be blanks in the placeholder; what is on the two sides of it is rendered by itself. -/
def Variables.Fills (vars : Variables) (k text : String) : Prop :=
  ∀ blanks blanks' : List Char, (∀ c ∈ blanks, Text.isBlank c = true) →
    (∀ c ∈ blanks', Text.isBlank c = true) → ∀ before after : String,
      let written := Template.opening ++ blanks ++ k.toList ++ blanks' ++ Template.closing
      vars.render (before ++ String.ofList written ++ after) =
        vars.render before ++ text ++ vars.render after

/-- A variable that is a text fills the placeholders that can name it. -/
theorem Variables.fills_of_text {vars : Variables} {k text : String}
    (hname : Template.isName k.toList = true) (h : vars.get? k = some (.scalar (.text text))) :
    vars.Fills k text := by
  intro blanks blanks' hblanks hblanks' before after written
  have hwritten : Template.Placeholder written k.toList := .intro hblanks hname hblanks'
  have hfill : String.ofList (vars.fill (.slot written k.toList)) = text := by
    rw [fill, String.ofList_toList, h]
    exact String.ofList_toList
  rw [vars.render_placeholder hwritten before after, hfill]

namespace Moment

variable {σ : Type} {c : Collaborators σ} {m : Moment σ}

/-- The search of the rule matches: its request is answered, and the pattern matches the body. -/
inductive Matches (c : Collaborators σ) (m : Moment σ) (r : Regex.Matcher)
    (groups : List (Option String)) : Prop
  | intro {q : Http.Request} {raw : Http.RawResponse} {pattern : String}
      (hrequest : (m.rule.template m.target m.vars).request = .ok q)
      (hanswer : (c.exchange q m.rule.followRedirects m.run.outside).1 = .ok raw)
      (hpattern : m.rule.pattern? = some pattern) (hcompile : Regex.compile pattern = .ok r)
      (hgroups : r.captures? (Text.lossy raw.body) = some groups)

/-- A match captures the texts of its groups. -/
theorem captured_of_matches {r : Regex.Matcher} {groups : List (Option String)}
    (h : m.Matches c r groups) : m.captured c = Extraction.capturesFrom r 1 groups.tail := by
  obtain ⟨hrequest, hanswer, hpattern, hcompile, hgroups⟩ := h
  rw [captured, Run.captured_of_answer hrequest (Prod.ext hanswer rfl), Rule.captured, hpattern]
  simp only [Extraction.texts, Extraction.found, Extraction.compiled, hcompile, Extraction.captures,
    hgroups]

/-- A variable that the rule does not bind is filled in as it stands before the rule. -/
theorem get?_vars {k : String} (h : k ∉ m.rule.set.map Prod.fst) :
    m.vars.get? k = m.run.scene.vars.get? k := by
  have hvars : m.vars = m.run.scene.vars.merge m.rule.set := Scene.vars_merge m.run.scene m.rule.set
  rw [hvars]
  rcases Variables.get?_merge m.run.scene.vars m.rule.set k with hkept | ⟨b, hb, rfl, _⟩
  · exact hkept
  · exact absurd (List.mem_map_of_mem hb) h

/-- The request that is sent is the one that is set up from the template of the rule. -/
theorem journal_of_request (m : Moment σ) {q : Http.Request}
    (h : (m.rule.template m.target m.vars).request = .ok q) :
    ∃ outstanding, (m.run.perform c m.target m.rule).2.journal =
      m.run.journal ++ [⟨q, m.rule.followRedirects, outstanding⟩] := by
  rw [vars] at h
  rw [Run.journal_perform, Run.exchange?, h]
  exact ⟨_, rfl⟩

end Moment

/-- After a rule whose search matches, the variable holds the text of the group. -/
theorem Variables.get?_afterRule_of_holds {r : Regex.Matcher} {groups : List (Option String)} {j : Nat}
    {k text : String} (h : Extraction.Holds r groups j k text)
    (hk : k ≠ requestName ∧ k ≠ responseName) (vars : Variables) (rule : Rule) :
    (vars.afterRule rule (Extraction.capturesFrom r 1 groups.tail)).get? k =
      some (.scalar (.text text)) := by
  rw [afterRule, get?_dropExchange, if_neg (not_or.2 hk), Extraction.get?_write_capturesFrom h]

namespace Fleet

variable {τ : Type}

/-- **A captured text reaches every later request as it is.**  In the life of any session, let the search of
a rule match, and let a variable that a placeholder can name hold the text of a group.  Then, unless the
variable was written in between, the text stands in the path, the body and the headers of every later rule
wherever a placeholder names the variable; and the request is the one that is set up from these. -/
theorem fills_of_captured
    (exchange : Http.Request → Bool → τ → Except TransportFault Http.RawResponse × τ)
    (evaluate : Environment → String → Variables → τ → Chance →
      Except EvalFault Bool × Environment × τ × Chance)
    (maxIdleSessions maxIdleModels : Nat) (transport : τ) (luck chance : Chance)
    (ops : List Operation) (who : Option String) {before between later : List (Event (Outside τ))}
    {m m' : Moment (Outside τ)} {r : Regex.Matcher} {groups : List (Option String)} {j : Nat}
    {k text : String}
    (hlife : (new (.new maxIdleSessions maxIdleModels ⟨transport, [], luck⟩ chance)).life
        (.searching exchange evaluate) who ops =
      before ++ .performed m :: (between ++ .performed m' :: later))
    (hmatches : m.Matches (.searching exchange evaluate) r groups)
    (hholds : Extraction.Holds r groups j k text) (hfillable : Extraction.Fillable r j)
    (hbetween : ∀ e ∈ between, e.Spares (.searching exchange evaluate) k)
    (hset : k ∉ m'.rule.set.map Prod.fst) :
    let c := Collaborators.searching exchange evaluate
    let template := m'.rule.template m'.target m'.vars
    m'.vars.Fills k text ∧
      template.url = joinUrl m'.target (m'.vars.render m'.rule.path) ∧
      template.body = m'.vars.render m'.rule.body ∧
      template.headers = m'.rule.headers.map (fun h => (h.1, m'.vars.render h.2)) ∧
      ∀ q, template.request = .ok q → ∃ outstanding,
        (m'.run.perform c m'.target m'.rule).2.journal =
          m'.run.journal ++ [⟨q, m'.rule.followRedirects, outstanding⟩] := by
  intro c template
  obtain ⟨hname, hk⟩ := hfillable.key
  rw [hholds.key] at hname hk
  let f : Fleet (Outside τ) := new (.new maxIdleSessions maxIdleModels ⟨transport, [], luck⟩ chance)
  have hpatterns : Extraction.Faithful f.engine.around.outside.patterns := faithful_nil Regex.compile
  have hsearches := Collaborators.searches_searching exchange evaluate
  have hthreaded := (lives_life hsearches hpatterns who ops).vars
  rw [hlife] at hthreaded
  obtain ⟨vars, _, hfrom⟩ := hthreaded.split
  cases hfrom with
  | performed hvars hafter =>
      rw [Moment.captured_of_matches hmatches] at hafter
      obtain ⟨vars', hmid, hto⟩ := hafter.split
      cases hto with
      | performed hvars' _ =>
          have hread : m'.vars.get? k = some (.scalar (.text text)) := by
            rw [Moment.get?_vars hset, hvars', hmid.get?_of_spares hk hbetween]
            exact Variables.get?_afterRule_of_holds hholds hk vars m.rule
          exact ⟨Variables.fills_of_text hname hread, rfl, rfl, rfl, fun q hq => m'.journal_of_request hq⟩

/-- A pattern that matches, and the group that takes part. -/
theorem groups_of_token :
    ∃ r, Regex.compile "t=([^;]+)" = .ok r ∧ r.name? 1 = none ∧
      r.captures? "t=\x7b\x7bx\x7d\x7d$1;" =
        some [some "t=\x7b\x7bx\x7d\x7d$1", some "\x7b\x7bx\x7d\x7d$1"] := by
  have hread : (Regex.compile "t=([^;]+)").toOption.map
      (fun r => (r.name? 1, r.captures? "t=\x7b\x7bx\x7d\x7d$1;")) =
        some (none, some [some "t=\x7b\x7bx\x7d\x7d$1", some "\x7b\x7bx\x7d\x7d$1"]) := by
    decide +kernel
  cases hcompile : Regex.compile "t=([^;]+)" with
  | error f =>
      rw [hcompile] at hread
      cases hread
  | ok r =>
      rw [hcompile] at hread
      have hboth := Option.some.inj hread
      exact ⟨r, rfl, congrArg Prod.fst hboth, congrArg Prod.snd hboth⟩

/-- A token that looks like a placeholder, captured in one check and sent in the next. -/
theorem fills_of_captured_token :
    let exchange : Http.Request → Bool → Unit → Except TransportFault Http.RawResponse × Unit :=
      fun _ _ _ => (.ok ⟨200, Http.Headers.empty, Text.octets "t=\x7b\x7bx\x7d\x7d$1;", none, 0⟩, ())
    let c := Collaborators.standard exchange
    let f : Fleet (Outside Unit) := new (.new 2 2 ⟨(), [], .constant 5⟩ (.constant 7))
    let search : Rule :=
      { Rule.get "/" with search := some "t=([^;]+)", set := [("x", .text "1")] }
    let sender : Rule := Rule.post "/" "v=\x7b\x7b search.1 \x7d\x7d"
    let ops : List Operation :=
      [.acquire "a" ⟨"probe", [], .chain [], .blank⟩, .start "a" "http://[::1]" [search],
        .start "a" "http://[::1]" [sender]]
    ∃ m m' : Moment (Outside Unit),
      f.life c (some "a") ops = [.renewed, .performed m, .performed m'] ∧
        m.rule = search ∧ m'.rule = sender ∧
        (m'.rule.template m'.target m'.vars).body = "v=\x7b\x7bx\x7d\x7d$1" := by
  intro exchange c f search sender ops
  let s : Session := Session.blank.bind "probe" ⟨[], []⟩
  let f₁ := (f.perform c (.acquire "a" ⟨"probe", [], .chain [], .blank⟩)).2
  let run := s.run ⟨[], []⟩ f₁.engine.around
  let run' := (run.chain c "http://[::1]" [search]).2
  let m : Moment (Outside Unit) := ⟨"http://[::1]", search, run⟩
  let m' : Moment (Outside Unit) :=
    ⟨"http://[::1]", sender, (s.after run').run run'.env (.ofRun run')⟩
  have hs : f₁.get? "a" = some s := rfl
  -- the search is left as it is: where the variables come from does not depend on what it finds
  obtain ⟨hs', haround⟩ := get?_start (c := c) hs "http://[::1]" [search]
  rw [Session.start_of_env c "http://[::1]" [search] rfl] at hs' haround
  have hlife : f.life c (some "a") ops = [.renewed] ++ .performed m :: ([] ++ .performed m' :: []) := by
    have hacquired : f.events c (some "a") (.acquire "a" ⟨"probe", [], .chain [], .blank⟩) = [.renewed] :=
      rfl
    have hfirst : s.startMoments c "http://[::1]" [search] f₁.engine.around = [m] :=
      Run.moments_singleton c "http://[::1]" search run
    have hlast : (s.after run').startMoments c "http://[::1]" [sender] (.ofRun run') = [m'] :=
      Run.moments_singleton c "http://[::1]" sender m'.run
    rw [life, hacquired, life, events_start hs, life, events_start hs', haround, hfirst, hlast, life]
    rfl
  obtain ⟨r, hcompile, hname, hgroups⟩ := groups_of_token
  have hlossy : Text.lossy (Text.octets "t=\x7b\x7bx\x7d\x7d$1;") = "t=\x7b\x7bx\x7d\x7d$1;" := by decide +kernel
  have hmatches : m.Matches c r [some "t=\x7b\x7bx\x7d\x7d$1", some "\x7b\x7bx\x7d\x7d$1"] :=
    .intro (Rule.request_root rfl rfl rfl rfl m.vars) rfl (by decide) hcompile (hlossy ▸ hgroups)
  have hholds : Extraction.Holds r [some "t=\x7b\x7bx\x7d\x7d$1", some "\x7b\x7bx\x7d\x7d$1"] 1
      "search.1" "\x7b\x7bx\x7d\x7d$1" := by
    have hkey : Extraction.key r 1 = "search.1" := by
      rw [Extraction.key, hname]
      decide
    rw [← hkey]
    exact Extraction.holds_of_last r (List.cons_ne_nil _ []) _
  obtain ⟨hfills, _, hbody, _⟩ := fills_of_captured exchange Environment.drawing 2 2 ()
    (.constant 5) (.constant 7) ops (some "a") hlife hmatches hholds (.inl hname)
    (fun e he => absurd he List.not_mem_nil) List.not_mem_nil
  have hblank : ∀ ch ∈ [' '], Text.isBlank ch = true := by
    intro ch hch
    rw [List.mem_singleton.1 hch]
    rfl
  refine ⟨m, m', hlife, rfl, rfl, hbody.trans ?_⟩
  exact hfills [' '] [' '] hblank hblank "v=" ""

end Fleet

end HttpProbe
