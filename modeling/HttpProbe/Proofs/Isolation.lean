/-
**Sessions do not disturb one another.**

All sessions of an engine take their models from the same pools, go back to the same pool, and search
with the same patterns.  If the transport answers a request the same whoever sends it, the holder of a
session sees nothing of the others: whatever is done with other sessions in between, the answers, the
session after each operation, and the requests that are sent are those of an engine where nothing else
is done.  Only what is left to chance may differ, since other sessions draw as well: so what the session is
judged by must be settled.

Main definitions:

* `Fleet.Glimpse`, `Fleet.glimpses` — what the holder of a session sees of the operations on it;
* `Collaborators.answering` — the standard collaborators around a transport without a state;
* `Likeness.apart` — **systems that were used differently so far**;
* `Fleet.Apart` — fleets with the same session in a slot, otherwise used differently.

Main results:

* `Fleet.outlasting_lookup` — an operation on the session leaves it the same in both;
* `Fleet.Apart.aside` — an operation on another session is not seen at all;
* `Fleet.glimpses_eq_alone` — **the holder of a session sees what he would see alone**;
* `Fleet.glimpses_ne_of_chance` — what is not settled depends on what others draw.
-/

import HttpProbe.Proofs.Entries
import HttpProbe.Proofs.Fleets
import HttpProbe.Proofs.Keeping

set_option autoImplicit false
set_option relaxedAutoImplicit false

namespace HttpProbe

/-! ### What the holder of a session sees -/

/-- What a call asks of the transport. -/
def Call.asked (call : Call) : Http.Request × Bool := (call.request, call.follow)

namespace Fleet

variable {σ : Type}

/-- What the holder of a session sees of an operation: the answer, the session after it, and what was
asked of the transport meanwhile. -/
structure Glimpse where
  report : Report
  session : Option Session
  asked : List (Http.Request × Bool)

/-- What was asked of the transport since an earlier moment. -/
def askedSince (before after : Fleet σ) : List (Http.Request × Bool) :=
  (after.engine.around.journal.drop before.engine.around.journal.length).map Call.asked

/-- What the holder of the session in a slot sees of operations in a row. -/
def glimpses (c : Collaborators σ) (slot : String) : List Operation → Fleet σ → List Glimpse
  | [], _ => []
  | op :: rest, f =>
    let (report, after) := f.perform c op
    if op.slot? = some slot then
      ⟨report, after.get? slot, f.askedSince after⟩ :: glimpses c slot rest after
    else glimpses c slot rest after

end Fleet

/-- The standard collaborators around a transport that answers a request the same whoever sends it. -/
def Collaborators.answering
    (answer : Http.Request → Bool → Except TransportFault Http.RawResponse) :
    Collaborators (Outside Unit) :=
  standard fun request follow _ => (answer request follow, ())

/-! ### Pools that were used differently -/

/-- Pools in which whatever waits is blank. -/
def Pool.BothClean {α : Type} [Recyclable α] [Renewable α] (p q : Pool α) : Prop :=
  p.Clean ∧ q.Clean

/-- Such pools lend the same: a blank object. -/
theorem Pool.lasting_bothClean {α : Type} [Recyclable α] [Renewable α] :
    Lasting (BothClean : Pool α → Pool α → Prop) where
  acquire := by
    rintro p q ⟨hp, hq⟩
    have hlent := acquire_of_clean hp
    have hlent' := acquire_of_clean hq
    change Alike _ (p.acquire.1, _) (q.acquire.1, _)
    rw [hlent.1, hlent'.1]
    exact ⟨⟨hlent.2, hlent'.2⟩⟩
  release := by
    rintro p q ⟨hp, hq⟩ a b
    exact ⟨hp.release a, hq.release b⟩

/-- Pools of models in which whatever waits is blank. -/
structure Models.BothClean (m n : Models) : Prop where
  requests : m.requests.BothClean n.requests
  responses : m.responses.BothClean n.responses

theorem Models.lasting_bothClean : Lasting BothClean :=
  lasting_of_pools Pool.lasting_bothClean Pool.lasting_bothClean fun _ _ =>
    ⟨fun h => ⟨h.requests, h.responses⟩, fun h => ⟨h.1, h.2⟩⟩

/-- Journals in which the same was asked after given moments. -/
def Call.AskedAlike (before before' journal journal' : List Call) : Prop :=
  ∃ calls calls', journal = before ++ calls ∧ journal' = before' ++ calls' ∧
    calls.map Call.asked = calls'.map Call.asked

/-- States of collaborators in which the patterns that are kept are right, and whose chance is the same if it
is shared. -/
structure Outside.BothFaithful (shared : Prop) (o o' : Outside Unit) : Prop where
  left : Extraction.Faithful o.patterns
  right : Extraction.Faithful o'.patterns
  chance : shared → o.chance = o'.chance

namespace Likeness

/-- **Systems that were used differently so far.**  Whatever waits in their pools is blank, and the
patterns they keep are right; since given moments they asked the same of the transport. -/
def apart (shared : Prop) (before before' : List Call) : Likeness (Outside Unit) (Outside Unit) where
  shared := shared
  models := Models.BothClean
  env := (· = ·)
  outside := Outside.BothFaithful shared
  journal := Call.AskedAlike before before'

/-- **Performing rules comes to the same in systems that were used differently.** -/
theorem kept_apart (shared : Prop) (before before' : List Call)
    (answer : Http.Request → Bool → Except TransportFault Http.RawResponse) :
    (apart shared before before').Kept (.answering answer) (.answering answer) where
  models := Models.lasting_bothClean
  note := by
    rintro m n j k _ ⟨calls, calls', rfl, rfl, hasked⟩ request follow
    refine ⟨calls ++ [⟨request, follow, m.outstanding⟩],
      calls' ++ [⟨request, follow, n.outstanding⟩], ?_, ?_, ?_⟩
    · rw [List.append_assoc]
    · rw [List.append_assoc]
    · rw [List.map_append, List.map_append, hasked]
      rfl
  exchange := by
    rintro o o' h request follow
    exact ⟨h.left, h.right, h.chance⟩
  extract := by
    rintro s t o o' hscenes ho pattern text
    obtain ⟨kept, hkept, heq⟩ := Extraction.extract_of_faithful ho.left pattern text s
    obtain ⟨kept', hkept', heq'⟩ := Extraction.extract_of_faithful ho.right pattern text t
    change Alike _ (Collaborators.search pattern text s o) (Collaborators.search pattern text t o')
    rw [Collaborators.search, Collaborators.search, heq, heq']
    exact ⟨⟨Models.lasting_bothClean.write hscenes _, hkept, hkept', ho.chance⟩⟩
  evaluate := by
    rintro env _ o o' rfl ho expression vars hsettled
    obtain ⟨hverdict, henv⟩ := Environment.evaluate_of_settled
      (hsettled.imp_left fun hs => congrArg Chance.left (ho.chance hs))
    exact ⟨hverdict, henv, ho.left, ho.right, fun hs => congrArg Chance.right (ho.chance hs)⟩

end Likeness

/-! ### Slots -/

namespace Fleet

section Slots

variable {σ : Type} {slot other : String}

theorem get?_vacate (f : Fleet σ) (slot other : String) :
    (f.vacate other).get? slot = if slot = other then none else f.get? slot := by
  rw [vacate]
  cases hother : f.get? other with
  | some s => exact Variables.lookup_filter_ne other slot f.held
  | none =>
      by_cases heq : slot = other
      · rw [if_pos heq, heq]
        exact hother
      · rw [if_neg heq]

/-- The session in a slot that was taken. -/
theorem get?_occupy (f : Fleet σ) (slot other : String) (s : Session) :
    (f.occupy other s).get? slot = if slot = other then some s else f.get? slot := by
  have hvacant : (f.vacate other).held.lookup slot = _ := get?_vacate f slot other
  change ((f.vacate other).held ++ [(other, s)]).lookup slot = _
  rw [List.lookup_append, hvacant, Variables.lookup_cons_eq, List.lookup_nil]
  by_cases heq : slot = other
  · rw [if_pos heq, if_pos heq, if_pos heq, Option.none_or]
  · rw [if_neg heq, if_neg heq, if_neg heq, Option.or_none]

theorem get?_replace (f : Fleet σ) (slot other : String) (s : Session) :
    (f.replace other s).get? slot =
      if slot = other then (f.get? slot).map fun _ => s else f.get? slot :=
  Slots.lookup_replace f.held other slot s

theorem get?_onSlot (f : Fleet σ) {slot other : String} (hne : slot ≠ other)
    (change : Session → Surroundings σ → Report × Session × Surroundings σ) :
    (f.onSlot other change).2.get? slot = f.get? slot := by
  rw [onSlot]
  cases f.get? other with
  | none => rfl
  | some s => exact (get?_replace _ slot other _).trans (if_neg hne)

/-- An operation on another session, or on none that is held, leaves the session in a slot as it is. -/
theorem get?_perform (c : Collaborators σ) (f : Fleet σ) {slot : String} {op : Operation}
    (hop : op.slot? ≠ some slot) : (f.perform c op).2.get? slot = f.get? slot := by
  have hne : ∀ other, op.slot? = some other → slot ≠ other := by
    rintro other hother rfl
    exact hop hother
  cases op with
  | acquire other d =>
      rw [perform]
      rcases f.engine.acquire d with ⟨_ | s, e⟩
      · rfl
      · exact (get?_occupy ⟨e, f.held⟩ slot other s).trans (if_neg (hne other rfl))
  | lend other name o => exact get?_onSlot f (hne other rfl) _
  | bring other name o => exact get?_onSlot f (hne other rfl) _
  | start other target rules => exact get?_onSlot f (hne other rfl) _
  | startByGroups other target groups => exact get?_onSlot f (hne other rfl) _
  | verify other target d => exact get?_onSlot f (hne other rfl) _
  | verifyOnce target d => rfl
  | reset other => exact get?_onSlot f (hne other rfl) _
  | release other => exact (get?_vacate f slot other).trans (if_neg (hne other rfl))

end Slots

/-! ### Operations -/

/-- The same session in one slot stays the same whatever is done with it. -/
theorem outlasting_lookup (slot : String) :
    Outlasting (fun l l' => l.lookup slot = l'.lookup slot) slot where
  same := id
  vacate := by
    intro l l' h
    rw [Variables.lookup_filter_ne, Variables.lookup_filter_ne, if_pos rfl, if_pos rfl]
  occupy := by
    intro l l' h s
    rw [List.lookup_append, List.lookup_append, h]
  replace := by
    intro l l' h s
    rw [Slots.lookup_replace, Slots.lookup_replace, h]

/-- **Fleets with the same session in a slot**, that were used differently otherwise.  Since given
moments they asked the same of the transport. -/
abbrev Apart (shared : Prop) (slot : String) (before before' : List Call) :
    Fleet (Outside Unit) → Fleet (Outside Unit) → Prop :=
  (Likeness.apart shared before before').Fleets Pool.BothClean fun l l' =>
    l.lookup slot = l'.lookup slot

namespace Apart

variable {shared : Prop} {slot : String} {before before' : List Call} {f f' : Fleet (Outside Unit)}

theorem new (slot : String) (maxIdleSessions maxIdleModels maxIdleSessions' maxIdleModels' : Nat)
    {luck luck' : Chance} (hluck : shared → luck = luck') (seed seed' : Chance) :
    Apart shared slot [] [] (new (.new maxIdleSessions maxIdleModels ⟨(), [], luck⟩ seed))
      (new (.new maxIdleSessions' maxIdleModels' ⟨(), [], luck'⟩ seed')) := by
  have hpatterns := faithful_nil Regex.compile
  refine ⟨⟨⟨Pool.clean_new _, Pool.clean_new _⟩, ?_, ⟨hpatterns, hpatterns, hluck⟩, ?_⟩, rfl⟩
  · exact ⟨⟨Pool.clean_new _, Pool.clean_new _⟩, ⟨Pool.clean_new _, Pool.clean_new _⟩⟩
  · exact ⟨[], [], rfl, rfl, rfl⟩

/-- At any moment nothing was asked since that moment. -/
theorem rebase (h : Apart shared slot before before' f f') :
    Apart shared slot f.engine.around.journal f'.engine.around.journal f f' := by
  have haround := h.engine.around
  refine ⟨⟨h.engine.sessions, haround.models, haround.outside, [], [], ?_, ?_, rfl⟩, h.held⟩
  · exact (List.append_nil _).symm
  · exact (List.append_nil _).symm

/-- The same was asked since the same moment. -/
theorem askedSince {g g' : Fleet (Outside Unit)}
    (h : Apart shared slot f.engine.around.journal f'.engine.around.journal g g') :
    f.askedSince g = f'.askedSince g' := by
  obtain ⟨calls, calls', hcalls, hcalls', hasked⟩ := h.engine.around.journal
  rw [Fleet.askedSince, Fleet.askedSince, hcalls, hcalls', List.drop_left, List.drop_left]
  exact hasked

/-- What is on one side is twice on that side alone, and there chance is shared. -/
theorem right (h : Apart shared slot before before' f f') (other : String) :
    Apart True other before' before' f' f' := by
  obtain ⟨⟨hsessions, hmodels, hpatterns, _, calls, _, hcalls, _⟩, _⟩ := h
  refine ⟨⟨⟨hsessions.2, hsessions.2⟩, ?_, ⟨hpatterns.right, hpatterns.right, fun _ => rfl⟩, ?_⟩, rfl⟩
  · exact ⟨⟨hmodels.requests.2, hmodels.requests.2⟩, ⟨hmodels.responses.2, hmodels.responses.2⟩⟩
  · exact ⟨calls, calls, hcalls, hcalls, rfl⟩

section Collaborators

variable (answer : Http.Request → Bool → Except TransportFault Http.RawResponse)

/-- **An operation on the session is seen the same**, as is a check with a session of its own.  If it binds a
session to a schema that draws, the engines must draw alike; and either chance is shared, or what the session
is judged by is settled. -/
theorem perform (h : Apart shared slot before before' f f') {op : Operation}
    (hop : ∀ other, op.slot? = some other → other = slot)
    (hdraws : op.draws = false ∨ f.engine.chance = f'.engine.chance)
    (hsettled : shared ∨
      ∀ m, .performed m ∈ f.eventsOf (.answering answer) op → m.Settled (.answering answer)) :
    Alike (Apart shared slot before before') (f.perform (.answering answer) op)
      (f'.perform (.answering answer) op) := by
  have hL := Likeness.kept_apart shared before before' answer
  refine Likeness.Fleets.perform h .rfl hL Pool.lasting_bothClean ?_ hdraws hsettled
  intro other hother
  obtain rfl := hop other hother
  exact outlasting_lookup other

/-- Any operation leaves a fleet as fit to be compared as it was: seen from the slot that the operation
is about, the fleet is like itself. -/
theorem self (h : Apart shared slot before before' f f') (op : Operation) :
    ∃ other, Apart True other before' before' (f'.perform (.answering answer) op).2
      (f'.perform (.answering answer) op).2 := by
  have hop : ∀ other, op.slot? = some other → other = op.slot?.getD slot := by
    intro other hother
    rw [hother, Option.getD_some]
  have hself := (h.right (op.slot?.getD slot)).perform answer hop (.inr rfl) (.inl trivial)
  exact ⟨_, hself.rest⟩

/-- So do operations in a row. -/
theorem performAll (h : Apart shared slot before before' f f') (ops : List Operation) :
    ∃ other, Apart True other before' before' (f'.performAll (.answering answer) ops).2
      (f'.performAll (.answering answer) ops).2 := by
  induction ops generalizing shared slot before f f' with
  | nil => exact ⟨slot, h.right slot⟩
  | cons op rest ih =>
      obtain ⟨other, hself⟩ := h.self answer op
      exact ih hself

/-- **An operation on another session is not seen at all**, but for the chance that is left. -/
theorem aside (h : Apart shared slot before before' f f') {op : Operation}
    (hop : op.slot? ≠ some slot) :
    let after := (f'.perform (.answering answer) op).2
    Apart False slot f.engine.around.journal after.engine.around.journal f after := by
  intro after
  have hsame : f.held.lookup slot = after.held.lookup slot :=
    h.held.trans (get?_perform _ f' hop).symm
  obtain ⟨other, hself⟩ := h.self answer op
  have haround := hself.engine.around
  have haround' := h.engine.around
  refine ⟨⟨⟨h.engine.sessions.1, hself.engine.sessions.2⟩, ?_, ?_, ?_⟩, hsame⟩
  · exact ⟨⟨haround'.models.requests.1, haround.models.requests.2⟩,
      ⟨haround'.models.responses.1, haround.models.responses.2⟩⟩
  · exact ⟨haround'.outside.left, haround.outside.right, False.elim⟩
  · exact ⟨[], [], (List.append_nil _).symm, (List.append_nil _).symm, rfl⟩

/-- Operations on the session alone are seen as they are among others. -/
theorem glimpses (h : Apart False slot before before' f f') {ops : List Operation}
    (hops : ∀ op ∈ ops, op.slot? = some slot → op.draws = false)
    (hsettled : f.Settled (.answering answer) (some slot)
      (ops.filter fun op => op.slot? = some slot)) :
    f.glimpses (.answering answer) slot (ops.filter fun op => op.slot? = some slot) =
      f'.glimpses (.answering answer) slot ops := by
  induction ops generalizing before before' f f' with
  | nil => rfl
  | cons op rest ih =>
      have hrest : ∀ op ∈ rest, op.slot? = some slot → op.draws = false :=
        fun o ho => hops o (List.mem_cons_of_mem op ho)
      by_cases hop : op.slot? = some slot
      · rw [List.filter_cons_of_pos (by simpa using hop)] at hsettled ⊢
        have hdraws := hops op List.mem_cons_self hop
        have hfirst := Settled.first (hop.symm ▸ hsettled)
        have hlater := hsettled.rest
        have hseen := h.rebase.perform answer (by simp [hop]) (.inl hdraws) (.inr hfirst)
        rw [Fleet.glimpses, Fleet.glimpses]
        generalize f.perform (.answering answer) op = x,
          f'.perform (.answering answer) op = y at hseen hlater ⊢
        cases hseen with
        | @intro report g g' hg =>
            simp only [if_pos hop]
            have hsame : g.get? slot = g'.get? slot := hg.held
            rw [hsame, hg.askedSince, ih hg hrest hlater]
      · rw [List.filter_cons_of_neg (by simpa using hop)] at hsettled ⊢
        rw [Fleet.glimpses]
        simp only [if_neg hop]
        exact ih (h.aside answer hop) hrest hsettled

end Collaborators

end Apart

/-! ### Histories -/

/-- **The holder of a session sees what he would see alone.**  Take any operations on the sessions of an
engine whose transport answers a request the same whoever sends it.  What the holder of the session in
one slot sees of them is what he sees of his own operations on an engine where nothing else is done:
the same answers, the same session after each operation, and the same requests.  Only the schemas that
his session is bound to must not draw, and all that it is judged by, when nothing else is done, must be
settled. -/
theorem glimpses_eq_alone
    (answer : Http.Request → Bool → Except TransportFault Http.RawResponse) (slot : String)
    (maxIdleSessions maxIdleModels maxIdleSessions' maxIdleModels' : Nat)
    (luck luck' seed seed' : Chance) {ops : List Operation}
    (hops : ∀ op ∈ ops, op.slot? = some slot → op.draws = false) :
    let c := Collaborators.answering answer
    let among := new (.new maxIdleSessions maxIdleModels ⟨(), [], luck⟩ seed)
    let alone := new (.new maxIdleSessions' maxIdleModels' ⟨(), [], luck'⟩ seed')
    let own := ops.filter fun op => op.slot? = some slot
    alone.Settled c (some slot) own → among.glimpses c slot ops = alone.glimpses c slot own := by
  intro c among alone own hsettled
  have hnew := Apart.new slot maxIdleSessions' maxIdleModels' maxIdleSessions maxIdleModels
    (False.elim : False → luck' = luck) seed' seed
  exact (hnew.glimpses answer hops hsettled).symm

/-- A session that is held while another one, which draws, is lent, searches and goes back. -/
theorem glimpses_of_two_sessions :
    let answer : Http.Request → Bool → Except TransportFault Http.RawResponse :=
      fun request _ => .ok ⟨200, Http.Headers.empty, request.body, none, 3⟩
    let c := Collaborators.answering answer
    let search : Rule := { Rule.post "/" "id=7" with search := some "id=(?P<id>[0-9]+)" }
    let judged : Rule := { Rule.get "/" with expression := "port == 80" }
    let mine : Definition := ⟨"mine", [("port", "80")], .chain [judged], .blank⟩
    let other : Definition := ⟨"other", [("id", "randomInt(0, 9)")], .chain [search], .blank⟩
    let ops : List Operation :=
      [.acquire "b" other, .start "b" "http://[::1]" [search], .acquire "a" mine, .release "b",
        .verifyOnce "http://[::1]" other, .start "a" "http://[::1]" [judged], .reset "a"]
    let among := new (.new 2 2 ⟨(), [], .constant 3⟩ (.constant 7))
    let alone := new (.new 0 0 ⟨(), [], .constant 4⟩ (.constant 8))
    let own := ops.filter fun op => op.slot? = some "a"
    (∀ op ∈ ops, op.slot? = some "a" → op.draws = false) ∧ alone.Settled c (some "a") own ∧
      among.glimpses c "a" ops = alone.glimpses c "a" own := by
  intro answer c search judged mine other ops among alone own
  have hops : ∀ op ∈ ops, op.slot? = some "a" → op.draws = false := by decide +kernel
  have hsettled : alone.Settled c (some "a") own :=
    settled_of_plain (by decide +kernel)
  exact ⟨hops, hsettled, glimpses_eq_alone answer "a" 2 2 0 0 (.constant 3) (.constant 4)
    (.constant 7) (.constant 8) hops hsettled⟩

/-- **Chance is shared with others**: a rule whose expression draws, or reads a name that a variable and the
exchange contest, holds when nothing else is done, and does not after another session was judged by it. -/
theorem glimpses_ne_of_chance :
    let answer : Http.Request → Bool → Except TransportFault Http.RawResponse :=
      fun _ _ => .ok ⟨200, Http.Headers.empty, [], none, 0⟩
    let c := Collaborators.answering answer
    let probe : Definition := ⟨"probe", [], .groups [], .blank⟩
    let drawing : Rule :=
      { Rule.get "/" with expression := "randomInt(0, 9223372036854775807) == 5" }
    let contested : Rule :=
      { Rule.get "/" with
        set := [("request.method", .text "POST")], expression := "request.method == \"GET\"" }
    let ops := fun rule : Rule =>
      [Operation.acquire "b" probe, .start "b" "http://[::1]" [rule], .acquire "a" probe,
        .start "a" "http://[::1]" [rule]]
    let own := fun rule => (ops rule).filter fun op => op.slot? = some "a"
    let f := new (.new 4 4 ⟨(), [], .join 0 (.constant 5) (.constant 0)⟩ (.constant 0))
    ∀ rule ∈ [drawing, contested], (∀ op ∈ ops rule, op.draws = false) ∧
      (f.glimpses c "a" (ops rule)).map Glimpse.report = [.done, .verdict false] ∧
      (f.glimpses c "a" (own rule)).map Glimpse.report = [.done, .verdict true] ∧
      f.glimpses c "a" (ops rule) ≠ f.glimpses c "a" (own rule) := by
  intro answer c probe drawing contested ops own f rule hrule
  have hops : ∀ op ∈ ops rule, op.draws = false := by
    revert rule
    decide +kernel
  have hamong : (f.glimpses c "a" (ops rule)).map Glimpse.report = [.done, .verdict false] := by
    revert rule
    decide +kernel
  have halone : (f.glimpses c "a" (own rule)).map Glimpse.report = [.done, .verdict true] := by
    revert rule
    decide +kernel
  refine ⟨hops, hamong, halone, fun heq => ?_⟩
  rw [heq, halone] at hamong
  simp at hamong

end Fleet

end HttpProbe
