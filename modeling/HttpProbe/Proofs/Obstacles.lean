/-
**Which configurations an engine starts with.**

Validation and the building of a client judge the same values, each by rules of its own.  Validation asks for
time, for few redirects, and that the proxy is a URL.  The building of a client asks that the proxy, as it is
or after `http://`, names a host, and that the name the client goes by can stand in a header.  Neither of
these follows from validity: `mailto:x` is a URL, and of the name validation asks nothing.  They are all that
is left to ask, though.  Time and redirects never stand in the way.

Main definitions:

* `Client.NamesHost`, `Client.Serves` — a URL with a host, and a text that can serve as a proxy;
* `Client.IsAgentName` — a name that a client can go by;
* `Client.Buildable` — what the building of a client asks for;
* `Engine.Start` — **how an engine starts, or why it does not**.

Main results:

* `Config.validate_eq_ok_iff` — which configurations are valid;
* `Http.isHeaderValue_iff` — the value of a header, character by character;
* `Engine.ofConfig_of_validate` — **how the engine of a valid configuration starts**;
* `Engine.not_started_of_validate` — a valid configuration whose engine does not start.
-/

import HttpProbe.Engine
import HttpProbe.Proofs.Filling
import HttpProbe.Proofs.Octets

set_option autoImplicit false
set_option relaxedAutoImplicit false

namespace HttpProbe

/-! ### Validity -/

namespace Config

theorem proxyRefusal?_eq_none_iff {proxy : Option String} :
    proxyRefusal? proxy = none ↔ ∀ p, proxy = some p → ∃ u, Url.parse p = .ok u := by
  cases proxy with
  | none => simp [proxyRefusal?]
  | some text => cases h : Url.parse text <;> simp [proxyRefusal?, h]

/-- **Which configurations are valid.** -/
theorem validate_eq_ok_iff {c : Config} :
    c.validate = .ok () ↔
      c.http.timeoutSecs ≠ 0 ∧ c.http.maxRedirects ≤ redirectLimit ∧
        ∀ p, c.http.proxy = some p → ∃ u, Url.parse p = .ok u := by
  rw [← proxyRefusal?_eq_none_iff]
  by_cases htime : c.http.timeoutSecs = 0
  · simp [validate, refusal?, htime]
  by_cases hredirects : redirectLimit < c.http.maxRedirects
  · simp [validate, refusal?, htime, hredirects]
  · cases hproxy : proxyRefusal? c.http.proxy <;>
      simp [validate, refusal?, htime, hredirects, hproxy, Nat.le_of_not_lt hredirects]

end Config

/-! ### The name that a client goes by -/

theorem Http.isValueOctet_ofNat_iff :
    ∀ n < 256, isValueOctet (UInt8.ofNat n) = true ↔ (n < 0x20 ∨ n = 0x7F → n = 9) := by
  decide +kernel

/-- **The value of a header**: its only control, if any, is the tab. -/
theorem Http.isHeaderValue_iff (s : String) :
    IsHeaderValue s ↔ ∀ c ∈ s.toList, c.toNat < 0x20 ∨ c.toNat = 0x7F → c = '\t' := by
  have hbeyond : ∀ b : UInt8, 0x80 ≤ b.toNat → isValueOctet b = true := by
    intro b hb
    rw [← UInt8.ofNat_toNat (x := b), isValueOctet_ofNat_iff _ b.toNat_lt]
    intro hcontrol
    omega
  have htab : ∀ c : Char, c = '\t' ↔ c.toNat = 9 := fun c =>
    ⟨fun h => h ▸ rfl, fun h => Char.toNat_inj.1 h⟩
  rw [IsHeaderValue, Text.forall_mem_octets_iff hbeyond]
  refine forall₂_congr fun c _ => ?_
  rw [htab]
  by_cases hc : c.toNat < 0x80
  · rw [← isValueOctet_ofNat_iff _ (Nat.lt_trans hc (by decide))]
    exact ⟨fun h => h hc, fun h _ => h⟩
  · constructor
    · intro _ hcontrol
      omega
    · exact fun _ h => absurd h hc

namespace Client

/-- A name that a client can go by: its only control, if any, is the tab. -/
def IsAgentName (s : String) : Prop := ∀ c ∈ s.toList, c.toNat < 0x20 ∨ c.toNat = 0x7F → c = '\t'

theorem headerValue?_isSome_iff (s : String) : (Http.headerValue? s).isSome = true ↔ IsAgentName s := by
  rw [IsAgentName, ← Http.isHeaderValue_iff]
  by_cases h : Http.IsHeaderValue s
  · simp [Http.headerValue?_of_is h, h]
  · simp [Http.headerValue?_of_not h, h]

/-! ### The proxy -/

/-- The text is a URL with a host that is not the empty name. -/
def NamesHost (text : String) : Prop :=
  ∃ u host, Url.parse text = .ok u ∧ u.host = some host ∧ host ≠ .name ""

/-- A text that can serve as a proxy: it names a host, or does so after `http://`. -/
def Serves (text : String) : Prop := NamesHost text ∨ NamesHost ("http://" ++ text)

theorem hostText?_isSome_iff (u : Url) :
    u.hostText?.isSome = true ↔ ∃ host, u.host = some host ∧ host ≠ .name "" := by
  rw [Url.hostText?]
  split <;> simp_all

theorem namesHost_iff (text : String) : namesHost text = true ↔ NamesHost text := by
  rw [namesHost, NamesHost]
  cases Url.parse text with
  | ok u => simp [hostText?_isSome_iff]
  | error f => simp

/-- A URL lacks a scheme exactly if it does not name a host. -/
theorem isProxy_iff_of_parse {text : String} {u : Url} (h : Url.parse text = .ok u) :
    isProxy text = true ↔ Serves text := by
  have hlacks : lacksScheme text = !namesHost text := by
    simp [lacksScheme, namesHost, h]
  rw [Serves, ← namesHost_iff, ← namesHost_iff, isProxy, hlacks]
  cases namesHost text <;> simp

/-! ### Building -/

/-- What the building of a client asks for. -/
structure Buildable (c : Config.Exchange) : Prop where
  proxy : ∀ p, c.proxy = some p → Serves p
  agent : IsAgentName c.userAgent

end Client

namespace Engine

variable {σ : Type}

open Client

/-- **How an engine starts, or why it does not**: the proxy is looked at first. -/
inductive Start (c : Config) (outside : σ) (chance : Chance) : Except Fault (Engine σ) → Prop
  | started (h : Buildable c.http) :
      Start c outside chance (.ok (new c.pool.maxIdleSessions c.pool.maxIdleModels outside chance))
  | proxy {p : String} (h : c.http.proxy = some p) (hserves : ¬ Serves p) :
      Start c outside chance (.error (.config ("Invalid proxy '" ++ p ++ "': builder error")))
  | agent (hproxy : ∀ p, c.http.proxy = some p → Serves p) (h : ¬ IsAgentName c.http.userAgent) :
      Start c outside chance (.error (.config "Failed to build HTTP client: builder error"))

theorem ofConfig_of_obstacle {c : Config} {o : Obstacle} (h : obstacle? c.http = some o) (outside : σ)
    (chance : Chance) : ofConfig c outside chance = .error (.config o.message) := by
  simp [ofConfig, check, h]

theorem ofConfig_of_no_obstacle {c : Config} (h : obstacle? c.http = none) (outside : σ)
    (chance : Chance) : ofConfig c outside chance =
      .ok (new c.pool.maxIdleSessions c.pool.maxIdleModels outside chance) := by
  simp [ofConfig, check, h]

/-- Once the proxy serves, the name decides. -/
theorem start_of_proxy {c : Config} (hfilter : c.http.proxy.filter (fun p => !isProxy p) = none)
    (hproxy : ∀ p, c.http.proxy = some p → Serves p) (outside : σ) (chance : Chance) :
    Start c outside chance (ofConfig c outside chance) := by
  by_cases hagent : IsAgentName c.http.userAgent
  · have hnone : obstacle? c.http = none := by
      rw [obstacle?, hfilter]
      exact if_pos ((headerValue?_isSome_iff _).2 hagent)
    rw [ofConfig_of_no_obstacle hnone]
    exact .started ⟨hproxy, hagent⟩
  · have hsome : obstacle? c.http = some .userAgent := by
      rw [obstacle?, hfilter]
      exact if_neg fun h => hagent ((headerValue?_isSome_iff _).1 h)
    rw [ofConfig_of_obstacle hsome]
    exact .agent hproxy hagent

theorem start_of_validate {c : Config} (h : c.validate = .ok ()) (outside : σ) (chance : Chance) :
    Start c outside chance (ofConfig c outside chance) := by
  obtain ⟨-, -, hurl⟩ := Config.validate_eq_ok_iff.1 h
  cases hproxy : c.http.proxy with
  | none =>
      refine start_of_proxy ?_ ?_ outside chance
      · rw [hproxy, Option.filter_none]
      · intro p hp
        rw [hproxy] at hp
        cases hp
  | some p =>
      obtain ⟨u, hu⟩ := hurl p hproxy
      by_cases hserves : Serves p
      · refine start_of_proxy ?_ ?_ outside chance
        · simp [hproxy, (isProxy_iff_of_parse hu).2 hserves]
        · intro q hq
          rw [hproxy] at hq
          cases hq
          exact hserves
      · have hno : isProxy p = false :=
          Bool.eq_false_iff.2 fun hp => hserves ((isProxy_iff_of_parse hu).1 hp)
        have hsome : obstacle? c.http = some (.proxy p) := by
          simp [obstacle?, hproxy, Option.filter, hno]
        rw [ofConfig_of_obstacle hsome]
        exact .proxy hproxy hserves

theorem Start.ok_iff {c : Config} {outside : σ} {chance : Chance} {r : Except Fault (Engine σ)}
    (h : Start c outside chance r) : (∃ e, r = .ok e) ↔ Buildable c.http := by
  cases h with
  | started hbuildable => exact ⟨fun _ => hbuildable, fun _ => ⟨_, rfl⟩⟩
  | proxy hproxy hserves =>
      refine ⟨fun ⟨_, he⟩ => ?_, fun hbuildable => absurd (hbuildable.proxy _ hproxy) hserves⟩
      cases he
  | agent _ hagent =>
      refine ⟨fun ⟨_, he⟩ => ?_, fun hbuildable => absurd hbuildable.agent hagent⟩
      cases he

/-- **How the engine of a valid configuration starts.**  Time and redirects do not stand in its way; the
proxy and the name that the client goes by may. -/
theorem ofConfig_of_validate {c : Config} (h : c.validate = .ok ()) (outside : σ) (chance : Chance) :
    Start c outside chance (ofConfig c outside chance) ∧
      ((∃ e, ofConfig c outside chance = .ok e) ↔ Buildable c.http) :=
  ⟨start_of_validate h outside chance, (start_of_validate h outside chance).ok_iff⟩

/-- A proxy without a scheme, which is read as a URL whose scheme is the name of the host. -/
def bareProxy : Config :=
  { Config.default with http := { Config.Exchange.default with proxy := some "localhost:8080" } }

theorem ofConfig_of_bare_proxy :
    bareProxy.validate = .ok () ∧
      Start bareProxy () (.constant 0) (ofConfig bareProxy () (.constant 0)) ∧
      ((∃ e, ofConfig bareProxy () (.constant 0) = .ok e) ↔ Buildable bareProxy.http) :=
  ⟨rfl, ofConfig_of_validate rfl () (.constant 0)⟩

/-- A name with the end of a line in it. -/
def brokenName : Config :=
  { Config.default with http := { Config.Exchange.default with userAgent := "x\ny" } }

/-- A valid configuration whose engine does not start. -/
theorem not_started_of_validate :
    brokenName.validate = .ok () ∧
      ofConfig brokenName () (.constant 0) = .error (.config "Failed to build HTTP client: builder error") :=
  ⟨rfl, rfl⟩

end Engine

end HttpProbe
