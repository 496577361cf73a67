/-
**Configuration.**

Main definitions:

* `Config` — how exchanges are made, and how many objects wait in the pools;
* `Config.default` — what holds where nothing is said;
* `Config.fault?`, `Config.validate` — the values that are refused.
-/

import HttpProbe.Decimal.Layout
import HttpProbe.Fault
import HttpProbe.Url.Reading

set_option autoImplicit false
set_option relaxedAutoImplicit false

namespace HttpProbe

/-- How exchanges are made. -/
structure Config.Exchange where
  timeoutSecs : Nat
  userAgent : String
  maxRedirects : Nat
  acceptInvalidCerts : Bool
  proxy : Option String
  deriving DecidableEq, Repr

/-- How many objects may wait in the pools. -/
structure Config.Pools where
  maxIdleSessions : Nat
  maxIdleModels : Nat
  deriving DecidableEq, Repr

/-- How exchanges are made, and how many objects may wait in the pools. -/
structure Config where
  http : Config.Exchange
  pool : Config.Pools
  deriving DecidableEq, Repr

namespace Config

/-- Ten seconds for an exchange, five redirects, any certificate, no proxy. -/
def Exchange.default : Exchange := ⟨10, "poc-verify/0.1.0", 5, true, none⟩

/-- Sixty-four sessions, and two hundred and fifty-six models of each kind. -/
def Pools.default : Pools := ⟨64, 256⟩

/-- What holds where nothing is said. -/
def default : Config := ⟨.default, .default⟩

/-! ### Validation -/

/-- The most redirects that may be allowed. -/
def redirectLimit : Nat := 20

/-- What is wrong with a configuration. -/
inductive Refusal where
  | noTime
  | redirects (n : Nat)
  | proxy (text : String) (f : Url.Fault)
  deriving DecidableEq, Repr

/-- The wording of what is wrong. -/
def Refusal.message : Refusal → String
  | .noTime => "http.timeout_secs must be greater than 0"
  | .redirects n =>
    "http.max_redirects must be at most " ++ String.ofList (Decimal.natText redirectLimit) ++
      ", got " ++ String.ofList (Decimal.natText n)
  | .proxy text f => "Invalid proxy '" ++ text ++ "': " ++ f.message

/-- What is wrong with the proxy: a proxy is given by a URL. -/
def proxyRefusal? : Option String → Option Refusal
  | none => none
  | some text =>
    match Url.parse text with
    | .ok _ => none
    | .error f => some (.proxy text f)

/-- What is wrong with a configuration, if something is: the time limit is looked at first, then the
redirects, then the proxy. -/
def refusal? (c : Config) : Option Refusal :=
  if c.http.timeoutSecs = 0 then some .noTime
  else if redirectLimit < c.http.maxRedirects then some (.redirects c.http.maxRedirects)
  else proxyRefusal? c.http.proxy

/-- A configuration must leave time for an exchange, limit redirects, and give the proxy, if any, by
a URL. -/
def validate (c : Config) : Except Fault Unit :=
  match c.refusal? with
  | some r => .error (.config r.message)
  | none => .ok ()

end Config

end HttpProbe
