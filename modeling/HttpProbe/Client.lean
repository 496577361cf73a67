/-
**The client that performs exchanges.**

A client cannot be built for every configuration, and some requests are refused before anything is
sent.

Main definitions:

* `Client.Obstacle`, `Client.obstacle?`, `Client.check` — why no client can be built;
* `Client.refusal?` — why a request is not sent.
-/

import HttpProbe.Config
import HttpProbe.Http.Request

set_option autoImplicit false
set_option relaxedAutoImplicit false

namespace HttpProbe.Client

/-! ### Building -/

/-- Why no client can be built. -/
inductive Obstacle where
  | proxy (text : String)
  | userAgent
  deriving DecidableEq, Repr

/-- The wording of an obstacle. -/
def Obstacle.message : Obstacle → String
  | .proxy text => "Invalid proxy '" ++ text ++ "': builder error"
  | .userAgent => "Failed to build HTTP client: builder error"

/-- Is the text a URL with a host? -/
def namesHost (text : String) : Bool :=
  match Url.parse text with
  | .ok u => u.hostText?.isSome
  | .error _ => false

/-- Does the text lack a scheme or a host, so that `http://` may be missing in front of it? -/
def lacksScheme (text : String) : Bool :=
  match Url.parse text with
  | .ok u => u.hostText?.isNone
  | .error f => f = .relative

/-- A proxy is given by a URL with a host; the scheme `http` may be left out. -/
def isProxy (text : String) : Bool :=
  namesHost text || (lacksScheme text && namesHost ("http://" ++ text))

/-- Why no client can be built, if none can: the proxy is looked at before the name that the client
goes by. -/
def obstacle? (c : Config.Exchange) : Option Obstacle :=
  match c.proxy.filter fun p => !isProxy p with
  | some p => some (.proxy p)
  | none => if (Http.headerValue? c.userAgent).isSome then none else some .userAgent

/-- Can a client be built? -/
def check (c : Config.Exchange) : Except Fault Unit :=
  match obstacle? c with
  | some o => .error (.config o.message)
  | none => .ok ()

/-! ### Requests -/

/-- Does the client speak the protocol that a URL names? -/
def speaks (u : Url) : Bool := u.scheme = "http" || u.scheme = "https"

/-- Why a request is not sent, if it is not. -/
def refusal? (r : Http.Request) : Option TransportFault :=
  match r.url with
  | none => some ⟨.request, "request has no url"⟩
  | some u =>
    if speaks u then none else some ⟨.request, "builder error for url (" ++ u.text ++ ")"⟩

end HttpProbe.Client
