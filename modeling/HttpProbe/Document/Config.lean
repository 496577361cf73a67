/-
**Configurations as documents.**

What a document does not mention holds by default.

Main definitions:

* `Config.ofNode` — decoding;
* `Config.read` — a configuration from a text.
-/

import HttpProbe.Config
import HttpProbe.Yaml.Decoder

set_option autoImplicit false
set_option relaxedAutoImplicit false

namespace HttpProbe.Config

open Yaml (Decoder Node)

/-- The keys of the part about exchanges. -/
def Exchange.keys : List String :=
  ["timeout_secs", "user_agent", "max_redirects", "accept_invalid_certs", "proxy"]

/-- The part about exchanges. -/
def Exchange.ofNode (n : Node) : Decoder Exchange := do
  let f ← Decoder.fields keys n
  let timeout ← Decoder.field f "timeout_secs" Decoder.natural default.timeoutSecs
  let agent ← Decoder.field f "user_agent" Decoder.text default.userAgent
  let redirects ← Decoder.field f "max_redirects" Decoder.natural default.maxRedirects
  let certs ← Decoder.field f "accept_invalid_certs" Decoder.bool default.acceptInvalidCerts
  let proxy ← Decoder.field f "proxy" (Decoder.optional Decoder.text) default.proxy
  pure ⟨timeout, agent, redirects, certs, proxy⟩

/-- The part about pools. -/
def Pools.ofNode (n : Node) : Decoder Pools := do
  let f ← Decoder.fields ["max_idle_sessions", "max_idle_models"] n
  let sessions ← Decoder.field f "max_idle_sessions" Decoder.natural default.maxIdleSessions
  let models ← Decoder.field f "max_idle_models" Decoder.natural default.maxIdleModels
  pure ⟨sessions, models⟩

/-- A configuration from a node. -/
def ofNode (n : Node) : Decoder Config := do
  let f ← Decoder.fields ["http", "pool"] n
  let http ← Decoder.field f "http" Exchange.ofNode .default
  let pool ← Decoder.field f "pool" Pools.ofNode .default
  pure ⟨http, pool⟩

/-- A configuration from a text. -/
def read (text : String) : Except Fault Config := Decoder.read ofNode text

end HttpProbe.Config
