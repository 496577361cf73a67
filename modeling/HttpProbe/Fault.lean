/-
**What can go wrong with a check.**

Main definitions:

* `TransportFault` — a failed exchange: what it failed at, and a message;
* `Fault` — the causes for which a check cannot be performed;
* `Fault.message` — their wording;
* `Fault.classify` — the stage a cause belongs to, and whether trying again may help.
-/

set_option autoImplicit false
set_option relaxedAutoImplicit false

namespace HttpProbe

/-! ### Exchanges -/

/-- What an exchange failed at. -/
inductive TransportFault.Kind where
  | connect
  | timeout
  | redirect
  | body
  | request
  | other
  deriving DecidableEq, Repr

/-- The name of what an exchange failed at. -/
def TransportFault.Kind.name : TransportFault.Kind → String
  | .connect => "connect"
  | .timeout => "timeout"
  | .redirect => "redirect"
  | .body => "body"
  | .request => "request"
  | .other => "other"

/-- A failed exchange. -/
structure TransportFault where
  kind : TransportFault.Kind
  message : String
  deriving DecidableEq, Repr

/-- The wording of a failed exchange. -/
def TransportFault.text (f : TransportFault) : String := f.kind.name ++ ": " ++ f.message

/-! ### Checks -/

/-- What was wrong with a document: it could not be decoded, or a condition on it as a whole does
not hold. -/
inductive DocumentFault where
  | undecodable
  | condition (message : String)
  deriving DecidableEq, Repr

/-- The wording of what was wrong with a document. -/
def DocumentFault.message : DocumentFault → String
  | .undecodable => ""
  | .condition m => " " ++ m

/-- Why a check cannot be performed. -/
inductive Fault where
  | config (message : String)
  | definition (message : String)
  | environment (message : String)
  | requestTemplate (message : String)
  | extraction (message : String)
  | transport (f : TransportFault)
  | unbound
  | io (message : String)
  | document (f : DocumentFault)
  deriving DecidableEq, Repr

/-- The wording of a fault. -/
def Fault.message : Fault → String
  | .config m => "Configuration error: " ++ m
  | .definition m => "Definition error: " ++ m
  | .environment m => "Environment error: " ++ m
  | .requestTemplate m => "Invalid request template: " ++ m
  | .extraction m => "Extraction error: " ++ m
  | .transport f => "Transport error: " ++ f.text
  | .unbound => "Session is not bound to a definition"
  | .io m => "IO error: " ++ m
  | .document f => "YAML error:" ++ f.message

/-! ### Classification -/

/-- The stage of a check that a fault belongs to. -/
inductive Stage where
  | setup
  | transport
  deriving DecidableEq, Repr

/-- The name of a stage. -/
def Stage.name : Stage → String
  | .setup => "setup"
  | .transport => "transport"

/-- What is known about a fault: the name of its type, its stage, and whether a caller may try
again. -/
structure Fault.Class where
  name : String
  stage : Stage
  retryable : Bool
  deriving DecidableEq, Repr

/-- What is known about a fault.  A malformed request fails the same way again; other failures of an
exchange, and of reading files, need not. -/
def Fault.classify : Fault → Fault.Class
  | .transport f => ⟨"TransportError", .transport, f.kind != .request⟩
  | .io _ => ⟨"IoError", .setup, true⟩
  | .config _ => ⟨"ConfigError", .setup, false⟩
  | .definition _ => ⟨"DefinitionError", .setup, false⟩
  | .environment _ => ⟨"EnvironmentError", .setup, false⟩
  | .requestTemplate _ => ⟨"RequestTemplateError", .setup, false⟩
  | .extraction _ => ⟨"ExtractionError", .setup, false⟩
  | .unbound => ⟨"UnboundSessionError", .setup, false⟩
  | .document _ => ⟨"YamlError", .setup, false⟩

/-- Did the exchange fail? -/
def Fault.isTransport (f : Fault) : Bool := f.classify.stage = .transport

end HttpProbe
