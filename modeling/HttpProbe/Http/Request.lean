/-
**Requests.**

A request model is filled from the rendered parts of a rule: method, URL, headers and body, in this
order.  A malformed part ends the filling; what was filled before it stays.

Main definitions:

* `Http.Request` — a request model, `Request.blank` and `Request.reset`;
* `Http.Template` — the parts it is filled from;
* `Request.setup` — filling a model;
* `Template.request` — the request that a template stands for.
-/

import HttpProbe.Fault
import HttpProbe.Http.Headers
import HttpProbe.Url.Reading

set_option autoImplicit false
set_option relaxedAutoImplicit false

namespace HttpProbe.Http

/-- A request. -/
structure Request where
  method : String
  url : Option Url
  headers : Headers
  body : Octets
  deriving DecidableEq

namespace Request

/-- A request with nothing in it. -/
def blank : Request := ⟨"GET", none, Headers.empty, []⟩

/-- Clears a request part by part. -/
def reset (r : Request) : Request :=
  { r with method := "GET", url := none, headers := Headers.empty, body := [] }

@[simp] theorem reset_eq_blank (r : Request) : r.reset = blank := rfl

/-- The path of the request's URL. -/
def path (r : Request) : String :=
  match r.url with
  | some u => u.pathText
  | none => ""

/-- The text of the request's URL. -/
def urlText (r : Request) : String :=
  match r.url with
  | some u => u.text
  | none => ""

/-- The body as a text. -/
def bodyText (r : Request) : String := Text.lossy r.body

end Request

/-- The rendered parts that a request is filled from. -/
structure Template where
  method : String
  url : String
  body : String
  headers : List (String × String)
  deriving DecidableEq, Repr

/-- A method that is no token. -/
def badMethod (s : String) : Fault :=
  .requestTemplate ("Invalid method '" ++ Text.trim s ++ "': invalid HTTP method")

/-- A text that is no URL. -/
def badUrl (s : String) (f : Url.Fault) : Fault :=
  .requestTemplate ("Invalid url '" ++ s ++ "': " ++ f.message)

/-- The name of a header that is no token. -/
def badHeaderName (s : String) : Fault :=
  .requestTemplate ("Invalid header name '" ++ s ++ "': invalid HTTP header name")

/-- The value of a header with a control in it. -/
def badHeaderValue (name : String) : Fault :=
  .requestTemplate ("Invalid value for header '" ++ name ++ "': failed to parse header value")

/-- Adds headers up to the first that is malformed. -/
def addHeaders : Headers → List (String × String) → Option Fault × Headers
  | h, [] => (none, h)
  | h, (name, value) :: rest =>
    match headerName? name with
    | none => (some (badHeaderName name), h)
    | some n =>
      match headerValue? value with
      | none => (some (badHeaderValue name), h)
      | some v => addHeaders (h.append n v) rest

/-- Fills a request; the fault is the first malformed part. -/
def Request.setup (r : Request) (t : Template) : Option Fault × Request :=
  match method? t.method with
  | none => (some (badMethod t.method), r)
  | some method =>
    let r := { r with method := method }
    match Url.parse t.url with
    | .error f => (some (badUrl t.url f), r)
    | .ok url =>
      let (fault, headers) := addHeaders Headers.empty t.headers
      let r := { r with url := some url, headers := headers }
      match fault with
      | some f => (some f, r)
      | none => (none, { r with body := Text.octets t.body })

/-- The request that a template stands for: a blank one that is filled. -/
def Template.request (t : Template) : Except Fault Request :=
  match Request.blank.setup t with
  | (some f, _) => .error f
  | (none, r) => .ok r

end HttpProbe.Http
