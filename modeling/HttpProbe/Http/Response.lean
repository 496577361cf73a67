/-
**Responses.**

A response model takes over what an exchange brought back.  Where the exchange names no URL of its
own the response has that of the request.

Main definitions:

* `Http.RawResponse` — what an exchange brings back;
* `Http.Response` — a response model, `Response.blank` and `Response.reset`;
* `Response.fill` — taking over.
-/

import HttpProbe.Http.Request

set_option autoImplicit false
set_option relaxedAutoImplicit false

namespace HttpProbe.Http

/-- What an exchange brings back; the latency is in milliseconds. -/
structure RawResponse where
  status : Nat
  headers : Headers
  body : Octets
  url : Option Url
  latency : Nat
  deriving DecidableEq

/-- A response. -/
structure Response where
  status : Nat
  headers : Headers
  body : Octets
  url : Option Url
  latency : Nat
  deriving DecidableEq

namespace Response

/-- A response with nothing in it. -/
def blank : Response := ⟨0, Headers.empty, [], none, 0⟩

/-- Clears a response part by part. -/
def reset (r : Response) : Response :=
  { r with status := 0, headers := Headers.empty, body := [], url := none, latency := 0 }

@[simp] theorem reset_eq_blank (r : Response) : r.reset = blank := rfl

/-- The response to a request. -/
def ofRaw (raw : RawResponse) (origin : Request) : Response :=
  ⟨raw.status, raw.headers, raw.body, raw.url.or origin.url, raw.latency⟩

/-- Takes over what an exchange brought back, part by part. -/
def fill (r : Response) (raw : RawResponse) (origin : Request) : Response :=
  { r with
    status := raw.status
    headers := raw.headers
    body := raw.body
    url := raw.url.or origin.url
    latency := raw.latency }

/-- Nothing of what was there before is left. -/
@[simp] theorem fill_eq_ofRaw (r : Response) (raw : RawResponse) (origin : Request) :
    r.fill raw origin = ofRaw raw origin := rfl

/-- The body as a text. -/
def bodyText (r : Response) : String := Text.lossy r.body

/-- The text of the response's URL. -/
def urlText (r : Response) : String :=
  match r.url with
  | some u => u.text
  | none => ""

/-- An octet of a header that can be read as a text. -/
def isVisible (b : UInt8) : Bool := (0x20 ≤ b && b < 0x7F) || b = 9

/-- The first value of the header `Content-Type`, if it can be read as a text. -/
def contentType (r : Response) : String :=
  match r.headers.first? "content-type" with
  | some v => if v.all isVisible then Text.lossy v else ""
  | none => ""

end Response

end HttpProbe.Http
