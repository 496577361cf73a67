/-
**Uniform resource locators.**

A URL is kept in its parts; its text is put together from them.

Main definitions:

* `Url.Host`, `Url.Path`, `Url` — the parts;
* `Url.text` — the text of a URL;
* `Url.pathText`, `Url.hostText?` — the texts of two of its parts;
* `Url.Fault` — why a text is no URL.
-/

import HttpProbe.Url.Address

set_option autoImplicit false
set_option relaxedAutoImplicit false

namespace HttpProbe

namespace Url

/-- A host: a name, possibly empty, or an address. -/
inductive Host where
  | name (s : String)
  | ipv4 (n : Nat)
  | ipv6 (pieces : List Nat)
  deriving DecidableEq, Repr

/-- The text of a host. -/
def Host.text : Host → String
  | .name s => s
  | .ipv4 n => String.ofList (ipv4Text n)
  | .ipv6 ps => String.ofList ('[' :: ipv6Text ps ++ [']'])

/-- A path: segments, each after a slash, or a plain text. -/
inductive Path where
  | segments (ss : List String)
  | plain (s : String)
  deriving DecidableEq, Repr

/-- The text of a path. -/
def Path.text : Path → String
  | .segments ss => String.join (ss.map fun s => "/" ++ s)
  | .plain s => s

/-- Why a text is no URL. -/
inductive Fault where
  | relative
  | emptyHost
  | badPort
  | badIpv4
  | badIpv6
  | badName
  | badCharacter
  deriving DecidableEq, Repr

/-- The wording of a fault. -/
def Fault.message : Fault → String
  | .relative => "relative URL without a base"
  | .emptyHost => "empty host"
  | .badPort => "invalid port number"
  | .badIpv4 => "invalid IPv4 address"
  | .badIpv6 => "invalid IPv6 address"
  | .badName => "invalid international domain name"
  | .badCharacter => "invalid domain character"

end Url

/-- A URL in its parts.  Without a host there is no user, password or port. -/
structure Url where
  scheme : String
  user : String
  password : String
  host : Option Url.Host
  port : Option Nat
  path : Url.Path
  query : Option String
  fragment : Option String
  deriving DecidableEq, Repr

namespace Url

/-- The text of a URL's path. -/
def pathText (u : Url) : String := u.path.text

/-- The text of a URL's host, if it has one that is not empty. -/
def hostText? (u : Url) : Option String :=
  match u.host with
  | some (.name "") => none
  | some h => some h.text
  | none => none

/-- Name and password in front of a host. -/
def userText (u : Url) : String :=
  if u.user.isEmpty && u.password.isEmpty then ""
  else u.user ++ (if u.password.isEmpty then "" else ":" ++ u.password) ++ "@"

/-- What stands between the scheme and the path.  A path that starts with two slashes is kept apart
from the slashes of a host. -/
def authorityText (u : Url) : String :=
  match u.host with
  | some h =>
    "//" ++ u.userText ++ h.text ++
      (match u.port with
        | some p => ":" ++ Decimal.intText p
        | none => "")
  | none =>
    match u.path with
    | .segments ("" :: _ :: _) => "/."
    | _ => ""

/-- A part of a URL after its mark, if there is such a part. -/
def markedText (mark : String) : Option String → String
  | some s => mark ++ s
  | none => ""

/-- The text of a URL. -/
def text (u : Url) : String :=
  u.scheme ++ ":" ++ u.authorityText ++ u.pathText ++ markedText "?" u.query ++
    markedText "#" u.fragment

end Url

end HttpProbe
