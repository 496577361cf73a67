/-
**Reading a URL.**

Blanks and controls at the ends of a text and all tabs and ends of lines do not count.  What follows
the scheme depends on it: the special schemes always have a host, and take a backslash for a slash;
`file` has a host that may be empty, and knows drive letters; all others are read as they stand.

Main definitions:

* `Url.SchemeKind` — the three kinds of schemes;
* `Url.readHost` — the host with a text;
* `Url.resolveDots` — segments without the ones that stay in place or go up;
* `Url.parse` — the URL with a text.
-/

import HttpProbe.Text.Blank
import HttpProbe.Text.Case
import HttpProbe.Url.Basic
import HttpProbe.Url.Encoding
import HttpProbe.Url.Domain

set_option autoImplicit false
set_option relaxedAutoImplicit false

namespace HttpProbe.Url

/-! ### Schemes -/

/-- The kinds of schemes. -/
inductive SchemeKind where
  | special
  | file
  | other
  deriving DecidableEq, Repr

/-- The kind of a scheme. -/
def schemeKind (s : String) : SchemeKind :=
  if s = "file" then .file
  else if ["http", "https", "ws", "wss", "ftp"].contains s then .special
  else .other

/-- The port that a scheme has unless another is given. -/
def defaultPort? (s : String) : Option Nat :=
  if s = "http" || s = "ws" then some 80
  else if s = "https" || s = "wss" then some 443
  else if s = "ftp" then some 21
  else none

/-- A character that a scheme may hold. -/
def isSchemeChar (c : Char) : Bool := c.isAlphanum || c = '+' || c = '-' || c = '.'

/-- The scheme at the start of a text, in small letters, and what follows the colon. -/
def readScheme? (cs : List Char) : Option (String × List Char) :=
  let name := cs.takeWhile isSchemeChar
  match name, cs.drop name.length with
  | c :: _, ':' :: rest =>
    if c.isAlpha then some (String.ofList (name.map Text.asciiLowerChar), rest) else none
  | _, _ => none

/-- Does a backslash count as a slash? -/
def SchemeKind.takesBackslash (k : SchemeKind) : Bool := k != .other

/-- A slash, or what counts as one. -/
def SchemeKind.isSlash (k : SchemeKind) (c : Char) : Bool :=
  c = '/' || (k.takesBackslash && c.toNat = 0x5C)

/-- A character that ends the part of a URL that names the host. -/
def SchemeKind.endsHost (k : SchemeKind) (c : Char) : Bool := k.isSlash c || c = '?' || c = '#'

/-! ### Hosts -/

/-- Characters that no host without a special scheme holds. -/
def isBadHostChar (c : Char) : Bool :=
  [0, 9, 10, 13, 32, 0x23, 0x2F, 0x3A, 0x3C, 0x3E, 0x3F, 0x40, 0x5B, 0x5C, 0x5D, 0x5E, 0x7C].contains
    c.toNat

/-- The address between brackets. -/
def readBracketed (cs : List Char) : Except Fault Host :=
  if cs.getLast? != some ']' then .error .badIpv6
  else match ipv6? cs.dropLast with
    | some ps => .ok (.ipv6 ps)
    | none => .error .badIpv6

/-- A host after a special scheme: a name, or an address if its last label is a number. -/
def readName (cs : List Char) : Except Fault Host :=
  match Text.decode? (percentDecode (Text.encode cs)) with
  | none => .error .badName
  | some decoded =>
    match Domain.toAscii? decoded with
    | none => .error .badName
    | some [] => .error .emptyHost
    | some name =>
      if endsInNumber name then
        match ipv4? name with
        | some n => .ok (.ipv4 n)
        | none => .error .badIpv4
      else .ok (.name (String.ofList name))

/-- The host with a text. -/
def readHost (k : SchemeKind) (cs : List Char) : Except Fault Host :=
  match cs with
  | '[' :: rest => readBracketed rest
  | cs =>
    if k = .other then
      if cs.any isBadHostChar then .error .badCharacter
      else .ok (.name (String.ofList (percentEncode controlSet cs)))
    else readName cs

/-- The characters of a host at the start of a text; a colon between brackets belongs to it. -/
def takeHost (k : SchemeKind) (inBrackets : Bool) : List Char → List Char
  | [] => []
  | c :: cs =>
    if k.endsHost c || (c = ':' && !inBrackets) then []
    else c :: takeHost k (if c = '[' then true else if c = ']' then false else inBrackets) cs

/-- The port at the start of a text after the colon, and what follows. -/
def readPort (scheme : String) (cs : List Char) :
    Except Fault (Option Nat × List Char) :=
  let digits := cs.takeWhile Decimal.isDigit
  let rest := cs.drop digits.length
  let n := Decimal.natOfDigits 10 digits
  if 65535 < n then .error .badPort
  else if rest.head?.any fun c => !(SchemeKind.endsHost .special c) then .error .badPort
  else if digits.isEmpty || defaultPort? scheme = some n then .ok (none, rest)
  else .ok (some n, rest)

/-- Name and password, host and port. -/
structure Authority where
  user : String
  password : String
  host : Host
  port : Option Nat

/-- The last place of an at sign in a text: what stands before and after it. -/
def cutLastAt? (cs : List Char) : Option (List Char × List Char) :=
  let after := (cs.reverse.takeWhile (· != '@')).reverse
  if after.length = cs.length then none
  else some (cs.take (cs.length - after.length - 1), after)

/-- Name and password at the start of a text, and what follows. -/
def readUser (k : SchemeKind) (cs : List Char) :
    Except Fault (String × String × List Char) :=
  let part := cs.takeWhile fun c => !k.endsHost c
  match cutLastAt? part with
  | none => .ok ("", "", cs)
  | some (user, _) =>
    let rest := cs.drop (user.length + 1)
    if user.isEmpty && rest.head?.any k.endsHost then .error .emptyHost
    else
      let name := user.takeWhile (· != ':')
      let password := (user.drop name.length).drop 1
      .ok (String.ofList (percentEncode userSet name),
        String.ofList (percentEncode userSet password), rest)

/-- What stands between two slashes and the path, and what follows. -/
def readAuthority (k : SchemeKind) (scheme : String) (cs : List Char) :
    Except Fault (Authority × List Char) := do
  let (user, password, cs) ← readUser k cs
  let hostChars := takeHost k false cs
  let rest := cs.drop hostChars.length
  if k = .special && hostChars.isEmpty then .error .emptyHost
  else do
    let host ← readHost k hostChars
    if host = .name "" && rest.head? = some ':' then .error .emptyHost
    else do
      let (port, rest) ← match rest with
        | ':' :: more => readPort scheme more
        | _ => .ok (none, rest)
      if host = .name "" && (!user.isEmpty || !password.isEmpty) then .error .emptyHost
      else .ok (⟨user, password, host, port⟩, rest)

/-! ### Paths -/

/-- A segment that stays in place. -/
def isDot (s : List Char) : Bool := ["." , "%2e"].contains (String.ofList (s.map Text.asciiLowerChar))

/-- A segment that goes up. -/
def isDotDot (s : List Char) : Bool :=
  ["..", "%2e.", ".%2e", "%2e%2e"].contains (String.ofList (s.map Text.asciiLowerChar))

/-- A letter and a colon. -/
def isDrive (s : List Char) : Bool :=
  match s with
  | [c, ':'] => c.isAlpha
  | _ => false

/-- A letter and a colon or a bar. -/
def isLooseDrive (s : List Char) : Bool :=
  match s with
  | [c, d] => c.isAlpha && (d = ':' || d = '|')
  | _ => false

/-- Goes up from a list of segments with the last one first; a drive letter stays. -/
def goUp (k : SchemeKind) : List (List Char) → List (List Char)
  | [s] => if k = .file && isDrive s then [s] else []
  | _ :: rest => rest
  | [] => []

/-- Segments without those that stay in place or go up; `out` has the last one first.  After such a
one at the end the path ends in a slash. -/
def resolveDots (k : SchemeKind) (out : List (List Char)) : List (List Char) → List (List Char)
  | [] => out.reverse
  | s :: rest =>
    if isDotDot s then
      let up := goUp k out
      resolveDots k (if rest.isEmpty then [] :: up else up) rest
    else if isDot s then resolveDots k (if rest.isEmpty then [] :: out else out) rest
    else resolveDots k (s :: out) rest

/-- The segments of a path of a file: a drive letter at the start is a segment of its own, written
with a colon, and empty segments at the start do not count. -/
def fileSegments (ss : List (List Char)) : List (List Char) :=
  match ss with
  | (c :: ':' :: d :: more) :: rest =>
    if c.isAlpha then [c, ':'] :: (d :: more) :: rest else (c :: ':' :: d :: more) :: rest
  | [c, '|'] :: rest => if c.isAlpha then [c, ':'] :: rest else [c, '|'] :: rest
  | ss => ss

/-- The segments of a text that follows the first slash of a path. -/
def readSegments (k : SchemeKind) (cs : List Char) : List String :=
  let raw := (Text.splitChars k.isSlash cs).map (percentEncode pathSet)
  let found := resolveDots k [] (if k = .file then fileSegments raw else raw)
  let found :=
    if k = .file then
      match found.dropWhile List.isEmpty with
      | [] => [[]]
      | ss => ss
    else found
  found.map String.ofList

/-- The path after a host. -/
def readPath (k : SchemeKind) (cs : List Char) : Path :=
  match cs with
  | [] => if k = .other then .segments [] else .segments (readSegments k [])
  | c :: rest =>
    if k.isSlash c then .segments (readSegments k rest) else .segments (readSegments k (c :: rest))

/-! ### URLs -/

/-- The part of a text before the query, the query, and the fragment. -/
def cutTail (cs : List Char) : List Char × Option (List Char) × Option (List Char) :=
  let main := cs.takeWhile (· != '#')
  let fragment := match cs.drop main.length with
    | _ :: f => some f
    | [] => none
  let path := main.takeWhile (· != '?')
  let query := match main.drop path.length with
    | _ :: q => some q
    | [] => none
  (path, query, fragment)

/-- A URL with its query and fragment. -/
def withTail (k : SchemeKind) (u : Url) (query fragment : Option (List Char)) : Url :=
  { u with
    query := query.map fun q =>
      String.ofList (percentEncode (if k = .other then querySet else specialQuerySet) q)
    fragment := fragment.map fun f => String.ofList (percentEncode fragmentSet f) }

/-- A URL with two slashes, which are taken off. -/
def readHosted (k : SchemeKind) (scheme : String) (cs : List Char) : Except Fault Url := do
  let (a, rest) ← readAuthority k scheme cs
  let (path, query, fragment) := cutTail rest
  .ok (withTail k ⟨scheme, a.user, a.password, some a.host, a.port, readPath k path, none, none⟩
    query fragment)

/-- A URL of a scheme that is not special and has no host. -/
def readPlain (scheme : String) (cs : List Char) : Url :=
  let (path, query, fragment) := cutTail cs
  let path := match path with
    | '/' :: rest => Path.segments (readSegments .other rest)
    | _ => Path.plain (String.ofList (percentEncode controlSet path))
  withTail .other ⟨scheme, "", "", none, none, path, none, none⟩ query fragment

/-- The host of a file; `localhost` counts as none. -/
def readFileHost (cs : List Char) : Except Fault Host :=
  if cs.isEmpty then .ok (.name "")
  else do
    let h ← readHost .file cs
    .ok (if h = .name "localhost" then .name "" else h)

/-- A URL of a file. -/
def readFile (cs : List Char) : Except Fault Url := do
  let slashes := cs.takeWhile (SchemeKind.isSlash .file)
  let rest := cs.drop 2
  let hostChars := rest.takeWhile fun c => !SchemeKind.endsHost .file c
  let hasHost := 2 ≤ slashes.length && !isLooseDrive hostChars
  let host ← if hasHost then readFileHost hostChars else .ok (.name "")
  let (path, query, fragment) := cutTail
    (if hasHost then rest.drop hostChars.length else if 2 ≤ slashes.length then rest else cs)
  let drive := match path.dropWhile (SchemeKind.isSlash .file) with
    | c :: d :: more => isLooseDrive [c, d] && more.head?.all (SchemeKind.isSlash .file)
    | _ => false
  .ok (withTail .file
    ⟨"file", "", "", some (if drive then .name "" else host), none, readPath .file path, none, none⟩
    query fragment)

/-- The characters of a text that count. -/
def significant (cs : List Char) : List Char :=
  let isEdge : Char → Bool := fun c => c.toNat ≤ 0x20
  (Text.dropTrailing isEdge (Text.dropLeading isEdge cs)).filter fun c =>
    !(c = '\t' || c = '\n' || c = '\r')

/-- The URL with a text. -/
def parse (s : String) : Except Fault Url :=
  match readScheme? (significant s.toList) with
  | none => .error .relative
  | some (scheme, rest) =>
    match schemeKind scheme with
    | .special => readHosted .special scheme (rest.dropWhile (SchemeKind.isSlash .special))
    | .file => readFile rest
    | .other =>
      match rest with
      | '/' :: '/' :: more => readHosted .other scheme more
      | _ => .ok (readPlain scheme rest)

end HttpProbe.Url
