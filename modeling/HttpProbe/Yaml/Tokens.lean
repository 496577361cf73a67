/-
**From characters to tokens.**

In the block style a key is known only by the colon after it, so a token that may be a key is
remembered, and its marks are put in front of it when the colon comes.  A key stands in one line, is no
longer than 1024 characters, and a token at the column of its block must be one.

Main definitions:

* `Yaml.Scanner` — the tokens so far, the open blocks and brackets, and the possible keys;
* `Scanner.fetch` — reads the next token;
* `Yaml.tokens` — the tokens of a text, up to its end or to the first fault.
-/

import HttpProbe.Yaml.Text

set_option autoImplicit false
set_option relaxedAutoImplicit false

namespace HttpProbe.Yaml

/-! ### Scanners -/

/-- A token that may turn out to be a key: must it be one, its number, and where it begins. -/
structure PossibleKey where
  required : Bool
  number : Nat
  index : Nat
  line : Nat
  column : Nat

/-- The tokens so far, last one first, with their number; the columns of the open blocks, innermost
first; and the possible keys of the open brackets, innermost first, the last one being that outside of
all brackets. -/
structure Scanner where
  cursor : Cursor
  tokens : List Token
  count : Nat
  blocks : List Nat
  keys : List (Option PossibleKey)
  keyAllowed : Bool

namespace Scanner

/-- The beginning of a text. -/
def start (cs : List Char) : Scanner := ⟨.start cs, [], 0, [], [none], true⟩

/-- Is a bracket open? -/
def inFlow (s : Scanner) : Bool :=
  match s.keys with
  | _ :: _ :: _ => true
  | _ => false

/-- The column of the innermost block. -/
def indent (s : Scanner) : Int :=
  match s.blocks with
  | [] => -1
  | n :: _ => n

/-- Adds a token. -/
def push (s : Scanner) (t : Token) : Scanner :=
  { s with tokens := t :: s.tokens, count := s.count + 1 }

/-- Puts a token in front of the one with a number. -/
def insert (s : Scanner) (number : Nat) (t : Token) : Scanner :=
  let after := s.count - number
  { s with tokens := s.tokens.take after ++ t :: s.tokens.drop after, count := s.count + 1 }

/-- Past a number of characters. -/
def skip (s : Scanner) : Nat → Scanner
  | 0 => s
  | n + 1 => skip { s with cursor := s.cursor.skip } n

/-- The scanner at another cursor. -/
def moveTo (s : Scanner) (c : Cursor) : Scanner := { s with cursor := c }

/-! ### Keys -/

/-- Is it too late for the colon of a key? -/
def PossibleKey.isStale (k : PossibleKey) (c : Cursor) : Bool :=
  k.line < c.line || k.index + 1024 < c.index

/-- Gives up the keys for which it is too late, unless one must be a key. -/
def dropStaleKeys (s : Scanner) : Option Scanner :=
  let stale (k : PossibleKey) : Bool := PossibleKey.isStale k s.cursor
  if s.keys.any fun k => k.any fun k => k.required && stale k then none
  else some { s with keys := s.keys.map fun k => k.filter fun k => !stale k }

/-- Gives up the possible key of the innermost bracket, unless it must be a key. -/
def dropKey (s : Scanner) : Option Scanner :=
  match s.keys with
  | [] => some s
  | k :: rest => if k.any PossibleKey.required then none else some { s with keys := none :: rest }

/-- Remembers that the next token may be a key. -/
def saveKey (s : Scanner) : Option Scanner :=
  if s.keyAllowed then do
    let required := !s.inFlow && s.indent = s.cursor.column
    let k : PossibleKey :=
      ⟨required, s.count, s.cursor.index, s.cursor.line, s.cursor.column⟩
    let s ← s.dropKey
    some { s with keys := some k :: s.keys.tail }
  else some s

/-- The tokens that are certain to stand: those in front of all possible keys. -/
def settled (s : Scanner) : List Token :=
  let open_ := s.keys.filterMap fun k => k.filter fun k => !PossibleKey.isStale k s.cursor
  let least := open_.foldl (fun n k => min n k.number) s.count
  s.tokens.reverse.take least

/-! ### Blocks -/

/-- Opens a block at a column, if it is deeper than the innermost one; its mark is put in front of the
token with the number. -/
def roll (s : Scanner) (column number : Nat) (t : Token) : Scanner :=
  if s.inFlow || (column : Int) ≤ s.indent then s
  else { s.insert number t with blocks := column :: s.blocks }

/-- Closes the blocks that are deeper than a column. -/
def unroll (s : Scanner) (column : Nat) : Scanner :=
  if s.inFlow then s
  else
    let deeper := s.blocks.takeWhile (column < ·)
    { s with
      tokens := List.replicate deeper.length .blockEnd ++ s.tokens
      count := s.count + deeper.length
      blocks := s.blocks.dropWhile (column < ·) }

/-- Closes all blocks. -/
def unrollAll (s : Scanner) : Scanner :=
  if s.inFlow then s
  else { s with
    tokens := List.replicate s.blocks.length .blockEnd ++ s.tokens
    count := s.count + s.blocks.length
    blocks := [] }

/-! ### Directives, anchors and tags -/

/-- Reads a number of at most nine digits. -/
def readNumber (c : Cursor) : Option (Nat × Cursor) :=
  let (ds, c) := c.span Char.isDigit
  if ds.isEmpty || 9 < ds.length then none
  else some (ds.foldl (fun n d => n * 10 + (d.toNat - 48)) 0, c)

/-- Reads the handle of a tag: an exclamation mark, and perhaps a word and another mark. -/
def readHandle (c : Cursor) : Option (String × Cursor) :=
  if !c.isAt '!' then none
  else
    let (word, c) := c.skip.span isWordChar
    if c.isAt '!' then some (String.ofList ('!' :: (word ++ ['!'])), c.skip)
    else some (String.ofList ('!' :: word), c)

/-- A character of a tag; `verbatim` ones may hold some more. -/
def isTagChar (verbatim : Bool) (c : Char) : Bool :=
  isWordChar c || ";/?:@&=+$.!~*()".toList.contains c || c = quote ||
    (verbatim && (c = ',' || c = '[' || c = ']'))

/-- Reads one octet written with a percent sign. -/
def readOctet (c : Cursor) : Option (Nat × Cursor) :=
  if c.isAt '%' then readHex 2 0 c.skip else none

/-- The number of octets of a character by the first of them, and the bits in that one. -/
def octetWidth? (n : Nat) : Option (Nat × Nat) :=
  if n < 0x80 then some (1, n)
  else if 0xC0 ≤ n && n < 0xE0 then some (2, n - 0xC0)
  else if 0xE0 ≤ n && n < 0xF0 then some (3, n - 0xE0)
  else if 0xF0 ≤ n && n < 0xF8 then some (4, n - 0xF0)
  else none

/-- Reads the octets of a character after the first. -/
def readContinuation : Nat → Nat → Cursor → Option (Nat × Cursor)
  | 0, bits, c => some (bits, c)
  | k + 1, bits, c =>
    match readOctet c with
    | none => none
    | some (n, c) =>
      if 0x80 ≤ n && n < 0xC0 then readContinuation k (bits * 64 + (n - 0x80)) c else none

/-- Reads a character written with percent signs. -/
def readPercent (c : Cursor) : Option (Char × Cursor) := do
  let (n, c) ← readOctet c
  let (width, bits) ← octetWidth? n
  let (bits, c) ← readContinuation (width - 1) bits c
  some (Char.ofNat bits, c)

/-- Reads the characters of a tag. -/
def readTagChars (verbatim : Bool) : Nat → List Char → Cursor → Option (List Char × Cursor)
  | 0, _, _ => none
  | fuel + 1, out, c =>
    match c.rest with
    | [] => some (out.reverse, c)
    | ch :: _ =>
      if ch = '%' then
        match readPercent c with
        | none => none
        | some (p, c) => readTagChars verbatim fuel (p :: out) c
      else if isTagChar verbatim ch then readTagChars verbatim fuel (ch :: out) c.skip
      else some (out.reverse, c)

/-- Reads characters of a tag, at least one. -/
def readTagText (verbatim : Bool) (fuel : Nat) (c : Cursor) : Option (List Char × Cursor) :=
  match readTagChars verbatim fuel [] c with
  | some ([], _) => none
  | r => r

/-- Reads a tag. -/
def readTag (fuel : Nat) (c : Cursor) : Option (Token × Cursor) :=
  if c.skip.isAt '<' then do
    let (text, c) ← readTagText true fuel c.skip.skip
    if c.isAt '>' then some (.tag "" (String.ofList text), c.skip) else none
  else do
    let (handle, c) ← readHandle c
    if 1 < handle.length && handle.endsWith "!" then
      let (text, c) ← readTagText false fuel c
      some (.tag handle (String.ofList text), c)
    else
      let (text, c) ← readTagChars false fuel [] c
      let suffix := handle.toList.tail ++ text
      if suffix.isEmpty then some (.tag "" "!", c) else some (.tag "!" (String.ofList suffix), c)

/-- Reads a tag up to the gap after it; between brackets a comma will do. -/
def readTagToken (inFlow : Bool) (fuel : Nat) (c : Cursor) : Option (Token × Cursor) := do
  let (t, c) ← readTag fuel c
  if atGap c.rest || (inFlow && c.isAt ',') then some (t, c) else none

/-- May a character follow the name of an anchor? -/
def endsAnchor : List Char → Bool
  | [] => true
  | c :: _ =>
    isGap c || c = '?' || c = ':' || c = ',' || c = ']' || c.toNat = 0x7D || c = '%' || c = '@' ||
      c.toNat = 0x60

/-- Reads the name of an anchor. -/
def readAnchor (c : Cursor) : Option (String × Cursor) :=
  let (name, c) := c.skip.span isWordChar
  if name.isEmpty || !endsAnchor c.rest then none else some (String.ofList name, c)

/-- Reads the value of a directive for the version. -/
def readVersion (c : Cursor) : Option (Token × Cursor) := do
  let (major, c) ← readNumber (c.skipWhile isSpace)
  if !c.isAt '.' then none
  else
    let (minor, c) ← readNumber c.skip
    some (.version major minor, c)

/-- Reads the value of a directive for a handle of tags. -/
def readShorthand (fuel : Nat) (c : Cursor) : Option (Token × Cursor) := do
  let (handle, c) ← readHandle (c.skipWhile isSpace)
  if handle != "!" && !(1 < handle.length && handle.endsWith "!") then none
  else if !(c.rest.head?.any isSpace) then none
  else
    let (text, c) ← readTagText true fuel (c.skipWhile isSpace)
    if atGap c.rest then some (.shorthand handle (String.ofList text), c) else none

/-- Reads a directive. -/
def readDirective (fuel : Nat) (c : Cursor) : Option (Token × Cursor) := do
  let (name, c) := c.skip.span isWordChar
  if name.isEmpty || !atGap c.rest then none
  else
    let (t, c) ←
      if name = "YAML".toList then readVersion c
      else if name = "TAG".toList then readShorthand fuel c
      else none
    let c ← c.skipLineRest?
    some (t, c)

/-! ### Fetching -/

/-- Past spaces, comments and ends of lines.  Tabs count as spaces where they cannot indent a key. -/
def toNextToken : Nat → Scanner → Scanner
  | 0, s => s
  | fuel + 1, s =>
    let tabs := s.inFlow || !s.keyAllowed
    let c := s.cursor.skipWhile fun ch => ch = ' ' || (tabs && ch = '\t')
    let c := if c.isAt '#' then c.skipWhile fun ch => !isBreak ch else c
    match c.skipBreak? with
    | none => s.moveTo c
    | some (_, c) =>
      toNextToken fuel { s with cursor := c, keyAllowed := s.keyAllowed || !s.inFlow }

/-- The end of the text. -/
def fetchEnd (s : Scanner) : Option Scanner := do
  let s ← s.unrollAll.dropKey
  some (Scanner.push { s with keyAllowed := false } .streamEnd)

/-- A directive. -/
def fetchDirective (fuel : Nat) (s : Scanner) : Option Scanner := do
  let s ← s.unrollAll.dropKey
  let (t, c) ← readDirective fuel s.cursor
  some (Scanner.push { s with keyAllowed := false, cursor := c } t)

/-- The beginning or the end of a document. -/
def fetchDocumentMark (s : Scanner) (t : Token) : Option Scanner := do
  let s ← s.unrollAll.dropKey
  some (Scanner.push { s.skip 3 with keyAllowed := false } t)

/-- An opening bracket. -/
def fetchOpening (s : Scanner) (t : Token) : Option Scanner := do
  let s ← s.saveKey
  some (Scanner.push { s.skip 1 with keys := none :: s.keys, keyAllowed := true } t)

/-- A closing bracket. -/
def fetchClosing (s : Scanner) (t : Token) : Option Scanner := do
  let s ← s.dropKey
  let keys := if s.inFlow then s.keys.tail else s.keys
  some (Scanner.push { s.skip 1 with keys := keys, keyAllowed := false } t)

/-- A comma between brackets. -/
def fetchFlowEntry (s : Scanner) : Option Scanner := do
  let s ← s.dropKey
  some (Scanner.push { s.skip 1 with keyAllowed := true } .flowEntry)

/-- A hyphen in front of an entry. -/
def fetchBlockEntry (s : Scanner) : Option Scanner := do
  if !s.inFlow && !s.keyAllowed then none
  else
    let s ← (s.roll s.cursor.column s.count .blockSequence).dropKey
    some (Scanner.push { s.skip 1 with keyAllowed := true } .blockEntry)

/-- A question mark in front of a key. -/
def fetchKey (s : Scanner) : Option Scanner := do
  if !s.inFlow && !s.keyAllowed then none
  else
    let s ← (s.roll s.cursor.column s.count .blockMapping).dropKey
    some (Scanner.push { s.skip 1 with keyAllowed := !s.inFlow } .key)

/-- A colon in front of a value. -/
def fetchValue (s : Scanner) : Option Scanner :=
  match s.keys.head? with
  | some (some k) =>
    let s := (s.insert k.number .key).roll k.column k.number .blockMapping
    some (Scanner.push { s.skip 1 with keys := none :: s.keys.tail, keyAllowed := false } .value)
  | _ =>
    if !s.inFlow && !s.keyAllowed then none
    else
      let s := s.roll s.cursor.column s.count .blockMapping
      some (Scanner.push { s.skip 1 with keyAllowed := !s.inFlow } .value)

/-- A token that may be a key, read by a reader. -/
def fetchNode (s : Scanner) (read : Cursor → Option (Token × Cursor)) : Option Scanner := do
  let s ← s.saveKey
  let (t, c) ← read s.cursor
  some (Scanner.push { s with keyAllowed := false, cursor := c } t)

/-- A scalar in quotes. -/
def fetchQuoted (fuel : Nat) (s : Scanner) (single : Bool) : Option Scanner :=
  s.fetchNode fun c => do
    let (out, c) ← readQuoted single fuel [] c.skip
    some (.scalar (String.ofList out.reverse) (if single then .single else .double), c)

/-- A plain scalar. -/
def fetchPlain (fuel : Nat) (s : Scanner) : Option Scanner := do
  let s ← s.saveKey
  let (out, broken, c) ← readPlain s.inFlow (s.indent + 1).toNat fuel .empty [] s.cursor
  some (Scanner.push { s with keyAllowed := broken, cursor := c }
    (.scalar (String.ofList out.reverse) .plain))

/-- A block scalar. -/
def fetchBlock (fuel : Nat) (s : Scanner) (folded : Bool) : Option Scanner := do
  let s ← s.dropKey
  let (out, c) ← readBlock folded s.indent fuel s.cursor.skip
  some (Scanner.push { s with keyAllowed := true, cursor := c }
    (.scalar (String.ofList out.reverse) (if folded then .folded else .literal)))

/-- A character that no plain scalar begins with, unless a hyphen, a question mark or a colon that
something follows at once. -/
def isIndicator (c : Char) : Bool :=
  "-?:,[]#&*!|>%@".toList.contains c || c = quote || c = doubleQuote ||
    c.toNat = 0x7B || c.toNat = 0x7D || c.toNat = 0x60

/-- Does a plain scalar begin here? -/
def beginsPlain (inFlow : Bool) : List Char → Bool
  | [] => false
  | c :: rest =>
    (!isGap c && !isIndicator c) || (c = '-' && !(rest.head?.any isSpace)) ||
      (!inFlow && (c = '?' || c = ':') && !atGap rest)

/-- Reads the token that begins at the cursor. -/
def fetchHere (fuel : Nat) (s : Scanner) : Option Scanner :=
  match s.cursor.rest with
  | [] => s.fetchEnd
  | ch :: rest =>
    if s.cursor.column = 0 && ch = '%' then s.fetchDirective fuel
    else if s.cursor.atMark '-' then s.fetchDocumentMark .documentStart
    else if s.cursor.atMark '.' then s.fetchDocumentMark .documentEnd
    else if ch = '[' then s.fetchOpening .flowSequence
    else if ch.toNat = 0x7B then s.fetchOpening .flowMapping
    else if ch = ']' then s.fetchClosing .flowSequenceEnd
    else if ch.toNat = 0x7D then s.fetchClosing .flowMappingEnd
    else if ch = ',' then s.fetchFlowEntry
    else if ch = '-' && atGap rest then s.fetchBlockEntry
    else if ch = '?' && (s.inFlow || atGap rest) then s.fetchKey
    else if ch = ':' && (s.inFlow || atGap rest) then s.fetchValue
    else if ch = '*' then s.fetchNode fun c => (readAnchor c).map fun (n, c) => (.alias n, c)
    else if ch = '&' then s.fetchNode fun c => (readAnchor c).map fun (n, c) => (.anchor n, c)
    else if ch = '!' then s.fetchNode (readTagToken s.inFlow fuel)
    else if ch = '|' && !s.inFlow then s.fetchBlock fuel false
    else if ch = '>' && !s.inFlow then s.fetchBlock fuel true
    else if ch = quote then s.fetchQuoted fuel true
    else if ch = doubleQuote then s.fetchQuoted fuel false
    else if beginsPlain s.inFlow (ch :: rest) then s.fetchPlain fuel
    else none

/-- Reads the next token. -/
def fetch (fuel : Nat) (s : Scanner) : Option Scanner := do
  let s ← (toNextToken fuel s).dropStaleKeys
  (s.unroll s.cursor.column).fetchHere fuel

/-- Reads tokens up to the end of the text or the first fault.  A fault leaves the tokens that were
settled before. -/
def run : Nat → Scanner → List Token
  | 0, s => s.settled
  | fuel + 1, s =>
    match s.fetch (fuel + 1) with
    | none => s.settled
    | some next =>
      match next.tokens with
      | .streamEnd :: _ => next.tokens.reverse
      | _ => run fuel next

end Scanner

/-- The tokens of a text, up to its end or to the first fault. -/
def tokens (cs : List Char) : List Token := Scanner.run (cs.length + 2) (Scanner.start cs)

end HttpProbe.Yaml
