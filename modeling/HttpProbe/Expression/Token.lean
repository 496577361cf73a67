/-
**Tokens of expressions.**

A text is first cut into pieces: words, blanks, signs, parentheses and texts between quotes.
Comments leave no trace, not even between two halves of a word.  Pieces then join to tokens: two or
three signs to an operator, a word with a sign and a word to a number such as `1e-3`.

Main definitions:

* `Expression.Piece`, `Expression.pieces` — the pieces of a text;
* `Expression.Token`, `Expression.tokens` — the tokens of a list of pieces.
-/

import HttpProbe.Expression.Fault
import HttpProbe.Text.Blank
import HttpProbe.Decimal.Reading

set_option autoImplicit false
set_option relaxedAutoImplicit false

namespace HttpProbe.Expression

-- Powers are those of the core library, also where Mathlib is in scope.  A literal exponent needs its
-- type for that.
attribute [local instance (1100)] instPowNat

/-- A token.  An assignment is simple, or combined with an operator. -/
inductive Token where
  | plus
  | minus
  | star
  | slash
  | percent
  | hat
  | equal
  | unequal
  | greater
  | less
  | atLeast
  | atMost
  | and
  | or
  | not
  | opening
  | closing
  | comma
  | semicolon
  | assign (simple : Bool)
  | name (s : String)
  | text (s : String)
  | int (n : Int64)
  | float (x : Float)
  | bool (b : Bool)

/-! ### Pieces -/

/-- A piece of a text. -/
inductive Piece where
  | word (s : String)
  | quote (s : String)
  | blank
  | sign (c : Char)
  | mark (c : Char)
  deriving DecidableEq, Repr

/-- The text of a piece in messages. -/
def Piece.shown : Piece → String
  | .word s => s
  | .quote s => Text.quoted s
  | .blank => " "
  | .sign c => c.toString
  | .mark c => c.toString

/-- A character that signs are made of. -/
def isSign (c : Char) : Bool :=
  ['+', '-', '*', '/', '%', '^', '=', '!', '>', '<', '&', '|'].contains c

/-- A character that is a token by itself. -/
def isMark (c : Char) : Bool := ['(', ')', ',', ';'].contains c

/-- Where the cutting of a text stands. -/
inductive Scan where
  | plain
  | slash
  | quote (acc : List Char)
  | escape (acc : List Char)
  | lineComment
  | comment
  | commentStar

/-- Appends a piece; two words in a row are one.  The list has the last piece first. -/
def pushPiece (p : Piece) : List Piece → List Piece
  | .word s :: out =>
    match p with
    | .word t => .word (s ++ t) :: out
    | p => p :: .word s :: out
  | out => p :: out

/-- The piece that a character outside quotes and comments is. -/
def pieceOf (c : Char) : Piece :=
  if isSign c then .sign c
  else if isMark c then .mark c
  else if Text.isBlank c then .blank
  else .word c.toString

/-- A character outside quotes and comments. -/
def scanPlain (c : Char) (out : List Piece) : Scan × List Piece :=
  if c = Text.quoteMark then (.quote [], out)
  else if c = '/' then (.slash, out)
  else (.plain, pushPiece (pieceOf c) out)

/-- One character of a text. -/
def scanStep (c : Char) : Scan → List Piece → Except Fault (Scan × List Piece)
  | .plain, out => .ok (scanPlain c out)
  | .slash, out =>
    if c = '/' then .ok (.lineComment, out)
    else if c = '*' then .ok (.comment, out)
    else .ok (scanPlain c (.sign '/' :: out))
  | .quote acc, out =>
    if c = Text.quoteMark then .ok (.plain, .quote (String.ofList acc.reverse) :: out)
    else if c = Text.backslash then .ok (.escape acc, out)
    else .ok (.quote (c :: acc), out)
  | .escape acc, out =>
    if c = Text.quoteMark || c = Text.backslash then .ok (.quote (c :: acc), out)
    else .error (.badEscape (String.ofList [Text.backslash, c]))
  | .lineComment, out => .ok (if c = '\n' then .plain else .lineComment, out)
  | .comment, out => .ok (if c = '*' then .commentStar else .comment, out)
  | .commentStar, out =>
    .ok (if c = '/' then .plain else if c = '*' then .commentStar else .comment, out)

/-- The pieces once the text has ended, last one first. -/
def scanEnd : Scan → List Piece → Except Fault (List Piece)
  | .plain, out => .ok out
  | .slash, out => .ok (.sign '/' :: out)
  | .quote _, _ => .error .openQuote
  | .escape _, _ => .error (.badEscape (String.ofList [Text.backslash]))
  | .lineComment, out => .ok out
  | .comment, _ => .error .openComment
  | .commentStar, _ => .error .openComment

/-- The pieces of a list of characters, last one first. -/
def scan : List Char → Scan → List Piece → Except Fault (List Piece)
  | [], s, out => scanEnd s out
  | c :: cs, s, out => do
    let (s, out) ← scanStep c s out
    scan cs s out

/-- The pieces of a text. -/
def pieces (s : String) : Except Fault (List Piece) :=
  (scan s.toList .plain []).map List.reverse

/-! ### Tokens -/

/-- The least and the greatest integer. -/
def intBounds : Int × Int := (-2 ^ (63 : Nat), 2 ^ (63 : Nat) - 1)

/-- The integer that a word is: decimal, or hexadecimal after `0x`. -/
def wordInt? (cs : List Char) : Option Int64 :=
  let value := match cs with
    | '0' :: 'x' :: digits => Decimal.readInt? 16 intBounds.1 intBounds.2 digits
    | _ => Decimal.readInt? 10 intBounds.1 intBounds.2 cs
  value.map Int64.ofInt

/-- The value that a word is by itself. -/
def wordValue? (s : String) : Option Token :=
  match wordInt? s.toList with
  | some n => some (.int n)
  | none => match Decimal.readFloat? s.toList with
    | some x => some (.float x)
    | none =>
      if s = "true" then some (.bool true)
      else if s = "false" then some (.bool false)
      else none

/-- The number that a word, a sign and a word are together. -/
def joinedNumber? (s : String) : List Piece → Option Float
  | .sign c :: .word t :: _ =>
    if c = '+' || c = '-' then Decimal.readFloat? (s.toList ++ c :: t.toList) else none
  | _ => none

/-- Is the next piece an equals sign? -/
def equalsNext : List Piece → Bool
  | .sign c :: _ => c = '='
  | _ => false

/-- A doubled sign: an operator, or an assignment if an equals sign follows. -/
def doubledSign (c : Char) (op : Token) (rest : List Piece) : Except Fault (Option Token × Nat) :=
  match rest with
  | .sign d :: more =>
    if d = c then (if equalsNext more then .ok (some (.assign false), 2) else .ok (some op, 1))
    else .error (.loneSymbol c.toString (some d.toString))
  | p :: _ => .error (.loneSymbol c.toString (some p.shown))
  | [] => .error (.loneSymbol c.toString none)

/-- The token that starts with a sign, and how many pieces more it takes. -/
def signToken (c : Char) (rest : List Piece) : Except Fault (Option Token × Nat) :=
  let withEquals (joined single : Token) : Except Fault (Option Token × Nat) :=
    if equalsNext rest then .ok (some joined, 1) else .ok (some single, 0)
  match c with
  | '+' => withEquals (.assign false) .plus
  | '-' => withEquals (.assign false) .minus
  | '*' => withEquals (.assign false) .star
  | '/' => withEquals (.assign false) .slash
  | '%' => withEquals (.assign false) .percent
  | '^' => withEquals (.assign false) .hat
  | '=' => withEquals .equal (.assign true)
  | '!' => withEquals .unequal .not
  | '>' => withEquals .atLeast .greater
  | '<' => withEquals .atMost .less
  | '&' => doubledSign c .and rest
  | _ => doubledSign c .or rest

/-- The token that starts with a piece, if it leaves one, and how many pieces more it takes. -/
def readToken (p : Piece) (rest : List Piece) : Except Fault (Option Token × Nat) :=
  match p with
  | .blank => .ok (none, 0)
  | .quote s => .ok (some (.text s), 0)
  | .mark c =>
    .ok (some (if c = '(' then .opening else if c = ')' then .closing
      else if c = ',' then .comma else .semicolon), 0)
  | .sign c => signToken c rest
  | .word s =>
    match wordValue? s with
    | some t => .ok (some t, 0)
    | none => match joinedNumber? s rest with
      | some x => .ok (some (.float x), 2)
      | none => .ok (some (.name s), 0)

/-- The tokens of a list of pieces, of which the first `skip` are already taken. -/
def joinPieces : Nat → List Piece → Except Fault (List Token)
  | _, [] => .ok []
  | skip + 1, _ :: rest => joinPieces skip rest
  | 0, p :: rest => do
    let (token, taken) ← readToken p rest
    let more ← joinPieces taken rest
    .ok (token.toList ++ more)

/-- The tokens of a text. -/
def tokens (s : String) : Except Fault (List Token) := do
  let ps ← pieces s
  joinPieces 0 ps

/-- Can an operand end with this token? -/
def Token.endsOperand : Token → Bool
  | .closing => true
  | .name _ => true
  | .text _ => true
  | .int _ => true
  | .float _ => true
  | .bool _ => true
  | _ => false

/-- Can an operand start with this token? -/
def Token.startsOperand : Token → Bool
  | .opening => true
  | .name _ => true
  | .text _ => true
  | .int _ => true
  | .float _ => true
  | .bool _ => true
  | _ => false

/-- Is the token an assignment? -/
def Token.isAssign : Token → Bool
  | .assign _ => true
  | _ => false

end HttpProbe.Expression
