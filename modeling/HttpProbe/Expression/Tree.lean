/-
**Trees of expressions.**

Tokens are laid into a tree one by one.  A tree under construction is a stack: the outermost group
at the bottom, then whatever is open.  A new operator goes down the right edge of the tree as long
as it binds more tightly than what it meets, and takes the operand it finds there.

Main definitions:

* `Expression.Operator` — the operators, with their precedence and number of arguments;
* `Expression.Node` — a tree; its arguments are kept last one first;
* `Node.insert` — lays one more node into a tree;
* `Expression.parse` — the tree of a text.
-/

import HttpProbe.Expression.Token

set_option autoImplicit false
set_option relaxedAutoImplicit false

namespace HttpProbe.Expression

/-- What stands at a node of a tree. -/
inductive Operator where
  | group
  | negate
  | not
  | add
  | subtract
  | multiply
  | divide
  | modulo
  | power
  | equal
  | unequal
  | greater
  | less
  | atLeast
  | atMost
  | and
  | or
  | assign (simple : Bool)
  | tuple
  | chain
  | literal (v : Value)
  | target (name : String)
  | read (name : String)
  | call (name : String)

namespace Operator

/-- How tightly an operator binds. -/
def precedence : Operator → Nat
  | group => 200
  | literal _ => 200
  | target _ => 200
  | read _ => 200
  | call _ => 190
  | power => 120
  | negate => 110
  | not => 110
  | multiply => 100
  | divide => 100
  | modulo => 100
  | add => 95
  | subtract => 95
  | equal => 80
  | unequal => 80
  | greater => 80
  | less => 80
  | atLeast => 80
  | atMost => 80
  | and => 75
  | or => 70
  | assign _ => 50
  | tuple => 40
  | chain => 0

/-- How many arguments an operator has; a tuple and a chain have any number. -/
def arity : Operator → Option Nat
  | group => some 1
  | negate => some 1
  | not => some 1
  | call _ => some 1
  | literal _ => some 0
  | target _ => some 0
  | read _ => some 0
  | tuple => none
  | chain => none
  | _ => some 2

/-- Is it a group? -/
def isGroup : Operator → Bool
  | group => true
  | _ => false

/-- Is it a tuple or a chain? -/
def isSequence : Operator → Bool
  | tuple => true
  | chain => true
  | _ => false

/-- Are both tuples, or both chains? -/
def sameSequence : Operator → Operator → Bool
  | tuple, tuple => true
  | chain, chain => true
  | _, _ => false

/-- Does it take one argument and stand in front of it? -/
def isUnary (op : Operator) : Bool := op.arity = some 1 && !op.isGroup

/-- Does it group from the right? -/
def fromRight : Operator → Bool
  | assign simple => simple
  | call _ => true
  | _ => false

/-- May the second operator be laid below the first? -/
def admits (above below : Operator) : Bool :=
  above.precedence < below.precedence || below.isUnary ||
    (above.precedence = below.precedence && above.fromRight && below.fromRight)

end Operator

/-- A tree.  The arguments are kept last one first. -/
inductive Node where
  | mk (op : Operator) (args : List Node)

/-- The operator at the top of a tree. -/
def Node.op : Node → Operator
  | .mk op _ => op

/-- The arguments at the top of a tree, last one first. -/
def Node.args : Node → List Node
  | .mk _ args => args

/-- A group with nothing in it. -/
def Node.blank : Node := .mk .group []

/-- One more argument. -/
def Node.push (node arg : Node) : Node := .mk node.op (arg :: node.args)

/-- Takes the last argument `last` of an operator into a new node that stands in its place. -/
def takeOver (op : Operator) (earlier : List Node) (last node : Node) : Except Fault (List Node) :=
  if node.op.arity = some 0 then .error .appendedToLeaf
  else if op.isGroup && (!earlier.isEmpty || node.op.isGroup) then .error .missingOperator
  else if node.op.isGroup && (!node.args.isEmpty || last.op.isGroup) then .error .missingOperator
  else .ok (node.push last :: earlier)

mutual
/-- Lays a node into a tree, at the end of its right edge or as far down as it may go. -/
def Node.insert (outermost : Bool) (node : Node) : Node → Except Fault Node
  | .mk op args =>
    if op.admits node.op || outermost then
      if op.arity = some 0 then .error .appendedToLeaf
      else if some args.length = op.arity then (Node.insertLast op node args).map (.mk op)
      else .ok (.mk op (node :: args))
    else .error .precedence

/-- Lays a node into the last of the arguments of an operator, or in its place. -/
def Node.insertLast (op : Operator) (node : Node) : List Node → Except Fault (List Node)
  | [] => .ok [node]
  | last :: earlier =>
    if last.op.admits node.op then (Node.insert false node last).map fun last => last :: earlier
    else takeOver op earlier last node
end

/-! ### Laying tokens -/

/-- Closes what is open above the first node of a stack that binds no more tightly than
`precedence`, and gives it to the node below, one after the other. -/
def foldDown (precedence : Nat) (top : Node) : List Node → Except Fault (Node × List Node)
  | [] => .error .closedParenthesis
  | higher :: below =>
    if higher.op.precedence > precedence then foldDown precedence (higher.push top) below
    else .ok (top, higher :: below)

/-- Lays a node on a stack. -/
def place (node : Node) : List Node → Except Fault (List Node)
  | [] => .error .closedParenthesis
  | top :: below =>
    if node.op.isSequence then
      if top.op.sameSequence node.op then .ok (top.push .blank :: below)
      else if top.op.isGroup then .ok (.mk node.op [.blank, top] :: .blank :: below)
      else if top.op.precedence < node.op.precedence then
        match top.args with
        | last :: earlier => .ok (.mk node.op [.blank, last] :: .mk top.op earlier :: below)
        | [] => .ok (.mk node.op [.blank] :: top :: below)
      else do
        let (folded, below) ← foldDown node.op.precedence top below
        .ok (.mk node.op [folded] :: below)
    else if top.op.isSequence then
      match top.args with
      | last :: earlier =>
        (Node.insert true node last).map fun last => .mk top.op (last :: earlier) :: below
      | [] => .ok (.mk top.op [node] :: below)
    else (Node.insert true node top).map fun top => top :: below

/-- A stack with a group on top, which may hold one operand. -/
def settled (group : Node) (below : List Node) : Except Fault (List Node) :=
  if 1 < group.args.length then .error .missingOperator else .ok (group :: below)

/-- Ends the tuples and chains at the top of a stack, down to the group they stand in. -/
def settle (top : Node) : List Node → Except Fault (List Node)
  | [] => if top.op.isGroup then settled top [] else .error .closedParenthesis
  | higher :: below =>
    if top.op.isGroup then settled top (higher :: below) else settle (higher.push top) below

/-- Ends the tuples and chains at the top of a stack. -/
def settleStack : List Node → Except Fault (List Node)
  | [] => .error .closedParenthesis
  | top :: below => settle top below

/-- The operator of a token.  A minus sign after an operand subtracts; a name is assigned to, called
or read by what follows it. -/
def operatorOf (afterOperand : Bool) (next : Option Token) : Token → Operator
  | .plus => .add
  | .minus => if afterOperand then .subtract else .negate
  | .star => .multiply
  | .slash => .divide
  | .percent => .modulo
  | .hat => .power
  | .equal => .equal
  | .unequal => .unequal
  | .greater => .greater
  | .less => .less
  | .atLeast => .atLeast
  | .atMost => .atMost
  | .and => .and
  | .or => .or
  | .not => .not
  | .opening => .group
  | .closing => .group
  | .comma => .tuple
  | .semicolon => .chain
  | .assign simple => .assign simple
  | .name s =>
    if next.any Token.isAssign then .target s
    else if next.any Token.startsOperand then .call s
    else .read s
  | .text s => .literal (.text s)
  | .int n => .literal (.int n)
  | .float x => .literal (.float x)
  | .bool b => .literal (.bool b)

/-- Ends a group, and lays it on the stack below. -/
def closeGroup : List Node → Except Fault (List Node)
  | [] => .error .closedParenthesis
  | [_] => .error .closedParenthesis
  | stack => do
    match ← settleStack stack with
    | inner :: below => place inner below
    | [] => .error .closedParenthesis

/-- Lays one token on a stack. -/
def layToken (t : Token) (afterOperand : Bool) (next : Option Token) (stack : List Node) :
    Except Fault (List Node) :=
  match t with
  | .opening => .ok (.blank :: stack)
  | .closing => closeGroup stack
  | t => place (.mk (operatorOf afterOperand next t) []) stack

/-- Lays tokens on a stack, one after the other. -/
def layTokens : List Token → Bool → List Node → Except Fault (List Node)
  | [], _, stack => .ok stack
  | t :: rest, afterOperand, stack => do
    let stack ← layToken t afterOperand rest.head? stack
    layTokens rest t.endsOperand stack

/-- The tree of a list of tokens. -/
def treeOf (ts : List Token) : Except Fault Node := do
  let stack ← layTokens ts false [.blank]
  match ← settleStack stack with
  | [root] => .ok root
  | [] => .error .closedParenthesis
  | _ => .error .openParenthesis

/-- The tree of a text. -/
def parse (s : String) : Except Fault Node := do
  let ts ← tokens s
  treeOf ts

end HttpProbe.Expression
