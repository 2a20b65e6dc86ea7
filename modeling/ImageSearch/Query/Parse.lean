import ImageSearch.Query.Node

set_option autoImplicit false

namespace ImageSearch.Query

open ImageSearch.Text

/-- The limit on the height of a tree and on the number of negations and parentheses around a
word. -/
def maxNesting : Nat := 256

structure Operand where
  node : Node
  height : Nat
  deriving Repr, DecidableEq

structure Waiting where
  left : Operand
  position : Nat
  deriving Repr, DecidableEq

/-- What waits inside one pair of parentheses: the operands left of an or and of an and, and the
places of the negations of the next operand, nearest first. -/
structure Frame where
  orLeft : Option Waiting
  andLeft : Option Waiting
  negations : List Nat
  deriving Repr, DecidableEq

def Frame.empty : Frame := ⟨none, none, []⟩

/-- The parser takes one token at a time. `outer` holds the place of each open parenthesis with the
frame around it, innermost first. -/
structure Progress where
  operand : Option Operand
  frame : Frame
  outer : List (Nat × Frame)
  deriving Repr, DecidableEq

def Progress.start : Progress := ⟨none, .empty, []⟩

def Progress.depth (p : Progress) : Nat :=
  p.frame.negations.length + p.outer.foldr (fun o n => o.2.negations.length + 1 + n) 0

def grow (height position : Nat) : Except ParseError Nat :=
  if maxNesting ≤ height then .error ⟨.tooDeep, position⟩ else .ok (height + 1)

def Operand.negate (x : Operand) (position : Nat) : Except ParseError Operand := do
  return ⟨.not x.node, ← grow x.height position⟩

def Operand.join (op : BinaryOp) (waiting : Option Waiting) (right : Operand) :
    Except ParseError Operand :=
  match waiting with
  | none => .ok right
  | some w => do
    return ⟨.binary op w.left.node right.node, ← grow (max w.left.height right.height) w.position⟩

/-- Numbers and quoted text are literals. -/
def leaf? : Token → Option Node
  | .word text => some (if text.toList.all Char.isDigit then .literal text else .identifier text)
  | .quoted text => some (.literal text)
  | _ => none

/-- Takes a word or a parenthesised tree: its negations apply, then a waiting and. -/
def Progress.complete (p : Progress) (x : Operand) : Except ParseError Progress := do
  let negated ← p.frame.negations.foldlM Operand.negate x
  let joined ← Operand.join .and p.frame.andLeft negated
  return { p with operand := some joined, frame := ⟨p.frame.orLeft, none, []⟩ }

def Progress.accept (p : Progress) (position : Nat) : Except ParseError Unit :=
  if maxNesting ≤ p.depth then .error ⟨.tooDeep, position⟩ else .ok ()

/-- Where an operand is due. -/
def Progress.takeOperand (p : Progress) (t : Placed) : Except ParseError Progress :=
  match leaf? t.token with
  | some node => p.complete ⟨node, 1⟩
  | none =>
    match t.token with
    | .not => do
      p.accept t.position
      return { p with frame := { p.frame with negations := t.position :: p.frame.negations } }
    | .opening => do
      p.accept t.position
      return { p with frame := .empty, outer := (t.position, p.frame) :: p.outer }
    | other => .error ⟨.expectedOperand other, t.position⟩

/-- Where an operator or a closing parenthesis is due after the operand `x`. -/
def Progress.takeOperator (p : Progress) (x : Operand) (t : Placed) :
    Except ParseError Progress :=
  match t.token with
  | .and => .ok { p with operand := none, frame := { p.frame with andLeft := some ⟨x, t.position⟩ } }
  | token => do
    let whole ← Operand.join .or p.frame.orLeft x
    match token, p.outer with
    | .or, _ => return { p with operand := none, frame := ⟨some ⟨whole, t.position⟩, none, []⟩ }
    | .closing, [] => throw ⟨.unmatchedClosing, t.position⟩
    | .closing, (_, frame) :: outer => Progress.complete ⟨none, frame, outer⟩ whole
    | other, [] => throw ⟨.unexpectedToken other, t.position⟩
    | _, (openedAt, _) :: _ => throw ⟨.missingClosing openedAt, t.position⟩

def Progress.take (p : Progress) (t : Placed) : Except ParseError Progress :=
  match p.operand with
  | none => p.takeOperand t
  | some x => p.takeOperator x t

def Progress.finish (p : Progress) (textEnd : Nat) : Except ParseError Operand :=
  match p.operand with
  | none => .error ⟨.unexpectedEnd, textEnd⟩
  | some x => do
    let whole ← Operand.join .or p.frame.orLeft x
    match p.outer with
    | [] => return whole
    | (openedAt, _) :: _ => throw ⟨.missingClosing openedAt, textEnd⟩

def parseTokens (tokens : List Placed) (textEnd : Nat) : Except ParseError Node :=
  if tokens.isEmpty then .error ⟨.emptyQuery, 0⟩
  else do
    let progress ← tokens.foldlM Progress.take Progress.start
    return (← progress.finish textEnd).node

def parseText (text : String) : Except ParseError Node := do
  parseTokens (← scan text.toList) (textSize text.toList)

end ImageSearch.Query

namespace ImageSearch

open Query

structure Query where
  source : String
  root : Node
  deriving Repr, DecidableEq

/-- Letter case is removed before a query is read. -/
def Query.parse (source : String) : Except ParseError Query := do
  return ⟨source, ← parseText (Text.lowerString source)⟩

def Query.toText (query : Query) : String := query.root.toText

end ImageSearch
