import ImageSearch.Query.Token
import ImageSearch.Text.Lower

set_option autoImplicit false

namespace ImageSearch.Query

open ImageSearch.Text

inductive BinaryOp where
  | and
  | or
  deriving Repr, DecidableEq

def BinaryOp.symbol : BinaryOp → Char
  | .and => '&'
  | .or => '|'

/-- Leaves test for a word. A literal is a quoted or numeric word, an identifier any other bare
word; both match alike. -/
inductive Node where
  | literal (text : String)
  | identifier (text : String)
  | not (argument : Node)
  | binary (op : BinaryOp) (left right : Node)
  deriving Repr, DecidableEq

namespace Node

def foldedLiteral (text : String) : Node := .literal (lowerString text)

def foldedIdentifier (text : String) : Node := .identifier (lowerString text)

/-- A leaf has height one. -/
def height : Node → Nat
  | literal _ | identifier _ => 1
  | not argument => argument.height + 1
  | binary _ left right => max left.height right.height + 1

def words : Node → List String
  | literal text | identifier text => [text]
  | not argument => argument.words
  | binary _ left right => left.words ++ right.words

/-- Double quotes unless the text holds one. -/
def renderQuoted (text : List Char) : List Char :=
  if '"' ∈ text then '\'' :: text ++ ['\''] else '"' :: text ++ ['"']

def render : Node → List Char
  | literal text => renderQuoted text.toList
  | identifier text => text.toList
  | not argument => '!' :: argument.render
  | binary op left right =>
    '(' :: left.render ++ ' ' :: op.symbol :: ' ' :: right.render ++ [')']

/-- The canonical text of a tree. -/
def toText (node : Node) : String := String.ofList node.render

end Node

end ImageSearch.Query
