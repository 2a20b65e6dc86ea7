import ImageSearch.Document.Basic
import ImageSearch.Query.Parse
import ImageSearch.Text.Cased

set_option autoImplicit false

namespace ImageSearch

open Json

namespace Query

/-- A word without an upper-case letter is looked up as it stands. -/
def hasWord (document : Document) (word : String) : Bool :=
  if word.toList.any Text.isUppercase then document.contains (Text.lowerString word)
  else document.contains word

namespace Node

def holds (document : Document) : Node → Bool
  | literal text | identifier text => hasWord document text
  | not argument => !argument.holds document
  | binary .and left right => left.holds document && right.holds document
  | binary .or left right => left.holds document || right.holds document

def toJson : Node → Value
  | literal text => .object [("type", .string "Literal"), ("value", .string text)]
  | identifier text => .object [("type", .string "Identifier"), ("name", .string text)]
  | not argument =>
    .object [("type", .string "UnaryExpression"), ("operator", .string "!"),
      ("argument", argument.toJson)]
  | binary op left right =>
    .object [("type", .string "BinaryExpression"), ("operator", .string op.symbol.toString),
      ("left", left.toJson), ("right", right.toJson)]

end Node

def selects (query : Query) (document : Document) : Bool := query.root.holds document

def filter (query : Query) (documents : List Document) : List Document :=
  documents.filter query.selects

end Query

/-- The documents that a query text selects. -/
def search (documents : List Document) (text : String) :
    Except Query.ParseError (List Document) := do
  return (← Query.parse text).filter documents

end ImageSearch
