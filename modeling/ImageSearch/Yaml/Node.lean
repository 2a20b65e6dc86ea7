set_option autoImplicit false

namespace ImageSearch.Yaml

/-- A plain scalar is one that is written without quotes. -/
inductive Node where
  | scalar (plain : Bool) (text : String)
  | sequence (items : List Node)
  | mapping (members : List (String × Node))
  deriving Repr

namespace Node

def empty : Node := .scalar true ""

def isEmpty : Node → Bool
  | .scalar _ text => text.isEmpty
  | _ => false

def isNull : Node → Bool
  | .scalar true text => text.isEmpty || ["~", "null", "Null", "NULL"].contains text
  | _ => false

/-- Scalars of any kind are texts. -/
def text? : Node → Option String
  | .scalar _ text => some text
  | _ => none

/-- Nothing counts as an empty list. -/
def items? (node : Node) : Option (List Node) :=
  match node with
  | .sequence items => some items
  | node => if node.isEmpty then some [] else none

end Node

end ImageSearch.Yaml
