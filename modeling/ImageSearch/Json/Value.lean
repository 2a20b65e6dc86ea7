import ImageSearch.Text.Quoted

set_option autoImplicit false

namespace ImageSearch.Json

/-- Whole numbers of 64 bits are exact, all others doubles. -/
inductive Number where
  | int (n : Int)
  | float (x : Float)
  deriving Repr

inductive Value where
  | null
  | bool (b : Bool)
  | number (n : Number)
  | string (s : String)
  | array (items : List Value)
  | object (members : List (String × Value))
  deriving Repr

/-- Replaces the value of a key, or inserts the key in the order of code points. -/
def insertMember (key : String) (value : Value) :
    List (String × Value) → List (String × Value)
  | [] => [(key, value)]
  | (k, v) :: rest =>
    if key = k then (key, value) :: rest
    else if key < k then (key, value) :: (k, v) :: rest
    else (k, v) :: insertMember key value rest

/-- Members by ascending keys; the last of several values of one key stays. -/
def Value.ofMembers (members : List (String × Value)) : Value :=
  .object (members.foldl (fun sorted m => insertMember m.1 m.2 sorted) [])

def controlEscape (c : Char) : List Char :=
  ['\\', 'u', '0', '0', Nat.digitChar (c.toNat / 16), Nat.digitChar (c.toNat % 16)]

def escapeChar (c : Char) : List Char :=
  match c with
  | '"' => ['\\', '"']
  | '\\' => ['\\', '\\']
  | '\x08' => ['\\', 'b']
  | '\x0c' => ['\\', 'f']
  | '\n' => ['\\', 'n']
  | '\r' => ['\\', 'r']
  | '\t' => ['\\', 't']
  | c => if c.toNat < 32 then controlEscape c else [c]

def renderString (s : String) : List Char := '"' :: s.toList.flatMap escapeChar ++ ['"']

def joined (separator : List Char) : List (List Char) → List Char
  | [] => []
  | [piece] => piece
  | piece :: rest => piece ++ separator ++ joined separator rest

/-- Text of a whole number; doubles are not written by this program. -/
def Number.render : Number → List Char
  | .int n => (toString n).toList
  | .float _ => ['0']

def openBrace : Char := '\x7b'

def closeBrace : Char := '\x7d'

mutual

def Value.compact : Value → List Char
  | .null => ['n', 'u', 'l', 'l']
  | .bool true => ['t', 'r', 'u', 'e']
  | .bool false => ['f', 'a', 'l', 's', 'e']
  | .number n => n.render
  | .string s => renderString s
  | .array items => '[' :: joined [','] (compactItems items) ++ [']']
  | .object members => openBrace :: joined [','] (compactMembers members) ++ [closeBrace]

def compactItems : List Value → List (List Char)
  | [] => []
  | item :: rest => item.compact :: compactItems rest

def compactMembers : List (String × Value) → List (List Char)
  | [] => []
  | (key, value) :: rest =>
    (renderString key ++ ':' :: value.compact) :: compactMembers rest

end

def newline (level : Nat) : List Char := '\n' :: List.replicate (2 * level) ' '

/-- Brackets around pieces, each on a line of its own; empty brackets stay together. -/
def bracketed (opening closing : Char) (level : Nat) (pieces : List (List Char)) : List Char :=
  if pieces.isEmpty then [opening, closing]
  else
    opening :: newline (level + 1) ++ joined (',' :: newline (level + 1)) pieces
      ++ newline level ++ [closing]

mutual

/-- Indented by two spaces for each level. -/
def Value.pretty (level : Nat) : Value → List Char
  | .null => ['n', 'u', 'l', 'l']
  | .bool true => ['t', 'r', 'u', 'e']
  | .bool false => ['f', 'a', 'l', 's', 'e']
  | .number n => n.render
  | .string s => renderString s
  | .array items => bracketed '[' ']' level (prettyItems (level + 1) items)
  | .object members => bracketed openBrace closeBrace level (prettyMembers (level + 1) members)

def prettyItems (level : Nat) : List Value → List (List Char)
  | [] => []
  | item :: rest => item.pretty level :: prettyItems level rest

def prettyMembers (level : Nat) : List (String × Value) → List (List Char)
  | [] => []
  | (key, value) :: rest =>
    (renderString key ++ ':' :: ' ' :: value.pretty level) :: prettyMembers level rest

end

def Value.compactText (v : Value) : String := String.ofList v.compact

def Value.prettyText (v : Value) : String := String.ofList (v.pretty 0)

end ImageSearch.Json
