import ImageSearch.Text.Split

set_option autoImplicit false

namespace ImageSearch

/-- A path keeps its text as it was given. Equality of places, order and prefixes go by components,
which ignore repeated separators and dots in the middle. -/
structure Path where
  text : String
  deriving Repr, DecidableEq

namespace Path

inductive Component where
  | root
  | current
  | parent
  | name (text : List Char)
  deriving Repr, DecidableEq

def isRooted (p : Path) : Bool := p.text.toList.head? == some '/'

def segments (p : Path) : List (List Char) :=
  Text.splitOnChar (· == '/') (if p.isRooted then p.text.toList.drop 1 else p.text.toList)

/-- Empty segments and dots name nothing. -/
def component? : List Char → Option Component
  | [] => none
  | ['.'] => none
  | ['.', '.'] => some .parent
  | text => some (.name text)

/-- A leading dot of a path without root counts. -/
def leading? (rooted : Bool) (segment : List Char) : Option Component :=
  if !rooted && segment = ['.'] then some .current else component? segment

def marked (p : Path) : List (Option Component) :=
  match p.segments with
  | [] => []
  | first :: rest => leading? p.isRooted first :: rest.map component?

def components (p : Path) : List Component :=
  (if p.isRooted then [.root] else []) ++ p.marked.filterMap id

/-- The names that a path stands for when it is read from a place. -/
def namesFrom (place : List String) (p : Path) : List String :=
  p.components.foldl (fun names c =>
    match c with
    | .root => []
    | .current => names
    | .parent => names.dropLast
    | .name text => names ++ [String.ofList text]) place

def same (p q : Path) : Bool := p.components == q.components

def Component.rank : Component → Nat
  | .root => 0
  | .current => 1
  | .parent => 2
  | .name _ => 3

/-- Root, dot, parent, then names by code points. -/
def Component.le : Component → Component → Bool
  | .name a, .name b => decide (String.ofList a ≤ String.ofList b)
  | a, b => a.rank ≤ b.rank

def componentsLe : List Component → List Component → Bool
  | [], _ => true
  | _ :: _, [] => false
  | a :: as, b :: bs => if a = b then componentsLe as bs else a.le b

def le (p q : Path) : Bool := componentsLe p.components q.components

def ofSegments (rooted : Bool) (segments : List (List Char)) : Path :=
  ⟨String.ofList ((if rooted then ['/'] else []) ++ List.intercalate ['/'] segments)⟩

/-- Segments with their meaning, without those at the end that name nothing. -/
def dropIdle (entries : List (List Char × Option Component)) :
    List (List Char × Option Component) :=
  (entries.reverse.dropWhile (·.2.isNone)).reverse

def parent? (p : Path) : Option Path :=
  match (dropIdle (p.segments.zip p.marked)).reverse with
  | [] => none
  | _ :: before => some (ofSegments p.isRooted ((dropIdle before.reverse).map (·.1)))

def fileName? (p : Path) : Option String :=
  match p.components.getLast? with
  | some (.name text) => some (String.ofList text)
  | _ => none

/-- What follows the last dot of the file name, unless the dot comes first. -/
def extension? (p : Path) : Option String := do
  let name := (← p.fileName?).toList
  let tail := name.reverse.takeWhile (· != '.')
  if tail.length + 1 < name.length then some (String.ofList tail.reverse) else none

/-- `q` below `p`, or `q` itself when it has a root. -/
def join (p q : Path) : Path :=
  if q.isRooted then q
  else if p.text.isEmpty || p.text.toList.getLast? == some '/' then ⟨p.text ++ q.text⟩
  else ⟨p.text ++ "/" ++ q.text⟩

/-- What is left of a path without root whose first component is `name`. -/
def below? (name : String) (p : Path) : Option Path :=
  match p.segments.zip p.marked with
  | (_, some (.name text)) :: rest =>
    if !p.isRooted && text = name.toList then
      some (ofSegments false ((dropIdle (rest.dropWhile (·.2.isNone))).map (·.1)))
    else none
  | _ => none

end Path

end ImageSearch
