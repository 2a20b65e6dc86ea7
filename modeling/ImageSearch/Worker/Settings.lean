import ImageSearch.Duration
import ImageSearch.Environment
import ImageSearch.Path

set_option autoImplicit false

namespace ImageSearch.Worker

open Text

structure Settings where
  program : Path
  args : List String
  /-- Folders that come before the inherited search path. -/
  searchPaths : List Path
  /-- Variables of the worker, each name once. -/
  environment : Environment
  timeout : Option Duration
  deriving Repr, DecidableEq

/-- The entries of a search path; an empty text is one empty entry. -/
def splitSearchPath (cs : List Char) : List (List Char) := splitOnChar (· == ':') cs

def joinSearchPath (entries : List (List Char)) : List Char := List.intercalate [':'] entries

def inheritedEntries : Option String → List (List Char)
  | some path => splitSearchPath path.toList
  | none => []

namespace Settings

/-- The search path made of the worker's own folders and then the inherited entries. There is none
without folders of its own, nor when the name of one holds the separator. -/
def searchPath? (s : Settings) (inherited : Option String) : Option String :=
  let own := s.searchPaths.map (·.text.toList)
  if own.isEmpty || own.any (·.contains ':') then none
  else some (String.ofList (joinSearchPath (own ++ inheritedEntries inherited)))

/-- The search path that the worker is started with: its own variable goes before the one that is
made, and that before the inherited one. -/
def workerPath? (s : Settings) (inherited : Option String) : Option String :=
  (s.environment.get? "PATH").or ((s.searchPath? inherited).or inherited)

end Settings

end ImageSearch.Worker
