import ImageSearch.Path

set_option autoImplicit false

namespace ImageSearch

inductive IoFault where
  | notFound
  | permissionDenied
  | alreadyExists
  | notADirectory
  | isADirectory
  | invalidData
  | invalidInput
  deriving Repr, DecidableEq

def IoFault.kind : IoFault → String
  | .notFound => "NotFound"
  | .permissionDenied => "PermissionDenied"
  | .alreadyExists => "AlreadyExists"
  | .notADirectory => "NotADirectory"
  | .isADirectory => "IsADirectory"
  | .invalidData => "InvalidData"
  | .invalidInput => "InvalidInput"

def IoFault.systemText : IoFault → String
  | .notFound => "No such file or directory (os error 2)"
  | .permissionDenied => "Permission denied (os error 13)"
  | .alreadyExists => "File exists (os error 17)"
  | .notADirectory => "Not a directory (os error 20)"
  | .isADirectory => "Is a directory (os error 21)"
  | .invalidData => "stream did not contain valid UTF-8"
  | .invalidInput => "file name contained an unexpected NUL byte"

/-- What a file holds; `raw` bytes are no text. -/
inductive Content where
  | text (s : String)
  | raw (bytes : List Nat)
  deriving Repr, DecidableEq

inductive Tree where
  | file (content : Content)
  | folder (entries : List (String × Tree))
  deriving Repr

namespace Tree

def isFolder : Tree → Bool
  | folder _ => true
  | file _ => false

def isFile (t : Tree) : Bool := !t.isFolder

def child? (t : Tree) (name : String) : Option Tree :=
  match t with
  | folder entries => (entries.find? (·.1 == name)).map (·.2)
  | file _ => none

def putEntry (name : String) (t : Tree) : List (String × Tree) → List (String × Tree)
  | [] => [(name, t)]
  | (n, old) :: rest =>
    if name = n then (name, t) :: rest
    else if name < n then (name, t) :: (n, old) :: rest
    else (n, old) :: putEntry name t rest

def at? (t : Tree) : List String → Option Tree
  | [] => some t
  | name :: rest => (t.child? name).bind (·.at? rest)

/-- Puts a subtree at a list of names; folders on the way are made where they are missing. -/
def put (t : Tree) (new : Tree) : List String → Tree
  | [] => new
  | name :: rest =>
    match t with
    | folder entries =>
      folder (putEntry name (put ((child? (folder entries) name).getD (folder [])) new rest) entries)
    | file content => file content

mutual

def files (place : List String) : Tree → List (List String × Content)
  | file content => [(place, content)]
  | folder entries => entryFiles place entries

def entryFiles (place : List String) : List (String × Tree) → List (List String × Content)
  | [] => []
  | (name, t) :: rest => t.files (place ++ [name]) ++ entryFiles place rest

end

end Tree

/-- All files, and the folder that paths without root begin at. There are no links, so every place
has one absolute name. -/
structure Disk where
  root : Tree
  workingFolder : List String
  deriving Repr

namespace Disk

/-- The path ends in a separator or a dot, so that it can only mean a folder. -/
def wantsFolder (p : Path) : Bool :=
  match p.segments.getLast? with
  | some [] => !p.text.isEmpty
  | some ['.'] => true
  | some ['.', '.'] => true
  | _ => false

/-- One step of a walk over existing folders. -/
def step (d : Disk) (place : List String) (c : Path.Component) : Except IoFault (List String) :=
  match c with
  | .root => .ok []
  | .current => .ok place
  | .parent => .ok place.dropLast
  | .name text =>
    match d.root.at? place with
    | none => .error .notFound
    | some (.file _) => .error .notADirectory
    | some (.folder _) => .ok (place ++ [String.ofList text])

/-- The steps of a walk; every place that is left must be a folder. -/
def walk (d : Disk) (place : List String) : List Path.Component → Except IoFault (List String)
  | [] => .ok place
  | c :: rest => do
    let next ← d.step place c
    match c, rest with
    | .name _, .parent :: _ =>
      match d.root.at? next with
      | none => throw .notFound
      | some (.file _) => throw .notADirectory
      | some (.folder _) => d.walk next rest
    | _, _ => d.walk next rest

/-- The absolute names of a path; its last component need not exist. -/
def locate (d : Disk) (p : Path) : Except IoFault (List String) :=
  if p.text.isEmpty then .error .notFound
  else if p.text.toList.contains '\x00' then .error .invalidInput
  else d.walk d.workingFolder p.components

def find (d : Disk) (p : Path) : Except IoFault Tree := do
  let place ← d.locate p
  match d.root.at? place with
  | none => throw .notFound
  | some (.file content) => if wantsFolder p then throw .notADirectory else return .file content
  | some (.folder entries) => return .folder entries

def holds (d : Disk) (p : Path) : Bool := (d.find p).isOk

def isFolder (d : Disk) (p : Path) : Bool :=
  match d.find p with
  | .ok t => t.isFolder
  | .error _ => false

def readText (d : Disk) (p : Path) : Except IoFault String := do
  match ← d.find p with
  | .folder _ => throw .isADirectory
  | .file (.raw _) => throw .invalidData
  | .file (.text s) => return s

/-- Replaces or creates a file in an existing folder. -/
def writeText (d : Disk) (p : Path) (s : String) : Except IoFault Disk := do
  let place ← d.locate p
  match d.root.at? place with
  | some (.folder _) => throw .isADirectory
  | some (.file _) => if wantsFolder p then throw .notADirectory
  | none => if wantsFolder p then throw .isADirectory
  return { d with root := d.root.put (.file (.text s)) place }

def makeFolder (d : Disk) (p : Path) : Except IoFault Disk := do
  let place ← d.locate p
  match d.root.at? place with
  | some _ => throw .alreadyExists
  | none => return { d with root := d.root.put (.folder []) place }

/-- Creates a folder, and the folders around it where they are missing, at most `fuel` of them. -/
def makeFoldersWithin (d : Disk) : Nat → Path → Except IoFault Disk
  | 0, _ => .error .notFound
  | fuel + 1, p =>
    if p.text.isEmpty then .ok d
    else
      match d.makeFolder p with
      | .ok made => .ok made
      | .error .notFound => do
        let parent ← match p.parent? with
          | some parent => pure parent
          | none => throw .notFound
        let below ← d.makeFoldersWithin fuel parent
        match below.makeFolder p with
        | .ok made => return made
        | .error fault => if below.isFolder p then return below else throw fault
      | .error fault => if d.isFolder p then .ok d else .error fault

def makeFolders (d : Disk) (p : Path) : Except IoFault Disk :=
  d.makeFoldersWithin (p.components.length + 1) p

def filesBelow (d : Disk) (place : List String) : List (List String × Content) :=
  match d.root.at? place with
  | some t => t.files []
  | none => []

/-- The files below a place that an older disk does not hold with the same content. -/
def changedBelow (d older : Disk) (place : List String) : List (List String × Content) :=
  let known := older.filesBelow place
  (d.filesBelow place).filter (!known.contains ·)

end Disk

end ImageSearch
