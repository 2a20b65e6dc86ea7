import ImageSearch.Configuration.Settings
import ImageSearch.Disk

set_option autoImplicit false

namespace ImageSearch

/-- The path of an entry of a folder; entries of the working folder go by their name alone. -/
def Path.entry (folder : Path) (name : String) : Path :=
  if folder.components = [.current] then ⟨name⟩ else folder.join ⟨name⟩

mutual

def Tree.contents (folder : Path) : Tree → List (Path × String × Tree)
  | .file _ => []
  | .folder entries => entriesBelow folder entries

def entriesBelow (folder : Path) : List (String × Tree) → List (Path × String × Tree)
  | [] => []
  | (name, t) :: rest =>
    (folder.entry name, name, t) :: (t.contents (folder.entry name) ++ entriesBelow folder rest)

end

namespace Disk

/-- Follows names from a path on, as long as they name something. -/
def follow (disk : Disk) : Path → List String → Option Path
  | path, [] => some path
  | path, name :: rest =>
    let next := path.entry name
    let found := if name = "." ∨ name = ".." then disk.isFolder path else disk.holds next
    if found then disk.follow next rest else none

def entries (disk : Disk) (path : Path) : List (String × Tree) :=
  match disk.find path with
  | .ok (.folder entries) => entries
  | _ => []

end Disk

def slashPieces (cs : List Char) : List String :=
  (Text.splitOnChar (· == '/') cs).map String.ofList

/-- Where the names of a path begin, and the names. An empty path means the root. -/
def Path.origin (p : Path) : Path × List String :=
  if p.text.isEmpty then (⟨"/"⟩, [])
  else if p.isRooted then (⟨"/"⟩, slashPieces (p.text.toList.drop 1))
  else (⟨"."⟩, slashPieces p.text.toList)

/-- The names that lead from a folder to an image folder; a slash at the end adds none. -/
def folderNames (folderName : String) : List String :=
  let pieces := slashPieces folderName.toList
  if pieces.getLast? = some "" then pieces.dropLast else pieces

/-- The path of an image folder whose first name is that of an entry. -/
def Disk.imageFolder? (disk : Disk) (names : List String) (entry : Path × String × Tree) :
    Option Path :=
  match names with
  | [] => some entry.1
  | first :: rest => if entry.2.1 = first then disk.follow entry.1 rest else none

def Disk.imageFoldersBelow (disk : Disk) (root : Path) (folderName : String) : List Path :=
  match disk.follow root.origin.1 root.origin.2 with
  | none => []
  | some base =>
    let entries := entriesBelow base (disk.entries base)
    ((entries.filterMap (disk.imageFolder? (folderNames folderName))).filter
      disk.isFolder).mergeSort Path.le

def Disk.imageFolders (disk : Disk) (scan : ScanSettings) : List Path :=
  scan.roots.flatMap fun root =>
    disk.imageFoldersBelow (scan.baseDir.join ⟨root⟩) scan.folderName

/-- An extension without dots in front, in lower case. -/
def plainExtension (extension : String) : List Char :=
  (extension.toList.dropWhile (· == '.')).map Char.toLower

def Path.hasExtension (p : Path) (extensions : List (List Char)) : Bool :=
  match p.extension? with
  | some e => extensions.contains (e.toList.map Char.toLower)
  | none => false

def Disk.imagesIn (disk : Disk) (extensions : List (List Char)) (folder : Path) : List Path :=
  let files := (disk.entries folder).filter (·.2.isFile)
  ((files.map fun entry => folder.join ⟨entry.1⟩).filter
    (·.hasExtension extensions)).mergeSort Path.le

def Disk.images (disk : Disk) (folders : List Path) (extensions : List String) : List Path :=
  folders.flatMap (disk.imagesIn (extensions.map plainExtension))

end ImageSearch
