import ImageSearch.Disk
import ImageSearch.Worker.Settings

set_option autoImplicit false

namespace ImageSearch.Worker

/-- Why a program at a path cannot be started: nothing on the disk but one program is executable. -/
def pathFault? (disk : Disk) (executable path : Path) : Option IoFault :=
  if path.same executable then none
  else
    match disk.find path with
    | .ok _ => some .permissionDenied
    | .error fault => some fault

def searchPlaces (searchPath name : String) : List Path :=
  (splitSearchPath searchPath.toList).map fun entry =>
    if entry.isEmpty then ⟨name⟩ else Path.join ⟨String.ofList entry⟩ ⟨name⟩

/-- A name without a slash is sought on the search path; a place that refuses is remembered. -/
def searchFault? (disk : Disk) (executable : Path) : IoFault → List Path → Option IoFault
  | worst, [] => some worst
  | worst, place :: rest =>
    match pathFault? disk executable place with
    | none => none
    | some .permissionDenied => searchFault? disk executable .permissionDenied rest
    | some _ => searchFault? disk executable worst rest

def Settings.launchFault? (s : Settings) (disk : Disk) (executable : Path)
    (inherited : Option String) : Option IoFault :=
  if s.program.text.isEmpty then some .notFound
  else if s.program.text.toList.contains '/' then pathFault? disk executable s.program
  else
    let path := (s.workerPath? inherited).getD "/bin:/usr/bin"
    searchFault? disk executable .notFound (searchPlaces path s.program.text)

end ImageSearch.Worker
