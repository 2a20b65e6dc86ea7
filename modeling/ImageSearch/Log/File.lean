import ImageSearch.Disk

set_option autoImplicit false

namespace ImageSearch.Log

def fileName (day : String) : Path := ⟨"ocrgrep.log." ++ day⟩

/-- Opens the log file of a day; the folder is made where it is missing, and an older file stays. -/
def openFile (disk : Disk) (folder : Path) (day : String) : Except IoFault Disk :=
  let path := folder.join (fileName day)
  match disk.find path with
  | .ok (.file _) => .ok disk
  | .ok (.folder _) => .error .isADirectory
  | .error _ =>
    match disk.writeText path "" with
    | .ok disk => .ok disk
    | .error fault =>
      match path.parent? with
      | some parent => do (← disk.makeFolders parent).writeText path ""
      | none => .error fault

end ImageSearch.Log
