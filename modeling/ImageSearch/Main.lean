import ImageSearch.Program
import Std.Time.Date.PlainDate
import Std.Time.DateTime.Timestamp

set_option autoImplicit false

namespace ImageSearch.CommandLine

def readEnvironment : IO Environment :=
  Environment.known.filterMapM fun name => return (← IO.getEnv name).map (name, ·)

def today : IO String := do
  let date := Std.Time.PlainDate.ofEpochDay (← Std.Time.Timestamp.now).toDaysSinceUnixEpoch
  let padded (n : Nat) : String := if n < 10 then s!"0{n}" else toString n
  return s!"{date.year.toInt}-{padded date.month.toNat}-{padded date.day.toNat}"

def placeText (names : List String) : String := "/" ++ "/".intercalate names

def entryAt (names : List String) : IO.FS.DirEntry :=
  ⟨placeText names.dropLast, (names.getLast?).getD ""⟩

/-- How many folders deep a tree is read. -/
def depthLimit : Nat := 64

/-- The file or folder behind a directory entry; links are left out, and so is the content of a
file that is no text. -/
def readTree : Nat → IO.FS.DirEntry → IO (Option Tree)
  | 0, _ => return none
  | depth + 1, entry => do
    match (← entry.path.symlinkMetadata).type with
    | .dir =>
      let below ← (← entry.path.readDir).toList.filterMapM fun inner =>
        return (← readTree depth inner).map (inner.fileName, ·)
      return some (.folder (below.mergeSort fun a b => a.1 ≤ b.1))
    | .file =>
      let bytes ← IO.FS.readBinFile entry.path
      return some (.file (match String.fromUTF8? bytes with
        | some text => .text text
        | none => .raw []))
    | _ => return none

def readPlace (disk : Disk) (names : List String) : IO Disk := do
  if ← (entryAt names).path.pathExists then
    match ← readTree depthLimit (entryAt names) with
    | some tree => return { disk with root := disk.root.put tree names }
    | none => return disk
  else return disk

def readWay (disk : Disk) (names : List String) : IO Disk :=
  (List.range names.length).foldlM (fun disk n => do
    let before := names.take n
    if (disk.root.at? before).isNone && (← (entryAt before).path.isDir) then
      return { disk with root := disk.root.put (.folder []) before }
    else return disk) disk

def readPlaces (disk : Disk) (paths : List Path) : IO Disk :=
  paths.foldlM (fun disk path => do
    let names := path.namesFrom disk.workingFolder
    readPlace (← readWay disk names) names) disk

/-- Writes the files in which the second disk differs from the first. -/
def writeChanges (before after : Disk) : IO Unit := do
  for (names, content) in after.changedBelow before [] do
    if let .text text := content then
      IO.FS.createDirAll (placeText names.dropLast)
      IO.FS.writeFile (placeText names) text

/-- What the program finds: the configuration file is read first, then what it names. -/
def readSurroundings (args : List String) : IO Surroundings := do
  let here := (Path.mk (← IO.currentDir).toString).namesFrom []
  let disk ← readWay ⟨.folder [], here⟩ (here ++ [""])
  let bare : Surroundings := ⟨← readEnvironment, disk, ← today⟩
  let first := { bare with disk := ← readPlaces bare.disk (bare.places args) }
  return { first with disk := ← readPlaces first.disk (first.places args) }

/-- Carries out a command line and gives the exit code. What a run may look at is read from the file
system, the run is computed, and what it changed is written back. No process is started from here,
so a scan that has found images ends with the startup failure of its worker. -/
def run (args : List String) : IO UInt32 := do
  let found ← readSurroundings args
  let ending := runProgram Worker.Client.recognizer (found.client ⟨""⟩ []) found args
  writeChanges found.disk ending.disk
  IO.print ending.output
  match ending.failure with
  | some failure => failure.report.forM IO.eprintln
  | none => if ending.exit = exitMisuse then IO.eprint usageLine
  return ending.exit.toUInt32

end ImageSearch.CommandLine

def main (args : List String) : IO UInt32 := ImageSearch.CommandLine.run args
