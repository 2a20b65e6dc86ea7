import ImageSearch.CommandLine
import ImageSearch.Configuration.Check
import ImageSearch.Configuration.File
import ImageSearch.Configuration.Runtime
import ImageSearch.Log.File
import ImageSearch.Scan
import ImageSearch.Worker.Client
import ImageSearch.Worker.Launch

set_option autoImplicit false

namespace ImageSearch

open Recognition

structure Surroundings where
  environment : Environment
  disk : Disk
  /-- The present day, as log files name it. -/
  day : String

namespace Surroundings

/-- The home folder of the environment, unless it is empty. -/
def home (s : Surroundings) : Option Path :=
  ((s.environment.get? "HOME").filter (!·.isEmpty)).map Path.mk

def inContainer (s : Surroundings) : Bool :=
  s.environment.inContainer (s.disk.holds ⟨"/.dockerenv"⟩)

def workerSettings (s : Surroundings) (c : Configuration) : Worker.Settings :=
  c.workerSettings (c.worker.runtimeEnvironment s.inContainer s.home)

/-- A client for the worker of a configuration, which follows scripts: `executable` is the only
program that can be started. -/
def client (s : Surroundings) (executable : Path) (plan : List Worker.Script)
    (c : Configuration) : Worker.Client :=
  let settings := s.workerSettings c
  let channel := Worker.Channel.start settings.program.text settings.timeout
    Worker.Channel.pipeCapacity
  .ofSession (.start channel
    (settings.launchFault? s.disk executable (s.environment.get? "PATH")) plan)

end Surroundings

/-- How the program ends. The recogniser is there if the program came as far as to use it. -/
structure Ending (σ : Type) where
  exit : Nat
  output : String
  failure : Option Failure
  disk : Disk
  recognizer : Option σ

def versionLine : String := "ocrgrep 0.1.0\n"

def usageLine : String := "Usage: ocrgrep [OPTIONS] <COMMAND>\n"

/-- Exit codes: success, failure, misuse, and a log file that cannot be written. -/
def exitSuccess : Nat := 0

def exitFailure : Nat := 1

def exitMisuse : Nat := 2

def exitNoLog : Nat := 101

namespace Ending

variable {σ : Type}

def stopped (disk : Disk) : CommandStop → Ending σ
  | .version => ⟨exitSuccess, versionLine, none, disk, none⟩
  | .help => ⟨exitSuccess, usageLine, none, disk, none⟩
  | .misuse => ⟨exitMisuse, "", none, disk, none⟩

def failed (disk : Disk) (f : Failure) : Ending σ := ⟨exitFailure, "", some f, disk, none⟩

def ofResult (result : Except Failure Unit) (output : String) (disk : Disk)
    (recognizer : Option σ) : Ending σ :=
  match result with
  | .ok _ => ⟨exitSuccess, output, none, disk, recognizer⟩
  | .error f => ⟨exitFailure, output, some f, disk, recognizer⟩

end Ending

def Invocation.flags (i : Invocation) : Flags :=
  match i.command with
  | .scan baseDir index results _ => ⟨i.logLevel, baseDir, index, results⟩
  | .search _ index _ => ⟨i.logLevel, none, index, none⟩

/-- The paths at which a run under a configuration looks for files or writes them. -/
def Configuration.places (c : Configuration) : List Path :=
  (c.scan.roots.map fun root => c.scan.baseDir.join ⟨root⟩)
    ++ [c.scan.baseDir, c.output.indexFile, c.output.resultsFile] ++ c.log.dir.toList

def Command.places : Command → List Path
  | .scan .. => []
  | .search _ _ results => results.toList

/-- The paths that a command line concerns, as far as the disk shows its configuration. -/
def Surroundings.places (s : Surroundings) (args : List String) : List Path :=
  match Invocation.ofArgs args with
  | .error _ => []
  | .ok i =>
    Configuration.filePath i.config :: i.command.places ++
      match Configuration.prepare s.environment s.disk i.config with
      | .error _ => []
      | .ok c => (c.withFlags i.flags).places

variable {σ : Type}

def Command.run (r : Recognizer σ) (attach : Configuration → σ) (c : Configuration) (disk : Disk) :
    Command → Ending σ
  | .scan _ _ _ query =>
    let done := ImageSearch.scan r c query disk (attach c)
    .ofResult done.result "" done.disk (some done.recognizer)
  | .search query _ results =>
    let done := searchIndex c.output.indexFile query results disk
    .ofResult done.result done.output done.disk none

def openLog (s : Surroundings) (c : Configuration) : Except IoFault Disk :=
  match c.log.dir with
  | some folder => Log.openFile s.disk folder s.day
  | none => .ok s.disk

/-- Runs a command line: the configuration is read, the log is opened, the configuration is
checked, and then the command is carried out. -/
def runProgram (r : Recognizer σ) (attach : Configuration → σ) (s : Surroundings)
    (args : List String) : Ending σ :=
  match Invocation.ofArgs args with
  | .error stop => .stopped s.disk stop
  | .ok invocation =>
    match Configuration.prepare s.environment s.disk invocation.config with
    | .error f => .failed s.disk f
    | .ok prepared =>
      let c := prepared.withFlags invocation.flags
      match openLog s c with
      | .error _ => ⟨exitNoLog, "", none, s.disk, none⟩
      | .ok disk =>
        match c.check with
        | .error f => .failed disk f
        | .ok _ => invocation.command.run r attach c disk

end ImageSearch
