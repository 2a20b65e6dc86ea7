import ImageSearch.Json.Value
import ImageSearch.Path

set_option autoImplicit false

namespace ImageSearch

open Json

/-- Where the worker's packages are installed. -/
inductive RuntimeMode where
  | auto
  | localHome
  | container
  deriving Repr, DecidableEq

def RuntimeMode.name : RuntimeMode → String
  | .auto => "auto"
  | .localHome => "local"
  | .container => "container"

def RuntimeMode.all : List RuntimeMode := [.auto, .localHome, .container]

structure WorkerSettings where
  python : String
  script : Path
  languages : List String
  /-- Seconds that one request may take; zero means no limit. -/
  timeoutSecs : Nat
  runtime : RuntimeMode
  venv : Option Path
  pythonVersion : String
  deriving Repr, DecidableEq

def WorkerSettings.default : WorkerSettings where
  python := "python3"
  script := ⟨"easyocr_script.py"⟩
  languages := ["en", "fr"]
  timeoutSecs := 120
  runtime := .auto
  venv := none
  pythonVersion := "3.9"

structure ScanSettings where
  baseDir : Path
  /-- Folders below the base in which image folders are sought. -/
  roots : List String
  folderName : String
  extensions : List String
  deriving Repr, DecidableEq

def ScanSettings.default : ScanSettings where
  baseDir := ⟨"./repo-test-ocr"⟩
  roots := ["docs", "releasenotes"]
  folderName := "_images"
  extensions := ["png", "jpg", "jpeg"]

structure OutputSettings where
  indexFile : Path
  resultsFile : Path
  deriving Repr, DecidableEq

/-- The results go to the home folder if there is one. -/
def OutputSettings.default (home : Option Path) : OutputSettings where
  indexFile := ⟨"ocr_results.json"⟩
  resultsFile :=
    match home with
    | some folder => folder.join ⟨"query_results.json"⟩
    | none => ⟨"query_results.json"⟩

structure LogSettings where
  level : String
  dir : Option Path
  deriving Repr, DecidableEq

def LogSettings.default : LogSettings := ⟨"info", none⟩

structure Configuration where
  worker : WorkerSettings
  scan : ScanSettings
  output : OutputSettings
  log : LogSettings
  deriving Repr, DecidableEq

def Configuration.default (home : Option Path) : Configuration :=
  ⟨.default, .default, .default home, .default⟩

def textValues (texts : List String) : Value := .array (texts.map .string)

/-- A member that is left out when there is no value. -/
def optionalMember (key : String) : Option Path → List (String × Value)
  | some path => [(key, .string path.text)]
  | none => []

def WorkerSettings.toJson (s : WorkerSettings) : Value :=
  .object ([
    ("python", .string s.python),
    ("script", .string s.script.text),
    ("languages", textValues s.languages),
    ("timeout_secs", .number (.int s.timeoutSecs)),
    ("runtime", .string s.runtime.name)]
    ++ optionalMember "venv" s.venv
    ++ [("python_version", .string s.pythonVersion)])

def ScanSettings.toJson (s : ScanSettings) : Value :=
  .object [
    ("base_dir", .string s.baseDir.text),
    ("roots", textValues s.roots),
    ("folder_name", .string s.folderName),
    ("extensions", textValues s.extensions)]

def OutputSettings.toJson (s : OutputSettings) : Value :=
  .object [
    ("index_file", .string s.indexFile.text),
    ("results_file", .string s.resultsFile.text)]

def LogSettings.toJson (s : LogSettings) : Value :=
  .object (("level", .string s.level) :: optionalMember "dir" s.dir)

def Configuration.toJson (c : Configuration) : Value :=
  .object [
    ("worker", c.worker.toJson),
    ("scan", c.scan.toJson),
    ("output", c.output.toJson),
    ("log", c.log.toJson)]

end ImageSearch
