import ImageSearch.Configuration.Settings
import ImageSearch.Failure
import ImageSearch.Text.Blank
import ImageSearch.Text.Split

set_option autoImplicit false

namespace ImageSearch

open Text

/-- Something that keeps the program from running; `index` is a place in a list. -/
inductive Problem where
  | emptyInterpreter
  | emptyScript
  | noLanguages
  | invalidLanguage (index : Nat) (language : String)
  | noRoots
  | emptyFolderName
  | compoundFolderName
  | noExtensions
  | emptyIndexFile
  | emptyResultsFile
  deriving Repr, DecidableEq

/-- Something that the program can cope with. -/
inductive Doubt where
  | noTimeout
  | leadingDot (index : Nat)
  | unknownLevel (level : String)
  deriving Repr, DecidableEq

structure Remark where
  place : String
  message : String
  deriving Repr, DecidableEq

def Remark.display (r : Remark) : String :=
  s!"Config validation error at '{r.place}': {r.message}"

def indexed (list : String) (index : Nat) : String := s!"{list}[{index}]"

def Problem.remark : Problem → Remark
  | .emptyInterpreter => ⟨"worker.python", "Interpreter cannot be empty"⟩
  | .emptyScript => ⟨"worker.script", "Worker script path cannot be empty"⟩
  | .noLanguages => ⟨"worker.languages", "At least one language is required"⟩
  | .invalidLanguage index language =>
    ⟨indexed "worker.languages" index, s!"Invalid language code {quoted language}"⟩
  | .noRoots => ⟨"scan.roots", "At least one root directory is required"⟩
  | .emptyFolderName => ⟨"scan.folder_name", "Image folder name cannot be empty"⟩
  | .compoundFolderName =>
    ⟨"scan.folder_name", "Image folder name must be a plain directory name"⟩
  | .noExtensions => ⟨"scan.extensions", "At least one image extension is required"⟩
  | .emptyIndexFile => ⟨"output.index_file", "Index file path cannot be empty"⟩
  | .emptyResultsFile => ⟨"output.results_file", "Results file path cannot be empty"⟩

def Doubt.remark : Doubt → Remark
  | .noTimeout => ⟨"worker.timeout_secs", "Timeout disabled; a stuck worker will block the scan"⟩
  | .leadingDot index => ⟨indexed "scan.extensions" index, "Leading dot is ignored"⟩
  | .unknownLevel level =>
    ⟨"log.level", s!"Unknown log level {quoted level}; falling back to info"⟩

/-- A list of one entry if a condition holds, and of none otherwise. -/
def onlyIf {α : Type} (condition : Bool) (x : α) : List α := if condition then [x] else []

theorem onlyIf_eq_nil {α : Type} {condition : Bool} {x : α} :
    onlyIf condition x = [] ↔ condition = false := by
  cases condition with
  | true => simp [onlyIf]
  | false => simp [onlyIf]

/-- A language code holds something, and no white space. -/
def isLanguage (language : String) : Bool :=
  !language.isEmpty && language.toList.all (!isBlank ·)

/-- Characters that no folder name may hold. -/
def isCompoundChar (c : Char) : Bool := ['/', '\\', '*', '?', '['].contains c

def WorkerSettings.problems (s : WorkerSettings) : List Problem :=
  onlyIf (isBlankText s.python.toList) .emptyInterpreter
    ++ onlyIf s.script.text.isEmpty .emptyScript
    ++ onlyIf s.languages.isEmpty .noLanguages
    ++ s.languages.zipIdx.flatMap fun (language, index) =>
      onlyIf (!isLanguage language) (.invalidLanguage index language)

def ScanSettings.problems (s : ScanSettings) : List Problem :=
  onlyIf s.roots.isEmpty .noRoots
    ++ (if isBlankText s.folderName.toList then [.emptyFolderName]
      else onlyIf (s.folderName.toList.any isCompoundChar) .compoundFolderName)
    ++ onlyIf s.extensions.isEmpty .noExtensions

def OutputSettings.problems (s : OutputSettings) : List Problem :=
  onlyIf s.indexFile.text.isEmpty .emptyIndexFile
    ++ onlyIf s.resultsFile.text.isEmpty .emptyResultsFile

def levelNames : List String := ["trace", "debug", "info", "warn", "error", "off"]

/-- A level by its name in any letter case, or anything that may be a list of filter rules. -/
def isLevel (level : String) : Bool :=
  let folded := level.toList.map Char.toLower
  folded.contains '=' || levelNames.contains (String.ofList folded)

namespace Configuration

def problems (c : Configuration) : List Problem :=
  c.worker.problems ++ c.scan.problems ++ c.output.problems

def doubts (c : Configuration) : List Doubt :=
  onlyIf (c.worker.timeoutSecs == 0) .noTimeout
    ++ (c.scan.extensions.zipIdx.flatMap fun (extension, index) =>
      onlyIf (extension.toList.head? == some '.') (.leadingDot index))
    ++ onlyIf (!isLevel c.log.level) (.unknownLevel c.log.level)

def check (c : Configuration) : Except Failure Unit :=
  if c.problems.isEmpty then .ok ()
  else
    let lines := c.problems.map fun p => p.remark.display
    .error (.stated ("Invalid configuration:\n  " ++ "\n  ".intercalate lines))

end Configuration

end ImageSearch
