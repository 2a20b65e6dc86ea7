import ImageSearch.Configuration.Settings
import ImageSearch.Environment
import ImageSearch.Number.Word

set_option autoImplicit false

namespace ImageSearch

open Text

/-- The entries between commas, trimmed, without the blank ones. -/
def listEntries (cs : List Char) : List (List Char) :=
  ((splitOnChar (· == ',') cs).map trim).filter (!·.isEmpty)

def parseList (s : String) : List String := (listEntries s.toList).map String.ofList

namespace Configuration

def environmentLanguages? (env : Environment) : Option (List String) := do
  let languages := parseList (← env.filled? "OCRGREP_LANGUAGES")
  if languages.isEmpty then none else some languages

def environmentTimeout? (env : Environment) : Option Nat := do
  Number.word? (← env.filled? "OCRGREP_TIMEOUT_SECS").toList

/-- The interpreter goes by a present and by a former name. -/
def environmentPython? (env : Environment) : Option String :=
  (env.filled? "OCRGREP_PYTHON").or (env.filled? "PYTHON_PATH")

/-- Applies the variables of an environment; blank and malformed values are ignored. -/
def withEnvironment (env : Environment) (c : Configuration) : Configuration :=
  { worker :=
      { c.worker with
        python := (environmentPython? env).getD c.worker.python
        script := ((env.filled? "OCRGREP_WORKER_SCRIPT").map Path.mk).getD c.worker.script
        languages := (environmentLanguages? env).getD c.worker.languages
        timeoutSecs := (environmentTimeout? env).getD c.worker.timeoutSecs }
    scan :=
      { c.scan with
        baseDir := ((env.filled? "BASE_DIR").map Path.mk).getD c.scan.baseDir }
    output := c.output
    log :=
      { level := (env.filled? "OCRGREP_LOG_LEVEL").getD c.log.level
        dir := ((env.filled? "OCRGREP_LOG_DIR").map Path.mk).or c.log.dir } }

end Configuration

structure Flags where
  logLevel : Option String
  baseDir : Option Path
  indexFile : Option Path
  resultsFile : Option Path
  deriving Repr, DecidableEq

namespace Configuration

def withFlags (flags : Flags) (c : Configuration) : Configuration :=
  { c with
    scan := { c.scan with baseDir := flags.baseDir.getD c.scan.baseDir }
    output :=
      { indexFile := flags.indexFile.getD c.output.indexFile
        resultsFile := flags.resultsFile.getD c.output.resultsFile }
    log := { c.log with level := flags.logLevel.getD c.log.level } }

end Configuration

end ImageSearch
