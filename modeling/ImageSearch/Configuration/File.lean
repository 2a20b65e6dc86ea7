import ImageSearch.Configuration.Layout
import ImageSearch.Configuration.Override
import ImageSearch.Failure
import ImageSearch.Yaml.Document

set_option autoImplicit false

namespace ImageSearch.Configuration

def standardFile : Path := ⟨"ocrgrep.yaml"⟩

def filePath (asked : Option Path) : Path := asked.getD standardFile

def ofText? (home : Option Path) (text : String) : Option Configuration :=
  (Yaml.readDocument text).bind (ofYaml? home)

/-- A file that is absent or blank means defaults. -/
def ofFile (home : Option Path) (disk : Disk) (path : Path) : Except Failure Configuration := do
  if !disk.holds path then return default home
  let text ← inContext s!"Failed to read config file: {path.text}" .io (disk.readText path)
  if Text.isBlankText text.toList then return default home
  match ofText? home text with
  | some c => return c
  | none => throw ⟨[s!"Failed to parse YAML config: {path.text}"], .yaml⟩

/-- The file, then the variables of the environment, among them the home folder. -/
def prepare (env : Environment) (disk : Disk) (asked : Option Path) :
    Except Failure Configuration := do
  let path := filePath asked
  if asked.isSome && !disk.holds path then throw (.stated s!"Config file not found: {path.text}")
  let home := ((env.get? "HOME").filter (!·.isEmpty)).map Path.mk
  return (← ofFile home disk path).withEnvironment env

end ImageSearch.Configuration
