import ImageSearch.Configuration.Settings
import ImageSearch.Json.Decode
import ImageSearch.Yaml.Node
import ImageSearch.Yaml.Numeral

set_option autoImplicit false

namespace ImageSearch

open Json

inductive SettingKind where
  | text
  | path
  | texts
  | optionalPath
  | word
  | mode
  deriving Repr, DecidableEq

abbrev SettingKind.Value : SettingKind → Type
  | .text => String
  | .path => Path
  | .texts => List String
  | .optionalPath => Option Path
  | .word => Nat
  | .mode => RuntimeMode

def decodeModeName (name : String) : Except DecodeError RuntimeMode :=
  match RuntimeMode.all.find? (·.name == name) with
  | some mode => .ok mode
  | none => .error (.unknownVariant name (RuntimeMode.all.map RuntimeMode.name))

/-- A mode by its name, or by an object whose only member is that name with null. -/
def decodeMode : Decoder RuntimeMode := fun _ d =>
  match d with
  | .string (some name) => decodeModeName name
  | .object [(some name, value)] true => do
    let mode ← decodeModeName name
    match value with
    | .null => return mode
    | value => throw (value.mismatch "unit")
  | .object _ true => .error (.invalidValue .map "map with a single key")
  | d => .error (d.mismatch "string or map")

def decodePath : Decoder Path := fun source d => Path.mk <$> decodeString "path string" source d

def SettingKind.decoder : (k : SettingKind) → Decoder k.Value
  | .text => decodeString "a string"
  | .path => decodePath
  | .texts => decodeList (decodeString "a string")
  | .optionalPath => decodeOption decodePath
  | .word => decodeWord
  | .mode => decodeMode

def SettingKind.ofYaml? : (k : SettingKind) → Yaml.Node → Option k.Value
  | .text, node => node.text?
  | .path, node => node.text?.map Path.mk
  | .texts, node => node.items?.bind (·.mapM Yaml.Node.text?)
  | .optionalPath, node => if node.isNull then some none else node.text?.map (some ∘ Path.mk)
  | .word, .scalar true written => Yaml.word? written.toList
  | .word, _ => none
  | .mode, node => node.text?.bind fun name => RuntimeMode.all.find? (·.name == name)

/-- A named setting of a group, and how its value is put there. -/
structure Setting (σ : Type) where
  name : String
  kind : SettingKind
  put : kind.Value → σ → σ

/-- A group of settings; `label` is its name in messages. Absent settings keep their default, and
names that no setting has are refused. -/
structure Layout (σ : Type) where
  label : String
  settings : List (Setting σ)

namespace Layout

variable {σ : Type}

def schema (l : Layout σ) : Schema σ where
  label := l.label
  strict := true
  fields := l.settings.map fun s =>
    ⟨[s.name], false, fun source d group => do
      return s.put (← s.kind.decoder source d) group⟩

/-- Named members, each name at most once. -/
def ofMembers? (l : Layout σ) (seen : List String) (group : σ) :
    List (String × Yaml.Node) → Option σ
  | [] => some group
  | (name, node) :: rest => do
    let s ← l.settings.find? (·.name == name)
    if seen.contains name then none
    else l.ofMembers? (name :: seen) (s.put (← s.kind.ofYaml? node) group) rest

/-- Values in the order of the settings. -/
def ofItems? (group : σ) : List (Setting σ) → List Yaml.Node → Option σ
  | _, [] => some group
  | [], _ :: _ => none
  | s :: settings, node :: rest => do
    ofItems? (s.put (← s.kind.ofYaml? node) group) settings rest

def ofYaml? (l : Layout σ) (default : σ) (node : Yaml.Node) : Option σ :=
  match node with
  | .mapping members => l.ofMembers? [] default members
  | .sequence items => ofItems? default l.settings items
  | node => if node.isEmpty then some default else none

end Layout

def WorkerSettings.layout : Layout WorkerSettings where
  label := "struct WorkerSettings"
  settings := [
    ⟨"python", .text, fun v s => { s with python := v }⟩,
    ⟨"script", .path, fun v s => { s with script := v }⟩,
    ⟨"languages", .texts, fun v s => { s with languages := v }⟩,
    ⟨"timeout_secs", .word, fun v s => { s with timeoutSecs := v }⟩,
    ⟨"runtime", .mode, fun v s => { s with runtime := v }⟩,
    ⟨"venv", .optionalPath, fun v s => { s with venv := v }⟩,
    ⟨"python_version", .text, fun v s => { s with pythonVersion := v }⟩]

def ScanSettings.layout : Layout ScanSettings where
  label := "struct ScanSettings"
  settings := [
    ⟨"base_dir", .path, fun v s => { s with baseDir := v }⟩,
    ⟨"roots", .texts, fun v s => { s with roots := v }⟩,
    ⟨"folder_name", .text, fun v s => { s with folderName := v }⟩,
    ⟨"extensions", .texts, fun v s => { s with extensions := v }⟩]

def OutputSettings.layout : Layout OutputSettings where
  label := "struct OutputSettings"
  settings := [
    ⟨"index_file", .path, fun v s => { s with indexFile := v }⟩,
    ⟨"results_file", .path, fun v s => { s with resultsFile := v }⟩]

def LogSettings.layout : Layout LogSettings where
  label := "struct LogSettings"
  settings := [
    ⟨"level", .text, fun v s => { s with level := v }⟩,
    ⟨"dir", .optionalPath, fun v s => { s with dir := v }⟩]

def ScanSettings.decoder : Decoder ScanSettings :=
  ScanSettings.layout.schema.decode .default

namespace Configuration

def schema (home : Option Path) : Schema Configuration where
  label := "struct OcrgrepConfig"
  strict := true
  fields := [
    ⟨["worker"], false, fun source d c => do
      return { c with worker := ← WorkerSettings.layout.schema.decode .default source d }⟩,
    ⟨["scan"], false, fun source d c => do
      return { c with scan := ← ScanSettings.decoder source d }⟩,
    ⟨["output"], false, fun source d c => do
      return { c with output := ← OutputSettings.layout.schema.decode (.default home) source d }⟩,
    ⟨["log"], false, fun source d c => do
      return { c with log := ← LogSettings.layout.schema.decode .default source d }⟩]

def decoder (home : Option Path) : Decoder Configuration := (schema home).decode (default home)

/-- Puts one named group of settings from a YAML tree. -/
def putGroup? (home : Option Path) (name : String) (node : Yaml.Node) (c : Configuration) :
    Option Configuration :=
  match name with
  | "worker" => do return { c with worker := ← WorkerSettings.layout.ofYaml? .default node }
  | "scan" => do return { c with scan := ← ScanSettings.layout.ofYaml? .default node }
  | "output" => do
    return { c with output := ← OutputSettings.layout.ofYaml? (.default home) node }
  | "log" => do return { c with log := ← LogSettings.layout.ofYaml? .default node }
  | _ => none

def ofMembers? (home : Option Path) (seen : List String) (c : Configuration) :
    List (String × Yaml.Node) → Option Configuration
  | [] => some c
  | (name, node) :: rest => do
    if seen.contains name then none
    else ofMembers? home (name :: seen) (← putGroup? home name node c) rest

def ofItems? (home : Option Path) (c : Configuration) :
    List String → List Yaml.Node → Option Configuration
  | _, [] => some c
  | [], _ :: _ => none
  | name :: names, node :: rest => do ofItems? home (← putGroup? home name node c) names rest

def ofYaml? (home : Option Path) (node : Yaml.Node) : Option Configuration :=
  match node with
  | .mapping members => ofMembers? home [] (default home) members
  | .sequence items => ofItems? home (default home) (schema home).fieldNames items
  | node => if node.isEmpty then some (default home) else none

end Configuration

end ImageSearch
