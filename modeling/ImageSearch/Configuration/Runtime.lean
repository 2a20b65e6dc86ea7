import ImageSearch.Configuration.Override
import ImageSearch.Worker.Settings

set_option autoImplicit false

namespace ImageSearch

structure RuntimeEnvironment where
  mode : RuntimeMode
  searchPaths : List Path
  environment : Environment
  deriving Repr, DecidableEq

def Environment.inContainer (env : Environment) (marked : Bool) : Bool :=
  (env.filled? "IN_DOCKER").isSome || marked

/-- A tilde in front stands for the home folder. -/
def Path.expandHome (path : Path) (home : Option Path) : Path :=
  match path.below? "~", home with
  | some rest, some folder => folder.join rest
  | _, _ => path

namespace WorkerSettings

/-- The mode that is meant; automatic choice follows the surroundings. -/
def resolvedMode (s : WorkerSettings) (inContainer : Bool) : RuntimeMode :=
  match s.runtime with
  | .auto => if inContainer then .container else .localHome
  | explicit => explicit

def installation? (s : WorkerSettings) (mode : RuntimeMode) (home : Option Path) : Option Path :=
  match mode with
  | .container => some ⟨"/usr/local"⟩
  | _ =>
    match s.venv with
    | some venv => some (venv.expandHome home)
    | none => home.map (·.join ⟨"myenv"⟩)

def packages (s : WorkerSettings) (installation : Path) : Path :=
  ((installation.join ⟨"lib"⟩).join ⟨"python" ++ s.pythonVersion⟩).join ⟨"site-packages"⟩

/-- Without an installation the worker inherits everything. -/
def runtimeEnvironment (s : WorkerSettings) (inContainer : Bool) (home : Option Path) :
    RuntimeEnvironment :=
  let mode := s.resolvedMode inContainer
  match s.installation? mode home with
  | none => ⟨mode, [], []⟩
  | some installation =>
    ⟨mode, [installation.join ⟨"bin"⟩], [("PYTHONPATH", (s.packages installation).text)]⟩

end WorkerSettings

/-- The interpreter runs the script; a limit of zero seconds is none. -/
def Configuration.workerSettings (c : Configuration) (runtime : RuntimeEnvironment) :
    Worker.Settings where
  program := ⟨c.worker.python⟩
  args := [c.worker.script.text]
  searchPaths := runtime.searchPaths
  environment := runtime.environment
  timeout := if 0 < c.worker.timeoutSecs then some (Duration.ofSecs c.worker.timeoutSecs) else none

end ImageSearch
