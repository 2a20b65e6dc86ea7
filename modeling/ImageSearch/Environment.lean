import ImageSearch.Text.Split

set_option autoImplicit false

namespace ImageSearch

/-- Variables with their values; the first entry of a name counts. -/
abbrev Environment := List (String × String)

namespace Environment

def known : List String :=
  ["HOME", "PATH", "RUST_LOG", "IN_DOCKER", "BASE_DIR", "PYTHON_PATH", "OCRGREP_PYTHON",
    "OCRGREP_WORKER_SCRIPT", "OCRGREP_LANGUAGES", "OCRGREP_TIMEOUT_SECS", "OCRGREP_LOG_LEVEL",
    "OCRGREP_LOG_DIR"]

def get? (env : Environment) (name : String) : Option String :=
  (env.find? (·.1 == name)).map (·.2)

/-- A value without the white space around it, unless nothing is left. -/
def filled? (env : Environment) (name : String) : Option String := do
  let value := Text.trim (← env.get? name).toList
  if value.isEmpty then none else some (String.ofList value)

def set (env : Environment) (name value : String) : Environment :=
  (name, value) :: env.filter (·.1 != name)

end Environment

end ImageSearch
