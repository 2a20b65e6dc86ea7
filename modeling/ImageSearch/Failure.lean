import ImageSearch.Query.Token
import ImageSearch.Recognition.Failure

set_option autoImplicit false

namespace ImageSearch

inductive Cause where
  | stated (text : String)
  | query (error : Query.ParseError)
  | json (error : Json.DecodeError)
  | yaml
  | io (fault : IoFault)
  | recognition (failure : Recognition.Failure)
  deriving Repr

/-- What is shown of a cause; faults of the file system in the words of the operating system. -/
def Cause.text : Cause → String
  | .stated text => text
  | .query error => error.display
  | .json error => error.message
  | .yaml => "invalid YAML"
  | .io fault => fault.systemText
  | .recognition failure => failure.message IoFault.systemText

/-- The context is outermost first. -/
structure Failure where
  context : List String
  cause : Cause
  deriving Repr

namespace Failure

def stated (text : String) : Failure := ⟨[], .stated text⟩

def within (text : String) (f : Failure) : Failure := { f with context := text :: f.context }

def summary (f : Failure) : String := f.context.headD f.cause.text

/-- What the outermost text stands for, outermost first. -/
def causes (f : Failure) : List String :=
  match f.context with
  | [] => []
  | _ :: inner => inner ++ [f.cause.text]

/-- The lines of a report; more than one cause is numbered. -/
def report (f : Failure) : List String :=
  s!"Error: {f.summary}" ::
    match f.causes with
    | [] => []
    | [cause] => ["", "Caused by:", "    " ++ cause]
    | causes => ["", "Caused by:"] ++ causes.zipIdx.map fun (cause, i) => s!"    {i}: {cause}"

end Failure

def inContext {ε α : Type} (text : String) (cause : ε → Cause) : Except ε α → Except Failure α
  | .ok x => .ok x
  | .error e => .error ⟨[text], cause e⟩

end ImageSearch
