import ImageSearch.Recognition.Failure
import ImageSearch.Text.Blank

set_option autoImplicit false

namespace ImageSearch.Worker

open Recognition Text

structure Request where
  command : String
  args : List String
  deriving Repr, DecidableEq

namespace Request

def load (languages : List String) : Request := ⟨"init", languages⟩

def read (path : Path) : Request := ⟨"read_text", [path.text]⟩

def close : Request := ⟨"close", []⟩

def isLineBreak (c : Char) : Bool := c == '\n' || c == '\r'

def isCommand (command : String) : Bool :=
  !command.isEmpty && command.toList.all (!isBlank ·)

def render (r : Request) : List Char :=
  r.command.toList ++ r.args.flatMap (fun arg => ' ' :: arg.toList) ++ ['\n']

/-- Nothing is quoted, so a command holds no white space and an argument no line break. -/
def line (r : Request) : Except ProtocolFault String :=
  if !isCommand r.command then .error (.commandName r.command)
  else
    match r.args.find? (·.toList.any isLineBreak) with
    | some arg => .error (.lineBreak arg)
    | none => .ok (String.ofList r.render)

end Request

end ImageSearch.Worker
