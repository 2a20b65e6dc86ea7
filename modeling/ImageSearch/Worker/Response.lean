import ImageSearch.Json.Decode
import ImageSearch.Recognition.Failure
import ImageSearch.Text.Split

set_option autoImplicit false

namespace ImageSearch.Worker

open Json Recognition Text

/-- What the worker says of its work; anything unknown is a failure. -/
inductive Status where
  | success
  | error
  | other (text : String)
  deriving Repr, DecidableEq

def Status.ofText : String → Status
  | "success" => .success
  | "error" => .error
  | text => .other text

def Status.text : Status → String
  | .success => "success"
  | .error => "error"
  | .other text => text

/-- The identifier, if there is one, names the request that is answered. -/
structure Response where
  id : Option String
  status : Status
  data : Option Value
  message : Option String
  deriving Repr

namespace Response

def isSuccess (r : Response) : Bool := r.status == .success

/-- The message, unless it is blank. -/
def message? (r : Response) : Option String := r.message.filter (!isBlankText ·.toList)

def messageOr (r : Response) (fallback : String) : String := r.message?.getD fallback

def decodeData : Decoder Value := fun source d => d.toValue source

def schema : Schema Response where
  label := "struct WorkerResponse"
  strict := false
  fields := [
    ⟨["id"], false, fun source d r => do
      return { r with id := ← decodeOption (decodeString "a string") source d }⟩,
    ⟨["status"], true, fun source d r => do
      return { r with status := Status.ofText (← decodeString "a string" source d) }⟩,
    ⟨["data"], false, fun source d r => do
      return { r with data := ← decodeOption decodeData source d }⟩,
    ⟨["message"], false, fun source d r => do
      return { r with message := ← decodeOption (decodeString "a string") source d }⟩]

def decoder : Decoder Response := schema.decode ⟨none, .success, none, none⟩

def presentFields (r : Response) : List String :=
  (if r.data.isSome then ["data"] else [])
    ++ (if r.id.isSome then ["id"] else [])
    ++ (if r.message.isSome then ["message"] else [])
    ++ ["status"]

def shownChars : Nat := 200

/-- The response on a line; white space around it does not count. -/
def ofLine (line : List Char) : Except ProtocolFault Response :=
  match decodeText decoder (String.ofList (trim line)) with
  | .ok r => .ok r
  | .error e => .error (.unreadable e (String.ofList (line.take shownChars)))

end Response

end ImageSearch.Worker
