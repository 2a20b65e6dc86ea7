import ImageSearch.Recognition.Recognizer
import ImageSearch.Worker.Session

set_option autoImplicit false

namespace ImageSearch.Worker

open Json Recognition

def loadResult : Outcome → Except Recognition.Failure Unit
  | .error failure => .error failure
  | .ok response =>
    if response.isSuccess then .ok ()
    else .error (.initialization (response.messageOr "Failed to initialize EasyOCR"))

/-- The response to a read request; without data it is a failure. -/
def readResult : Outcome → Except Recognition.Failure (List Item)
  | .error failure => .error failure
  | .ok response =>
    match response.isSuccess, response.data with
    | true, some data =>
      match decodeValue (decodeList Item.decoder) data with
      | .ok items => .ok items
      | .error e => .error (.protocol (.payload e))
    | _, _ => .error (.recognition (response.messageOr "Failed to read text from image"))

/-- Loads the models by one request; `ask` has a request answered. -/
def startWith {σ : Type} (ask : Request → σ → Outcome × σ) (languages : List String) (state : σ) :
    Except Recognition.Failure Unit × σ :=
  let (outcome, state) := ask (.load languages) state
  (loadResult outcome, state)

def readWith {σ : Type} (ask : Request → σ → Outcome × σ) (path : Path) (state : σ) :
    Except Recognition.Failure (List Item) × σ :=
  let (outcome, state) := ask (.read path) state
  (readResult outcome, state)

/-- The outcome of a request that never gets one. -/
def unanswered : Outcome := .error (.channelClosed .replyDropped)

structure Client where
  session : Session
  languages : List String
  initialized : Bool

namespace Client

def ofSession (session : Session) : Client := ⟨session, [], false⟩

/-- The outcome of a request; one that never comes counts as lost. -/
def ask (request : Request) (c : Client) : Outcome × Client :=
  let (session, outcome?) := c.session.request request
  (outcome?.getD unanswered, { c with session := session })

def start (languages : List String) (c : Client) : Except Recognition.Failure Unit × Client :=
  match startWith ask languages c with
  | (.ok _, c) => (.ok (), { c with languages := languages, initialized := true })
  | (.error failure, c) => (.error failure, c)

def read (path : Path) (c : Client) : Except Recognition.Failure (List Item) × Client :=
  readWith ask path c

def stop (c : Client) : Except Recognition.Failure Unit × Client :=
  (.ok (), { c with session := c.session.shutDown })

def recognizer : Recognizer Client := ⟨start, read, stop⟩

end Client

end ImageSearch.Worker
