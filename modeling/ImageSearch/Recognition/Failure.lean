import ImageSearch.Disk
import ImageSearch.Duration
import ImageSearch.Json.Decode
import ImageSearch.Text.Utf8

set_option autoImplicit false

namespace ImageSearch.Recognition

open ImageSearch.Json

inductive ProtocolFault where
  | commandName (name : String)
  | lineBreak (argument : String)
  | unreadable (error : DecodeError) (line : String)
  | notText (error : Text.Utf8Error)
  | payload (error : DecodeError)
  | stated (text : String)
  deriving Repr

def ProtocolFault.message : ProtocolFault → String
  | .commandName name => s!"invalid command name: {Text.quoted name}"
  | .lineBreak argument => s!"argument contains a line break: {Text.quoted argument}"
  | .unreadable error line => s!"Failed to parse worker output ({error.message}): {line}"
  | .notText error => s!"worker output is not UTF-8: {error.message}"
  | .payload error => s!"unexpected read_text payload: {error.message}"
  | .stated text => text

inductive ClosedReason where
  | inputClosed
  | replyDropped
  | stated (text : String)
  deriving Repr, DecidableEq

def ClosedReason.message : ClosedReason → String
  | .inputClosed => "worker input stream already closed"
  | .replyDropped => "worker reply dropped"
  | .stated text => text

/-- An absent exit code means death by a signal, or that no code is known yet. -/
inductive Failure where
  | startup (program : String) (fault : IoFault)
  | workerExited (code : Option Int)
  | protocol (fault : ProtocolFault)
  | initialization (message : String)
  | recognition (message : String)
  | timeout (limit : Duration)
  | channelClosed (reason : ClosedReason)
  | io (fault : IoFault)
  | json (error : DecodeError)
  deriving Repr

def exitCodeText : Option Int → String
  | some code => s!"Some({code})"
  | none => "None"

/-- The text of a failure; `faultText` says how faults of the file system are shown. -/
def Failure.message (faultText : IoFault → String) : Failure → String
  | .startup program fault => s!"failed to start worker process '{program}': {faultText fault}"
  | .workerExited code =>
    s!"worker process exited with a request pending (exit code: {exitCodeText code})"
  | .protocol fault => s!"worker protocol error: {fault.message}"
  | .initialization message => s!"initialization failed: {message}"
  | .recognition message => s!"recognition failed: {message}"
  | .timeout limit => s!"worker did not respond within {limit.text}"
  | .channelClosed reason => s!"worker channel closed: {reason.message}"
  | .io fault => faultText fault
  | .json error => error.message

/-- The worker is gone, whatever it had reported. -/
def Failure.isWorkerLost : Failure → Bool
  | .workerExited _ | .timeout _ | .channelClosed _ => true
  | _ => false

end ImageSearch.Recognition
