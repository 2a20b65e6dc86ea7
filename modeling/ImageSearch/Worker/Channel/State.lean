import ImageSearch.Worker.Channel.Table
import ImageSearch.Worker.Request

set_option autoImplicit false

namespace ImageSearch.Worker

open Recognition

/-- One worker process. What was written to it and what it wrote is kept whole; the counts tell how
much of it has been read. -/
structure Process where
  generation : Nat
  table : Table
  inputOpen : Bool
  /-- The worker holds the input pipe open. -/
  inputRead : Bool
  killAsked : Bool
  /-- The complete lines in the input pipe, in the order in which they were written. -/
  lines : List String
  sent : Nat
  taken : Nat
  /-- The lines of the worker's output, each with the line feed at its end. -/
  output : List (List Nat)
  consumed : Nat
  outputEnded : Bool
  death : Option (Option Int)
  /-- The time at which the death was noticed. -/
  reaped : Option Nat
  /-- The exit code, once it is published. -/
  published : Option (Option Int)
  deriving Repr, DecidableEq

namespace Process

def start (generation : Nat) : Process where
  generation := generation
  table := .empty
  inputOpen := true
  inputRead := true
  killAsked := false
  lines := []
  sent := 0
  taken := 0
  output := []
  consumed := 0
  outputEnded := false
  death := none
  reaped := none
  published := none

def isAlive (p : Process) : Bool := p.death.isNone

def isLive (p : Process) : Bool := p.published.isNone

/-- The worker's end of the input pipe is open. -/
def acceptsInput (p : Process) : Bool := p.inputRead && p.isAlive

def unread (p : Process) : Nat := p.sent - p.taken

end Process

inductive ProcessState where
  | notStarted
  | starting
  | running
  | exited (code : Option Int)
  deriving Repr, DecidableEq

/-- Progress of a send; `place` is the place of a process. -/
inductive SendPhase where
  | queued
  | entered (place : Nat)
  /-- Holds the lock; the request is in the table and bytes are left to be written. -/
  | writing (place : Nat) (left : Nat)
  | awaiting (place : Nat) (deadline : Option Nat)
  /-- The deadline has passed; the request is still in the table. -/
  | expired (place : Nat)
  /-- The request is out of the table; waits for the lock to have the process killed. -/
  | killing (place : Nat)
  | done (outcome : Outcome)

structure Send where
  id : RequestId
  command : String
  line : String
  phase : SendPhase
  inbox : List Outcome

/-- Replies are taken until the deadline has passed. -/
def SendPhase.listens : SendPhase → Bool
  | .writing _ _ | .awaiting _ _ => true
  | _ => false

inductive ClosePhase where
  | probing
  /-- Has sent the close request, which is the send at a place. -/
  | asking (send : Nat)
  | ending
  | waiting (place : Nat) (deadline : Option Nat)
  | killing (place : Nat)
  | lingering (place : Nat)
  | done
  deriving Repr, DecidableEq

structure Close where
  id : RequestId
  phase : ClosePhase
  deriving Repr, DecidableEq

/-- A channel. The slot and the lock hold the places of a process and of a send. -/
structure Channel where
  program : String
  timeout : Option Duration
  capacity : Nat
  now : Nat
  slot : Option Nat
  lock : Option Nat
  spawns : Nat
  processes : List Process
  sends : List Send
  closes : List Close

namespace Channel

def pipeCapacity : Nat := 65536

def start (program : String) (timeout : Option Duration) (capacity : Nat) : Channel :=
  ⟨program, timeout, capacity, 0, none, none, 0, [], [], []⟩

def isFree (c : Channel) : Bool := c.lock.isNone

def current? (c : Channel) : Option Process := c.slot.bind (c.processes[·]?)

def processState (c : Channel) : ProcessState :=
  match c.current? with
  | none => .notStarted
  | some p =>
    match p.published with
    | none => .running
    | some code => .exited code

def isRunning (c : Channel) : Bool := c.processState == .running

def pendingCount (c : Channel) : Nat :=
  match c.current? with
  | none => 0
  | some p => p.table.entries.length

def updateProcess (c : Channel) (place : Nat) (f : Process → Process) : Channel :=
  { c with processes := c.processes.modify place f }

def updateSend (c : Channel) (i : Nat) (f : Send → Send) : Channel :=
  { c with sends := c.sends.modify i f }

def updateClose (c : Channel) (j : Nat) (phase : ClosePhase) : Channel :=
  { c with closes := c.closes.modify j ({ · with phase := phase }) }

def setPhase (c : Channel) (i : Nat) (phase : SendPhase) : Channel :=
  c.updateSend i ({ · with phase := phase })

def leave (c : Channel) (i : Nat) (outcome : Outcome) : Channel :=
  { c.setPhase i (.done outcome) with lock := none }

/-- The time at which a request that begins now has taken too long. -/
def deadline (c : Channel) : Option Nat := c.timeout.map (c.now + ·.toNanos)

/-- Hands a reply to its caller, if it still listens. -/
def deliver (c : Channel) (r : Reply) : Channel :=
  c.updateSend r.caller fun s =>
    if s.phase.listens then { s with inbox := s.inbox ++ [r.outcome] } else s

def deliverAll (c : Channel) (replies : List Reply) : Channel := replies.foldl deliver c

end Channel

end ImageSearch.Worker
