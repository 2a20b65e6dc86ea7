import ImageSearch.Worker.Channel.State

set_option autoImplicit false

namespace ImageSearch.Worker

open Recognition

/-- One step of a caller, of the worker, of the tasks that read its output and watch over it, or of
the clock. Numbers are the places of sends, closes and processes. Any order of enabled events is a
run. -/
inductive Event where
  | send (id : RequestId) (request : Request)
  /-- The send takes the lock; `fault` says why no process can be started, should one be needed. -/
  | enter (i : Nat) (fault : Option IoFault)
  | insert (i : Nat)
  | write (i : Nat) (bytes : Nat)
  | writeFails (i : Nat)
  | receive (i : Nat)
  /-- The send finds that no reply can come. -/
  | abandon (i : Nat)
  | expire (i : Nat)
  | withdraw (i : Nat)
  | kill (i : Nat)
  /-- A caller closes the channel; the identifier is for the close request. -/
  | close (id : RequestId)
  | probe (j : Nat)
  | acknowledge (j : Nat)
  | endInput (j : Nat)
  | overrun (j : Nat)
  | killCurrent (j : Nat)
  | finish (j : Nat)
  | workerReads (place : Nat) (bytes : Nat)
  | workerWrites (place : Nat) (line : List Nat)
  | workerEndsInput (place : Nat)
  | workerExits (place : Nat) (code : Option Int)
  | readLine (place : Nat)
  | endOutput (place : Nat)
  | obeyKill (place : Nat)
  | reap (place : Nat)
  | publish (place : Nat)
  | drain (place : Nat)
  | tick (nanos : Nat)

namespace Channel

/-- A request that cannot be encoded fails at once. -/
def send (c : Channel) (id : RequestId) (request : Request) : Channel :=
  let entry : Send :=
    match request.line with
    | .ok line => ⟨id, request.command, line, .queued, []⟩
    | .error fault => ⟨id, request.command, "", .done (.error (.protocol fault)), []⟩
  { c with sends := c.sends ++ [entry] }

def useCurrent (c : Channel) (i place : Nat) (p : Process) : Channel :=
  if p.inputOpen then { c.setPhase i (.entered place) with lock := some i }
  else c.setPhase i (.done (.error (.channelClosed .inputClosed)))

/-- Starts a process in place of an exited one. -/
def spawn (c : Channel) (i : Nat) (fault : Option IoFault) : Channel :=
  match fault with
  | some fault =>
    { c.setPhase i (.done (.error (.startup c.program fault))) with slot := none }
  | none =>
    { c.setPhase i (.entered c.processes.length) with
      slot := some c.processes.length
      lock := some i
      spawns := c.spawns + 1
      processes := c.processes ++ [Process.start (c.spawns + 1)] }

def live? (c : Channel) : Option (Nat × Process) := do
  let place ← c.slot
  let p ← c.processes[place]?
  if p.isLive then some (place, p) else none

def enter (c : Channel) (i : Nat) (fault : Option IoFault) : Option Channel := do
  let s ← c.sends[i]?
  match s.phase with
  | .queued =>
    if c.isFree then
      match c.live? with
      | some (place, p) => some (c.useCurrent i place p)
      | none => some (c.spawn i fault)
    else none
  | _ => none

def insert (c : Channel) (i : Nat) : Option Channel := do
  let s ← c.sends[i]?
  match s.phase with
  | .entered place =>
    let p ← c.processes[place]?
    match p.table.insert ⟨s.id, s.command, i⟩ with
    | .error failure => some (c.leave i (.error failure))
    | .ok table =>
      some ((c.updateProcess place ({ · with table := table })).setPhase i
        (.writing place s.line.utf8ByteSize))
  | _ => none

def written (c : Channel) (i place : Nat) (line : String) : Channel :=
  { (c.updateProcess place fun p => { p with lines := p.lines ++ [line] }).setPhase i
      (.awaiting place c.deadline) with lock := none }

def write (c : Channel) (i bytes : Nat) : Option Channel := do
  let s ← c.sends[i]?
  match s.phase with
  | .writing place left =>
    let p ← c.processes[place]?
    if p.acceptsInput ∧ 0 < bytes ∧ bytes ≤ left ∧ p.unread + bytes ≤ c.capacity then
      let c := c.updateProcess place fun p => { p with sent := p.sent + bytes }
      if bytes = left then some (c.written i place s.line)
      else some (c.setPhase i (.writing place (left - bytes)))
    else none
  | _ => none

def writeFails (c : Channel) (i : Nat) : Option Channel := do
  let s ← c.sends[i]?
  match s.phase with
  | .writing place _ =>
    let p ← c.processes[place]?
    if p.acceptsInput then none
    else
      some ((c.updateProcess place fun p => { p with table := p.table.remove s.id }).leave i
        (.error (.workerExited none)))
  | _ => none

def receive (c : Channel) (i : Nat) : Option Channel := do
  let s ← c.sends[i]?
  match s.phase, s.inbox with
  | .awaiting _ _, outcome :: _ => some (c.setPhase i (.done outcome))
  | _, _ => none

def isAbsent (p : Process) (i : Nat) : Bool := p.table.entries.all (·.caller != i)

def abandon (c : Channel) (i : Nat) : Option Channel := do
  let s ← c.sends[i]?
  match s.phase, s.inbox with
  | .awaiting place _, [] =>
    let p ← c.processes[place]?
    if isAbsent p i then some (c.setPhase i (.done (.error (.channelClosed .replyDropped))))
    else none
  | _, _ => none

def expire (c : Channel) (i : Nat) : Option Channel := do
  let s ← c.sends[i]?
  match s.phase, s.inbox with
  | .awaiting place (some deadline), [] =>
    if deadline ≤ c.now then some (c.setPhase i (.expired place)) else none
  | _, _ => none

def withdraw (c : Channel) (i : Nat) : Option Channel := do
  let s ← c.sends[i]?
  match s.phase with
  | .expired place =>
    some ((c.updateProcess place fun p => { p with table := p.table.remove s.id }).setPhase i
      (.killing place))
  | _ => none

def askKill (c : Channel) (place : Nat) : Channel :=
  c.updateProcess place ({ · with killAsked := true })

/-- Asks for the death of the current process if it is of a generation. -/
def killGeneration (c : Channel) (generation : Nat) : Channel :=
  match c.slot with
  | none => c
  | some place =>
    match c.processes[place]? with
    | none => c
    | some p => if p.generation = generation then c.askKill place else c

def kill (c : Channel) (i : Nat) : Option Channel := do
  let s ← c.sends[i]?
  match s.phase with
  | .killing place =>
    let p ← c.processes[place]?
    let limit ← c.timeout
    if c.isFree then
      some ((c.killGeneration p.generation).setPhase i (.done (.error (.timeout limit))))
    else none
  | _ => none

def close (c : Channel) (id : RequestId) : Channel :=
  { c with closes := c.closes ++ [⟨id, .probing⟩] }

def probe (c : Channel) (j : Nat) : Option Channel := do
  let k ← c.closes[j]?
  match k.phase with
  | .probing =>
    if !c.isFree then none
    else if c.isRunning then
      some ((c.send k.id Request.close).updateClose j (.asking c.sends.length))
    else some (c.updateClose j .done)
  | _ => none

def acknowledge (c : Channel) (j : Nat) : Option Channel := do
  let k ← c.closes[j]?
  match k.phase with
  | .asking i =>
    let s ← c.sends[i]?
    match s.phase with
    | .done _ => some (c.updateClose j .ending)
    | _ => none
  | _ => none

def endInput (c : Channel) (j : Nat) : Option Channel := do
  let k ← c.closes[j]?
  match k.phase with
  | .ending =>
    if !c.isFree then none
    else
      match c.slot with
      | none => some (c.updateClose j .done)
      | some place =>
        some ((c.updateProcess place ({ · with inputOpen := false })).updateClose j
          (.waiting place c.deadline))
  | _ => none

def hasExited (c : Channel) (place : Nat) : Bool :=
  match c.processes[place]? with
  | some p => !p.isLive
  | none => false

def overrun (c : Channel) (j : Nat) : Option Channel := do
  let k ← c.closes[j]?
  match k.phase with
  | .waiting place (some deadline) =>
    if deadline ≤ c.now ∧ !c.hasExited place then some (c.updateClose j (.killing place)) else none
  | _ => none

def killCurrent (c : Channel) (j : Nat) : Option Channel := do
  let k ← c.closes[j]?
  match k.phase with
  | .killing place =>
    if !c.isFree then none
    else
      match c.slot with
      | none => some (c.updateClose j (.lingering place))
      | some current => some ((c.askKill current).updateClose j (.lingering place))
  | _ => none

def finish (c : Channel) (j : Nat) : Option Channel := do
  let k ← c.closes[j]?
  match k.phase with
  | .waiting place _ | .lingering place =>
    if c.hasExited place then some (c.updateClose j .done) else none
  | _ => none

def onProcess (c : Channel) (place : Nat) (enabled : Process → Bool) (f : Process → Process) :
    Option Channel := do
  let p ← c.processes[place]?
  if enabled p then some (c.updateProcess place f) else none

def workerReads (c : Channel) (place bytes : Nat) : Option Channel :=
  c.onProcess place (fun p => p.acceptsInput && decide (0 < bytes) && decide (bytes ≤ p.unread))
    fun p => { p with taken := p.taken + bytes }

def workerWrites (c : Channel) (place : Nat) (line : List Nat) : Option Channel :=
  c.onProcess place Process.isAlive fun p => { p with output := p.output ++ [line] }

def workerEndsInput (c : Channel) (place : Nat) : Option Channel :=
  c.onProcess place Process.isAlive fun p => { p with inputRead := false }

def workerExits (c : Channel) (place : Nat) (code : Option Int) : Option Channel :=
  c.onProcess place Process.isAlive fun p => { p with death := some code }

def takeLine (t : Table) (bytes : List Nat) : Table × Option Reply :=
  match Text.readUtf8 bytes with
  | .error fault => t.rejectOldest (.protocol (.notText fault))
  | .ok cs =>
    let line := Text.trim cs
    if line.isEmpty then (t, none)
    else
      match Response.ofLine line with
      | .ok response => t.resolve response
      | .error fault => t.rejectOldest (.protocol fault)

def readLine (c : Channel) (place : Nat) : Option Channel := do
  let p ← c.processes[place]?
  let bytes ← p.output[p.consumed]?
  if p.outputEnded then none
  else
    let (table, reply?) := takeLine p.table bytes
    let c := c.updateProcess place fun p => { p with table := table, consumed := p.consumed + 1 }
    some (c.deliverAll reply?.toList)

/-- How long output is read after the death of a process. -/
def drainGrace : Nat := 500000000

/-- The end of the output has been waited for long enough, and the reader is told to stop. -/
def isOverdue (c : Channel) (p : Process) : Bool :=
  match p.reaped with
  | some noticed => decide (noticed + drainGrace ≤ c.now)
  | none => false

/-- The reader stops when all is read, or after it is told to, which may take it a while. -/
def endOutput (c : Channel) (place : Nat) : Option Channel :=
  c.onProcess place
    (fun p => !p.outputEnded && (!p.isAlive && p.consumed == p.output.length || c.isOverdue p))
    ({ · with outputEnded := true })

/-- A killed process has no exit code. -/
def obeyKill (c : Channel) (place : Nat) : Option Channel :=
  c.onProcess place (fun p => p.killAsked && p.isAlive) ({ · with death := some none })

def reap (c : Channel) (place : Nat) : Option Channel :=
  c.onProcess place (fun p => !p.isAlive && p.reaped.isNone) ({ · with reaped := some c.now })

/-- The exit is published when the output has ended or has been waited for long enough. -/
def canPublish (c : Channel) (p : Process) : Bool :=
  p.isLive && p.reaped.isSome && (p.outputEnded || c.isOverdue p)

def publish (c : Channel) (place : Nat) : Option Channel :=
  c.onProcess place c.canPublish fun p => { p with published := p.death }

/-- After its exit is published the requests of a process fail. -/
def drain (c : Channel) (place : Nat) : Option Channel := do
  let p ← c.processes[place]?
  let code ← p.published
  if p.table.closed.isSome then none
  else
    let (table, replies) := p.table.failAll code
    some ((c.updateProcess place ({ · with table := table })).deliverAll replies)

def step (c : Channel) : Event → Option Channel
  | .send id request => some (c.send id request)
  | .enter i fault => c.enter i fault
  | .insert i => c.insert i
  | .write i bytes => c.write i bytes
  | .writeFails i => c.writeFails i
  | .receive i => c.receive i
  | .abandon i => c.abandon i
  | .expire i => c.expire i
  | .withdraw i => c.withdraw i
  | .kill i => c.kill i
  | .close id => some (c.close id)
  | .probe j => c.probe j
  | .acknowledge j => c.acknowledge j
  | .endInput j => c.endInput j
  | .overrun j => c.overrun j
  | .killCurrent j => c.killCurrent j
  | .finish j => c.finish j
  | .workerReads place bytes => c.workerReads place bytes
  | .workerWrites place line => c.workerWrites place line
  | .workerEndsInput place => c.workerEndsInput place
  | .workerExits place code => c.workerExits place code
  | .readLine place => c.readLine place
  | .endOutput place => c.endOutput place
  | .obeyKill place => c.obeyKill place
  | .reap place => c.reap place
  | .publish place => c.publish place
  | .drain place => c.drain place
  | .tick nanos => some { c with now := c.now + nanos }

def run (c : Channel) : List Event → Option Channel
  | [] => some c
  | e :: rest => (c.step e).bind (·.run rest)

end Channel

end ImageSearch.Worker
