import ImageSearch.Worker.Script

set_option autoImplicit false

namespace ImageSearch.Worker

open Recognition

inductive Demand where
  | send (request : Request)
  | close
  deriving Repr

structure Planned where
  place : Nat
  time : Nat
  demand : Demand
  deriving Repr

inductive Ticket where
  | send (i : Nat)
  | close (j : Nat)
  deriving Repr, DecidableEq

/-- A channel to scripted workers, run in one fixed order. Callers go before workers, workers before
the tasks that watch them, and time passes only when nothing else can happen. The lock goes to the
caller that has waited longest. -/
structure Session where
  channel : Channel
  launch : Option IoFault
  plan : List Script
  players : List Player
  /-- Every request line that a worker has read, with the place of the worker. -/
  received : List (Nat × String)
  nextId : RequestId
  /-- The callers that want the lock, in the order in which they came. -/
  queue : List Ticket
  /-- Steps of callers since the workers had their last turn. -/
  streak : Nat

namespace Session

def firstId : RequestId := 0x6f1d9a52c3b84e70a1f4d25b8c97e300

def start (channel : Channel) (launch : Option IoFault) (plan : List Script) : Session :=
  ⟨channel, launch, plan, [], [], firstId, [], 0⟩

/-- The step that a send can take by itself. -/
def sendEvent? (s : Session) (i : Nat) (send : Send) : Option Event :=
  match send.phase with
  | .entered _ => some (.insert i)
  | .writing place left => do
    let p ← s.channel.processes[place]?
    if !p.acceptsInput then some (.writeFails i)
    else
      let bytes := min left (s.channel.capacity - p.unread)
      if 0 < bytes then some (.write i bytes) else none
  | .awaiting _ deadline =>
    if !send.inbox.isEmpty then some (.receive i)
    else
      match deadline with
      | some time => if time ≤ s.channel.now then some (.expire i) else none
      | none => none
  | .expired _ => some (.withdraw i)
  | .queued | .killing _ | .done _ => none

def closeEvent? (s : Session) (j : Nat) (close : Close) : Option Event :=
  match close.phase with
  | .asking i => do
    let send ← s.channel.sends[i]?
    match send.phase with
    | .done _ => some (.acknowledge j)
    | _ => none
  | .waiting place deadline =>
    if s.channel.hasExited place then some (.finish j)
    else
      match deadline with
      | some time => if time ≤ s.channel.now then some (.overrun j) else none
      | none => none
  | .lingering place => if s.channel.hasExited place then some (.finish j) else none
  | .probing | .ending | .killing _ | .done => none

def lockEvent? (s : Session) : Ticket → Option Event
  | .send i => do
    match (← s.channel.sends[i]?).phase with
    | .queued => some (.enter i s.launch)
    | .killing _ => some (.kill i)
    | _ => none
  | .close j => do
    match (← s.channel.closes[j]?).phase with
    | .probing => some (.probe j)
    | .ending => some (.endInput j)
    | .killing _ => some (.killCurrent j)
    | _ => none

/-- The step that the tasks of a process can take. -/
def watchEvent? (s : Session) (place : Nat) (p : Process) : Option Event :=
  if p.consumed < p.output.length && !p.outputEnded then some (.readLine place)
  else if p.isAlive then none
  else if !p.outputEnded then some (.endOutput place)
  else if p.reaped.isNone then some (.reap place)
  else if s.channel.canPublish p then some (.publish place)
  else if p.published.isSome && p.table.closed.isNone then some (.drain place)
  else none

/-- Takes one event; a process that it starts gets the next script. -/
def apply (s : Session) (e : Event) : Session :=
  match s.channel.step e with
  | none => s
  | some c =>
    let started := c.processes.length - s.players.length
    let scripts := (List.range started).map fun k => s.plan.getD k []
    { s with
      channel := c
      players := s.players ++ scripts.map Player.start
      plan := s.plan.drop started }

def applyAll (s : Session) (events : List Event) : Session := events.foldl apply s

def firstWith {α β : Type} (f : Nat → α → Option β) : Nat → List α → Option β
  | _, [] => none
  | i, x :: rest => (f i x).or (firstWith f (i + 1) rest)

/-- A worker is killed after its last words. -/
def killed? (s : Session) (place : Nat) (p : Process) : Option Session :=
  if p.killAsked && p.isAlive then do
    let player ← s.players[place]?
    let s := s.applyAll (player.lastWords place ++ [.obeyKill place])
    return { s with players := s.players.modify place ({ · with pending := [], asleep := true }) }
  else none

def played? (s : Session) (place : Nat) (p : Process) : Option Session := do
  let player ← s.players[place]?
  let (events, line?, player) ← player.next place p
  let s := s.applyAll events
  return { s with
    players := s.players.set place player
    received := s.received ++ (line?.map fun line => (place, String.ofList line.toList.dropLast)).toList }

def join (s : Session) (t : Ticket) : Session :=
  if (s.lockEvent? t).isSome then { s with queue := s.queue ++ [t] } else s

/-- Takes a step of a caller. Whoever wants the lock after it joins the queue: the caller itself, or
the send that it makes. -/
def act (s : Session) (t : Ticket) (e : Event) : Session :=
  let next := (s.apply e).join t
  if s.channel.sends.length < next.channel.sends.length then next.join (.send s.channel.sends.length)
  else next

/-- A free lock goes to the first in the queue. -/
def lockStep? (s : Session) : Option Session :=
  match s.queue with
  | [] => none
  | t :: rest =>
    if s.channel.isFree then
      (s.lockEvent? t).map fun e => { s with queue := rest }.act t e
    else none

def callerStep? (s : Session) : Option Session :=
  ((firstWith (fun i send => (s.sendEvent? i send).map (s.act (.send i))) 0 s.channel.sends).or
    (firstWith (fun j close => (s.closeEvent? j close).map (s.act (.close j))) 0
      s.channel.closes)).or s.lockStep?

def workerStep? (s : Session) : Option Session :=
  (firstWith s.killed? 0 s.channel.processes).or <|
    (firstWith s.played? 0 s.channel.processes).or <|
      (firstWith s.watchEvent? 0 s.channel.processes).map s.apply

def make (s : Session) (d : Demand) : Session × Ticket :=
  let next := { s with nextId := s.nextId + 1 }
  match d with
  | .send request =>
    let ticket := .send s.channel.sends.length
    ((next.apply (.send s.nextId request)).join ticket, ticket)
  | .close =>
    let ticket := .close s.channel.closes.length
    ((next.apply (.close s.nextId)).join ticket, ticket)

def deadlines (s : Session) : List Nat :=
  (s.channel.sends.filterMap fun send =>
    match send.phase with
    | .awaiting _ deadline => deadline
    | _ => none)
  ++ s.channel.closes.filterMap fun close =>
    match close.phase with
    | .waiting _ deadline => deadline
    | _ => none

/-- Lets time pass up to the earliest of some moments, if there is one in the future. -/
def wait? (s : Session) (moments : List Nat) : Option Session :=
  match moments.min? with
  | none => none
  | some time =>
    if s.channel.now < time then some (s.apply (.tick (time - s.channel.now))) else none

/-- How many steps callers take before the workers have a turn. -/
def patience : Nat := 61

def turn? (s : Session) : Option Session :=
  if s.streak < patience then
    s.callerStep?.map ({ · with streak := s.streak + 1 })
  else
    (s.workerStep?.or s.callerStep?).map ({ · with streak := 0 })

/-- Runs until all demands are made and nothing more can happen. Demands that are due are made one
after another, each as soon as the callers before it wait. -/
def runWithin : Nat → Session → List Planned → List (Nat × Ticket) → Session × List (Nat × Ticket)
  | 0, s, _, tickets => (s, tickets)
  | fuel + 1, s, planned, tickets =>
    match s.turn? with
    | some s => runWithin fuel s planned tickets
    | none =>
      match planned.find? (·.time ≤ s.channel.now) with
      | some p =>
        let (s, ticket) := s.make p.demand
        runWithin fuel s (planned.eraseP (·.time ≤ s.channel.now)) (tickets ++ [(p.place, ticket)])
      | none =>
        match s.workerStep? with
        | some s => runWithin fuel { s with streak := 0 } planned tickets
        | none =>
          match s.wait? (planned.map (·.time) ++ s.deadlines) with
          | some s => runWithin fuel s planned tickets
          | none => (s, tickets)

def stepLimit : Nat := 1000000

/-- What became of a demand; a close has no result of its own. -/
def outcome? (s : Session) : Ticket → Option Outcome
  | .send i => do
    match (← s.channel.sends[i]?).phase with
    | .done outcome => some outcome
    | _ => none
  | .close _ => none

/-- Makes demands after delays and runs to the end; each ticket comes with the place of its
demand. -/
def perform (s : Session) (demands : List (Nat × Demand)) : Session × List (Nat × Ticket) :=
  let planned := demands.zipIdx.map fun ((delay, demand), place) =>
    Planned.mk place (s.channel.now + delay) demand
  runWithin stepLimit s planned []

def request (s : Session) (r : Request) : Session × Option Outcome :=
  let (s, tickets) := s.perform [(0, .send r)]
  (s, (tickets.head?).bind fun ticket => s.outcome? ticket.2)

def shutDown (s : Session) : Session := (s.perform [(0, .close)]).1

end Session

end ImageSearch.Worker
