import ImageSearch.Worker.Channel.Step

set_option autoImplicit false

namespace ImageSearch.Worker

/-- One step of a script, which stands in for a recogniser. -/
structure ScriptStep where
  after : Nat
  /-- From now on the end of the input does not end the worker. -/
  ignoresEnd : Bool
  endsInput : Bool
  /-- What is written, whether or not it ends in a line feed. -/
  output : List Nat
  signalled : Bool
  exit : Option Int
  hangs : Bool
  deriving Repr

abbrev Script := List ScriptStep

/-- The answer to every request after the last step. -/
def exhausted : ScriptStep where
  after := 1
  ignoresEnd := false
  endsInput := false
  output := Text.textBytes "\x7b\"status\":\"error\",\"message\":\"plan exhausted\"\x7d\n".toList
  signalled := false
  exit := none
  hangs := false

structure Player where
  script : Script
  /-- Request lines to be read before the present step acts. -/
  wanted : Nat
  linesRead : Nat
  ignoresEnd : Bool
  asleep : Bool
  /-- Output after the last line feed. -/
  pending : List Nat
  deriving Repr

namespace Player

def present (p : Player) : ScriptStep := p.script.headD exhausted

def start (script : Script) : Player :=
  ⟨script, (script.headD exhausted).after, 0, false, false, []⟩

def advance (p : Player) : Player :=
  { p with script := p.script.drop 1, wanted := ((p.script.drop 1).headD exhausted).after }

/-- The complete lines at the front of bytes, and the bytes behind them. -/
def cutLines : List Nat → List (List Nat) × List Nat
  | [] => ([], [])
  | b :: rest =>
    let (lines, left) := cutLines rest
    if b = 10 then ([b] :: lines, left)
    else
      match lines with
      | [] => ([], b :: left)
      | line :: more => ((b :: line) :: more, left)

/-- The output that no line feed ends becomes a line when the worker dies. -/
def lastWords (p : Player) (place : Nat) : List Event :=
  if p.pending.isEmpty then [] else [.workerWrites place p.pending]

def dying (p : Player) (place : Nat) (code : Option Int) : List Event × Player :=
  (p.lastWords place ++ [.workerExits place code], { p with pending := [], asleep := true })

/-- Exit codes are bytes. -/
def exitByte (code : Int) : Int := code % 256

def act (p : Player) (place : Nat) : List Event × Player :=
  let s := p.present
  let (lines, pending) := cutLines (p.pending ++ s.output)
  let before : List Event :=
    (if s.endsInput then [.workerEndsInput place] else []) ++ lines.map (.workerWrites place ·)
  let p := { p.advance with pending := pending, ignoresEnd := p.ignoresEnd || s.ignoresEnd }
  let code? : Option (Option Int) :=
    if s.signalled then some none else s.exit.map fun code => some (exitByte code)
  match code? with
  | some code =>
    let (last, p) := p.dying place code
    (before ++ last, p)
  | none => (before, { p with asleep := s.endsInput || s.hangs })

/-- What the worker does next with its process: the events, the request line that it reads, and its
own progress. -/
def next (p : Player) (place : Nat) (process : Process) :
    Option (List Event × Option String × Player) :=
  if p.asleep || !process.isAlive then none
  else if p.wanted = 0 then
    let (events, p) := p.act place
    some (events, none, p)
  else
    match process.lines[p.linesRead]? with
    | some line =>
      let read : List Event :=
        if 0 < process.unread then [.workerReads place process.unread] else []
      some (read, some line, { p with linesRead := p.linesRead + 1, wanted := p.wanted - 1 })
    | none =>
      if 0 < process.unread then some ([.workerReads place process.unread], none, p)
      else if process.inputOpen then none
      else if p.ignoresEnd then some ([], none, { p with asleep := true })
      else
        let (events, p) := p.dying place (some 0)
        some (events, none, p)

end Player

end ImageSearch.Worker
