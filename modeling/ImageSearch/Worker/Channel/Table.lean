import ImageSearch.Worker.Channel.RequestId
import ImageSearch.Worker.Response

set_option autoImplicit false

namespace ImageSearch.Worker

open Recognition

abbrev Outcome := Except Recognition.Failure Response

/-- A request that waits for its answer; `caller` is the place of its send. -/
structure Entry where
  id : RequestId
  command : String
  caller : Nat
  deriving Repr, DecidableEq

structure Reply where
  caller : Nat
  outcome : Outcome

/-- The requests that were written to a process and not yet answered, oldest first. A table is
closed with the exit code of its process. -/
structure Table where
  entries : List Entry
  closed : Option (Option Int)
  deriving Repr, DecidableEq

namespace Table

def empty : Table := ⟨[], none⟩

def insert (t : Table) (e : Entry) : Except Recognition.Failure Table :=
  match t.closed with
  | some code => .error (.workerExited code)
  | none => .ok { t with entries := t.entries ++ [e] }

def remove (t : Table) (id : RequestId) : Table :=
  { t with entries := t.entries.eraseP (·.id == id) }

def answerOldest (t : Table) (outcome : Outcome) : Table × Option Reply :=
  match t.entries with
  | [] => (t, none)
  | e :: rest => ({ t with entries := rest }, some ⟨e.caller, outcome⟩)

def answerNamed (t : Table) (id : RequestId) (outcome : Outcome) : Table × Option Reply :=
  match t.entries.find? (·.id == id) with
  | none => (t, none)
  | some e => (t.remove id, some ⟨e.caller, outcome⟩)

/-- A response goes to the request that it names, and to the oldest one when it names none. -/
def resolve (t : Table) (r : Response) : Table × Option Reply :=
  match r.id with
  | none => t.answerOldest (.ok r)
  | some text =>
    match RequestId.ofText? text with
    | none => (t, none)
    | some id => t.answerNamed id (.ok r)

def rejectOldest (t : Table) (failure : Recognition.Failure) : Table × Option Reply :=
  t.answerOldest (.error failure)

/-- Closes the table: every entry learns that the worker has exited. -/
def failAll (t : Table) (code : Option Int) : Table × List Reply :=
  (⟨[], some code⟩, t.entries.map fun e => ⟨e.caller, .error (.workerExited code)⟩)

end Table

end ImageSearch.Worker
