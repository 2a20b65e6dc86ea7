import ImageSearch.Proofs.Channel.Settlement

set_option autoImplicit false

namespace ImageSearch.Worker

open Recognition

/-- How many steps the reader and the watcher of a dead process have yet to take. -/
def Process.stepsLeft (p : Process) : Nat :=
  (p.output.length - p.consumed) + (if p.outputEnded then 0 else 1) +
    (if p.reaped.isSome then 0 else 1) + (if p.published.isSome then 0 else 1) +
    (if p.table.closed.isSome then 0 else 1)

namespace Channel

variable {c d : Channel} {e : Event} {j facts : Journal} {r : List Reply} {i place : Nat}
  {s : Send} {p q : Process}

def conclusions (place i : Nat) : List Event :=
  [.readLine place, .endOutput place, .reap place, .publish place, .drain place, .writeFails i,
    .receive i]

/-- How many steps are left until a request returns whose process is dead. -/
def stepsLeft (c : Channel) (place i : Nat) : Nat :=
  (c.processes[place]?.map Process.stepsLeft).getD 0 + if (c.outcome? i).isSome then 0 else 1

/-- One of the steps can be taken without delay, and then fewer are left. -/
def Advances (c : Channel) (place i : Nat) : Prop :=
  ∃ e ∈ conclusions place i, ∃ d, c.step e = some d ∧ d.now = c.now ∧
    d.stepsLeft place i < c.stepsLeft place i

theorem outcome?_deliverAll (c : Channel) (replies : List Reply) :
    (c.deliverAll replies).outcome? i = c.outcome? i := by
  have phase : (c.deliverAll replies).sends[i]?.map Send.phase = c.sends[i]?.map Send.phase := by
    rw [lookup_deliverAll, Option.map_map]
    congr 1
    funext s
    exact s.hear_phase _
  rw [outcome?, phase, outcome?]

theorem stepsLeft_lt {f : Process → Process}
    (process : c.processes[place]? = some p) (less : (f p).stepsLeft < p.stepsLeft) :
    ((c.updateProcess place f).deliverAll r).stepsLeft place i < c.stepsLeft place i := by
  have after : ((c.updateProcess place f).deliverAll r).processes[place]? = some (f p) := by
    rw [deliverAll_processes, lookup_updateProcess, process, Option.map_some, if_pos rfl]
  have same : (c.updateProcess place f).outcome? i = c.outcome? i := rfl
  rw [stepsLeft, stepsLeft, after, process, outcome?_deliverAll, same, Option.map_some,
    Option.map_some, Option.getD_some, Option.getD_some]
  exact Nat.add_lt_add_right less _

theorem stepsLeft_lt_of_return {o : Outcome} (process : c.processes[place]? = some p)
    (after : d.processes[place]? = some q) (same : q.stepsLeft = p.stepsLeft)
    (before : c.outcome? i = none) (returned : d.outcome? i = some o) :
    d.stepsLeft place i < c.stepsLeft place i := by
  rw [stepsLeft, stepsLeft, after, process, before, returned, Option.map_some, Option.map_some,
    Option.getD_some, Option.getD_some, same]
  exact Nat.lt_add_one _

theorem advances_of {f : Process → Process} (process : c.processes[place]? = some p)
    (listed : e ∈ conclusions place i)
    (happens : c.step e = some ((c.updateProcess place f).deliverAll r))
    (less : (f p).stepsLeft < p.stepsLeft) : c.Advances place i := by
  refine ⟨e, listed, _, happens, ?_, stepsLeft_lt process less⟩
  rw [deliverAll_frame]
  rfl

theorem advances_of_onProcess {enabled : Process → Bool} {f : Process → Process}
    (process : c.processes[place]? = some p) (listed : e ∈ conclusions place i)
    (step : c.step e = c.onProcess place enabled f) (can : enabled p)
    (less : (f p).stepsLeft < p.stepsLeft) : c.Advances place i := by
  refine advances_of (r := []) process listed ?_ less
  simp only [step, onProcess, process, Option.bind_eq_bind, Option.bind_some, can, if_true]
  rfl

/-- Until the output of a dead process has ended, there is a step of its reader. -/
theorem reader_advances (behind : c.Behind) (process : c.processes[place]? = some p)
    (dead : p.isAlive = false) (unended : p.outputEnded = false) : c.Advances place i := by
  by_cases more : p.consumed < p.output.length
  · have line := List.getElem?_eq_getElem more
    generalize p.output[p.consumed] = bytes at line
    refine advances_of (e := .readLine place) (r := (takeLine p.table bytes).2.toList)
      (f := fun q => { q with table := (takeLine p.table bytes).1, consumed := q.consumed + 1 })
      process (by simp [conclusions]) ?_ ?_
    · simp [Channel.step, readLine, process, line, unended]
    · have closed : (takeLine p.table bytes).1.closed = p.table.closed := (takeLine_entries rfl).1
      simp only [Process.stepsLeft, closed]
      omega
  · have all : p.consumed = p.output.length :=
      Nat.le_antisymm (behind place p process) (Nat.le_of_not_lt more)
    refine advances_of_onProcess (e := .endOutput place) process (by simp [conclusions]) rfl ?_ ?_
    · simp [dead, unended, all]
    · simp [Process.stepsLeft, unended]

/-- Until the table of a dead process is closed, there is a step of its watcher or its reader. -/
theorem closed_or_advances (behind : c.Behind) (process : c.processes[place]? = some p)
    (dead : p.isAlive = false) : p.table.closed.isSome ∨ c.Advances place i := by
  have died : p.death.isSome := by simpa [Process.isAlive] using dead
  cases ended : p.outputEnded with
  | false => exact .inr (reader_advances behind process dead ended)
  | true =>
    cases reaped : p.reaped with
    | none =>
        refine .inr (advances_of_onProcess (e := .reap place) process (by simp [conclusions]) rfl
          ?_ ?_)
        · simp [dead, reaped]
        · simp [Process.stepsLeft, reaped]
    | some noticed =>
        cases published : p.published with
        | none =>
            refine .inr (advances_of_onProcess (e := .publish place) process
              (by simp [conclusions]) rfl ?_ ?_)
            · simp [canPublish, Process.isLive, published, reaped, ended]
            · simp [Process.stepsLeft, published, died, ended]
        | some code =>
            cases closed : p.table.closed with
            | some _ => exact .inl rfl
            | none =>
                refine .inr (advances_of (e := .drain place) (r := (p.table.failAll code).2)
                  (f := ({ · with table := (p.table.failAll code).1 })) process
                  (by simp [conclusions]) ?_ ?_)
                · simp [Channel.step, drain, process, published, closed]
                · simp [Process.stepsLeft, closed, Table.failAll]

/-- A send that writes to a dead process fails. -/
theorem writing_advances {left : Nat} (process : c.processes[place]? = some p)
    (dead : p.isAlive = false) (found : c.sends[i]? = some s)
    (writing : s.phase = .writing place left) : c.Advances place i := by
  have broken : p.acceptsInput = false := by rw [Process.acceptsInput, dead, Bool.and_false]
  have silent : c.outcome? i = none := by rw [outcome?, found, Option.map_some, writing]
  let freed := c.updateProcess place fun q => { q with table := q.table.remove s.id }
  have after : freed.processes[place]? = some { p with table := p.table.remove s.id } := by
    rw [lookup_updateProcess, process, Option.map_some, if_pos rfl]
  have returned : (freed.leave i (.error (.workerExited none))).outcome? i =
      some (.error (.workerExited none)) := outcome?_setPhase found _
  refine ⟨.writeFails i, by simp [conclusions], freed.leave i (.error (.workerExited none)), ?_,
    rfl, stepsLeft_lt_of_return process after rfl silent returned⟩
  simp only [Channel.step, writeFails, found, writing, process, broken, Option.bind_eq_bind,
    Option.bind_some]
  rfl

theorem awaiting_advances {deadline : Option Nat} {o : Outcome} {rest : List Outcome}
    (process : c.processes[place]? = some p) (found : c.sends[i]? = some s)
    (awaiting : s.phase = .awaiting place deadline) (heard : s.inbox = o :: rest) :
    c.Advances place i := by
  have silent : c.outcome? i = none := by rw [outcome?, found, Option.map_some, awaiting]
  refine ⟨.receive i, by simp [conclusions], c.setPhase i (.done o), ?_, rfl,
    stepsLeft_lt_of_return process process rfl silent (outcome?_setPhase found o)⟩
  simp only [Channel.step, receive, found, awaiting, heard, Option.bind_eq_bind, Option.bind_some]

/-- A request of a dead process has returned, or there is a step to take. -/
theorem Orderly.advances (orderly : c.Orderly j r) (untimed : c.timeout = none)
    (process : c.processes[place]? = some p) (dead : p.isAlive = false)
    (admitted : Fact.did .admitted i place ∈ j) :
    (∃ o, c.outcome? i = some o) ∨ c.Advances place i := by
  rcases closed_or_advances orderly.behind process dead with closed | step
  case inr => exact .inr step
  obtain ⟨code, closed⟩ := Option.isSome_iff_exists.mp closed
  have empty := (orderly.accounted.shut place p code process closed).table
  have chronicled := orderly.sound.chronicled
  obtain ⟨s, found⟩ : ∃ s, c.sends[i]? = some s :=
    ⟨_, List.getElem?_eq_getElem (chronicled.known _ _ _ admitted).1⟩
  have here {home : Nat} (phase : s.phase.place? = some home) : home = place :=
    chronicled.alone (chronicled.deeds i s _ home found (SendPhase.directed_mem phase) phase)
      admitted
  cases phase : s.phase with
  | queued | entered home =>
      refine absurd admitted (chronicled.ahead i s .admitted place found ?_)
      simp [phase, SendPhase.ahead]
  | writing home left =>
      have same := here (by rw [phase]; rfl)
      exact .inr (writing_advances process dead found (same ▸ phase))
  | awaiting home deadline =>
      have same := here (by rw [phase]; rfl)
      subst same
      cases heard : s.inbox with
      | nil =>
          have waiting := orderly.accounted.present chronicled found phase heard process
          rw [empty] at waiting
          cases waiting
      | cons o rest => exact .inr (awaiting_advances process found phase heard)
  | expired home | killing home =>
      have deadline := orderly.timed i s found (by rw [phase]; rfl)
      rw [untimed] at deadline
      cases deadline
  | done o => exact .inl ⟨o, outcome?_eq_some.mpr ⟨s, found, phase⟩⟩

theorem Move.ids (move : c.Move e facts d) (quiet : e.isDemand = false) :
    d.sends.map Send.id = c.sends.map Send.id := by
  have each (k : Nat) : d.sends[k]?.map Send.id = c.sends[k]?.map Send.id := by
    cases move with
    | background same => rw [same.sends]
    | arrive _ _ _ demand =>
        rw [demand] at quiet
        cases quiet
    | turn _ turn =>
        rw [lookup_setPhase, turn.sends, Option.map_map]
        congr 1
        funext s
        rw [Function.comp_apply]
        split
        all_goals rfl
    | readLine | drain =>
        rw [lookup_deliverAll, Option.map_map]
        exact congrArg (Option.map · _) (funext fun s => s.hear_id _)
  refine List.ext_getElem? fun k => ?_
  rw [List.getElem?_map, List.getElem?_map, each]

end Channel

end ImageSearch.Worker
