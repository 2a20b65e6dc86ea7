import ImageSearch.Proofs.Channel.Journal

set_option autoImplicit false

namespace ImageSearch.Worker

open Recognition

def Event.output : Event → Nat → List (List Nat)
  | .workerWrites at_ line, place => if at_ = place then [line] else []
  | _, _ => []

theorem Event.output_length (e : Event) (place : Nat) : (e.output place).length ≤ 1 := by
  unfold Event.output
  split
  · split
    all_goals simp
  · simp

/-- The events by which a request or a close is made; a close makes a request as it probes. -/
def Event.isDemand : Event → Bool
  | .send _ _ | .close _ | .probe _ => true
  | _ => false

/-- A process after a step that concerns neither its table nor what was read of its output. -/
structure Process.Stays (more : List (List Nat)) (p q : Process) : Prop where
  generation : q.generation = p.generation
  table : q.table = p.table
  lines : q.lines = p.lines
  consumed : q.consumed = p.consumed
  output : q.output = p.output ++ more
  published : p.published.isSome → q.published = p.published
  acceptsInput : q.acceptsInput → p.acceptsInput

theorem Process.Stays.refl (p : Process) : p.Stays [] p :=
  ⟨rfl, rfl, rfl, rfl, (List.append_nil _).symm, fun _ => rfl, id⟩

/-- A send that hears outcomes keeps them while it listens. -/
def Send.hear (s : Send) (outcomes : List Outcome) : Send :=
  if s.phase.listens then { s with inbox := s.inbox ++ outcomes } else s

@[simp] theorem Send.hear_phase (s : Send) (outcomes : List Outcome) :
    (s.hear outcomes).phase = s.phase := by
  unfold Send.hear
  split <;> rfl

@[simp] theorem Send.hear_id (s : Send) (outcomes : List Outcome) :
    (s.hear outcomes).id = s.id := by
  unfold Send.hear
  split <;> rfl

@[simp] theorem Send.hear_command (s : Send) (outcomes : List Outcome) :
    (s.hear outcomes).command = s.command := by
  unfold Send.hear
  split <;> rfl

@[simp] theorem Send.hear_line (s : Send) (outcomes : List Outcome) :
    (s.hear outcomes).line = s.line := by
  unfold Send.hear
  split <;> rfl

theorem Send.hear_nil (s : Send) : s.hear [] = s := by
  unfold Send.hear
  split
  · rw [List.append_nil]
  · rfl

theorem Send.hear_cons (s : Send) (outcome : Outcome) (rest : List Outcome) :
    (s.hear [outcome]).hear rest = s.hear (outcome :: rest) := by
  by_cases listens : s.phase.listens
  · simp [Send.hear, listens]
  · simp [Send.hear, listens]

namespace Channel

theorem lookup_updateProcess (c : Channel) (place k : Nat) (f : Process → Process) :
    (c.updateProcess place f).processes[k]? =
      c.processes[k]?.map fun p => if place = k then f p else p := by
  rw [updateProcess, List.getElem?_modify]
  rfl

theorem updateProcess_twice (c : Channel) (place : Nat) (f g : Process → Process) :
    (c.updateProcess place f).updateProcess place g = c.updateProcess place (g ∘ f) := by
  simp only [updateProcess, List.modify_modify_eq]

theorem lookup_updateSend (c : Channel) (i k : Nat) (f : Send → Send) :
    (c.updateSend i f).sends[k]? = c.sends[k]?.map fun s => if i = k then f s else s := by
  rw [updateSend, List.getElem?_modify]
  rfl

theorem lookup_setPhase (c : Channel) (i k : Nat) (phase : SendPhase) :
    (c.setPhase i phase).sends[k]? =
      c.sends[k]?.map fun s => if i = k then { s with phase := phase } else s :=
  lookup_updateSend c i k _

def outcomesFor (replies : List Reply) (k : Nat) : List Outcome :=
  (replies.filter (·.caller == k)).map Reply.outcome

theorem deliverAll_frame (c : Channel) (replies : List Reply) :
    c.deliverAll replies = { c with sends := (c.deliverAll replies).sends } := by
  induction replies generalizing c with
  | nil => rfl
  | cons r rest ih => exact ih (c.deliver r)

theorem lookup_deliverAll (c : Channel) (replies : List Reply) (k : Nat) :
    (c.deliverAll replies).sends[k]? =
      c.sends[k]?.map fun s => s.hear (outcomesFor replies k) := by
  induction replies generalizing c with
  | nil =>
      have same : (fun s : Send => s.hear (outcomesFor [] k)) = id :=
        funext Send.hear_nil
      rw [same, Option.map_id]
      rfl
  | cons r rest ih =>
      have head : (c.deliver r).sends[k]? =
          c.sends[k]?.map fun s => if r.caller = k then s.hear [r.outcome] else s :=
        lookup_updateSend c r.caller k _
      have tail : (c.deliverAll (r :: rest)).sends[k]? =
          ((c.deliver r).deliverAll rest).sends[k]? := rfl
      rw [tail, ih, head, Option.map_map]
      congr 1
      funext s
      by_cases same : r.caller = k
      · have outcomes : outcomesFor (r :: rest) k = r.outcome :: outcomesFor rest k := by
          simp [outcomesFor, same]
        rw [outcomes, ← Send.hear_cons]
        simp only [Function.comp_apply, same, if_true]
      · have outcomes : outcomesFor (r :: rest) k = outcomesFor rest k := by
          simp [outcomesFor, same]
        rw [outcomes]
        simp only [Function.comp_apply, same, if_false]

/-- What a step may do to the end of a process: a dead process writes nothing, no output is read
after its end, the output ends when all of it is read or when it is overdue, the exit is published
when it may be, and the death is noticed now. -/
structure Flow (c : Channel) (p q : Process) : Prop where
  dead : p.isAlive = false → q.isAlive = false ∧ q.output = p.output
  ended : p.outputEnded → q.outputEnded ∧ q.consumed = p.consumed
  ends : q.outputEnded → p.outputEnded ∨ c.isOverdue p ∨
    (q.isAlive = false ∧ q.consumed = q.output.length)
  publishes : q.published.isSome → p.published.isSome ∨ c.canPublish p
  reaped : q.reaped = p.reaped ∨ q.reaped = some c.now

theorem Flow.same {c : Channel} {p q : Process} (alive : q.isAlive = p.isAlive)
    (output : q.output = p.output) (consumed : q.consumed = p.consumed)
    (ended : q.outputEnded = p.outputEnded) (published : q.published = p.published)
    (reaped : q.reaped = p.reaped) : c.Flow p q where
  dead gone := ⟨alive.trans gone, output⟩
  ended past := ⟨ended.trans past, consumed⟩
  ends past := .inl (ended ▸ past)
  publishes exited := .inl (published ▸ exited)
  reaped := .inl reaped

theorem Flow.refl (c : Channel) (p : Process) : c.Flow p p := .same rfl rfl rfl rfl rfl rfl

/-- Only the closes, the clock and processes that stay may differ. -/
structure Background (more : Nat → List (List Nat)) (c d : Channel) : Prop where
  timeout : d.timeout = c.timeout
  slot : d.slot = c.slot
  lock : d.lock = c.lock
  spawns : d.spawns = c.spawns
  sends : d.sends = c.sends
  size : d.processes.length = c.processes.length
  process : ∀ (place : Nat) (p : Process), c.processes[place]? = some p →
    ∃ q, d.processes[place]? = some q ∧ p.Stays (more place) q ∧ c.Flow p q

theorem Background.refl (c : Channel) : c.Background (fun _ => []) c :=
  ⟨rfl, rfl, rfl, rfl, rfl, rfl, fun _ p found => ⟨p, found, .refl p, .refl c p⟩⟩

theorem Background.update {c : Channel} {place : Nat} {f : Process → Process}
    {more : Nat → List (List Nat)} (others : ∀ k, place ≠ k → more k = [])
    (stays : ∀ p, c.processes[place]? = some p → p.Stays (more place) (f p) ∧ c.Flow p (f p)) :
    c.Background more (c.updateProcess place f) := by
  refine ⟨rfl, rfl, rfl, rfl, rfl, List.length_modify .., ?_⟩
  intro k p found
  rw [lookup_updateProcess, found]
  refine ⟨_, rfl, ?_⟩
  by_cases same : place = k
  · subst same
    simpa only [if_true] using stays p found
  · rw [others k same]
    simpa only [if_neg same] using ⟨Process.Stays.refl p, Flow.refl c p⟩

theorem Background.updateClose {more : Nat → List (List Nat)} {c d : Channel}
    (same : c.Background more d) (j : Nat) (phase : ClosePhase) :
    c.Background more (d.updateClose j phase) :=
  ⟨same.timeout, same.slot, same.lock, same.spawns, same.sends, same.size, same.process⟩

theorem Background.onProcess {c d : Channel} {place : Nat} {enabled : Process → Bool}
    {f : Process → Process} {more : Nat → List (List Nat)}
    (happens : c.onProcess place enabled f = some d) (others : ∀ k, place ≠ k → more k = [])
    (stays : ∀ p, enabled p → p.Stays (more place) (f p) ∧ c.Flow p (f p)) :
    c.Background more d := by
  obtain ⟨p, found, rest⟩ := Option.bind_eq_some_iff.mp happens
  by_cases can : enabled p = true
  · rw [if_pos can] at rest
    cases rest
    refine .update others ?_
    intro q same
    rw [found] at same
    cases same
    exact stays p can
  · rw [if_neg can] at rest
    cases rest

theorem Background.askKill (c : Channel) (place : Nat) :
    c.Background (fun _ => []) (c.askKill place) :=
  .update (fun _ _ => rfl) fun _ _ =>
    ⟨⟨rfl, rfl, rfl, rfl, (List.append_nil _).symm, fun _ => rfl, id⟩,
      .same rfl rfl rfl rfl rfl rfl⟩

theorem Background.killGeneration (c : Channel) (generation : Nat) :
    c.Background (fun _ => []) (c.killGeneration generation) := by
  unfold Channel.killGeneration
  split
  · exact .refl c
  · split
    · exact .refl c
    · split
      · exact .askKill c _
      · exact .refl c

/-- What a send does in one step: what it adds to the journal, the channel beside the sends, and its
phase. -/
inductive Turn (c : Channel) (i : Nat) (s : Send) : Journal → Channel → SendPhase → Prop
  | useOpen {place : Nat} {p : Process} (phase : s.phase = .queued) (free : c.lock = none)
      (slot : c.slot = some place) (process : c.processes[place]? = some p)
      (live : p.published = none) :
      Turn c i s [.did .directed i place] { c with lock := some i } (.entered place)
  | useClosed {place : Nat} {p : Process} (phase : s.phase = .queued) (free : c.lock = none)
      (slot : c.slot = some place) (process : c.processes[place]? = some p)
      (live : p.published = none) :
      Turn c i s [.did .directed i place] c (.done (.error (.channelClosed .inputClosed)))
  | startFails {fault : IoFault} (phase : s.phase = .queued) (free : c.lock = none)
      (vacant : c.live? = none) :
      Turn c i s [] { c with slot := none } (.done (.error (.startup c.program fault)))
  | starts (phase : s.phase = .queued) (free : c.lock = none) (vacant : c.live? = none) :
      Turn c i s [.did .started i c.processes.length, .did .directed i c.processes.length]
        { c with
          slot := some c.processes.length
          lock := some i
          spawns := c.spawns + 1
          processes := c.processes ++ [Process.start (c.spawns + 1)] }
        (.entered c.processes.length)
  | joins {place : Nat} {p : Process} (phase : s.phase = .entered place)
      (process : c.processes[place]? = some p) (unclosed : p.table.closed = none) :
      Turn c i s [.did .admitted i place]
        (c.updateProcess place fun q =>
          { q with
            table := { p.table with entries := p.table.entries ++ [⟨s.id, s.command, i⟩] } })
        (.writing place s.line.utf8ByteSize)
  | refuse {place : Nat} {p : Process} {code : Option Int} (phase : s.phase = .entered place)
      (process : c.processes[place]? = some p) (closed : p.table.closed = some code) :
      Turn c i s [] { c with lock := none } (.done (.error (.workerExited code)))
  | writePart {place bytes left : Nat} {p : Process} (phase : s.phase = .writing place left)
      (process : c.processes[place]? = some p) (accepts : p.acceptsInput) (part : bytes < left) :
      Turn c i s [] (c.updateProcess place fun q => { q with sent := q.sent + bytes })
        (.writing place (left - bytes))
  | writeAll {place left : Nat} {p : Process} (phase : s.phase = .writing place left)
      (process : c.processes[place]? = some p) (accepts : p.acceptsInput) :
      Turn c i s [.did .wrote i place]
        { c.updateProcess place fun q =>
            { q with sent := q.sent + left, lines := q.lines ++ [s.line] } with lock := none }
        (.awaiting place c.deadline)
  | writeFails {place left : Nat} {p : Process} (phase : s.phase = .writing place left)
      (process : c.processes[place]? = some p) (broken : p.acceptsInput = false) :
      Turn c i s (if holds p i then [.did .removed i place] else [])
        { c.updateProcess place fun q => { q with table := q.table.remove s.id } with
          lock := none }
        (.done (.error (.workerExited none)))
  | receive {place : Nat} {deadline : Option Nat} {outcome : Outcome} {rest : List Outcome}
      (phase : s.phase = .awaiting place deadline) (heard : s.inbox = outcome :: rest) :
      Turn c i s [] c (.done outcome)
  | abandon {place : Nat} {deadline : Option Nat} {p : Process}
      (phase : s.phase = .awaiting place deadline) (process : c.processes[place]? = some p)
      (silent : s.inbox = []) (absent : isAbsent p i) :
      Turn c i s [] c (.done (.error (.channelClosed .replyDropped)))
  | expire {place deadline : Nat} (phase : s.phase = .awaiting place (some deadline))
      (silent : s.inbox = []) : Turn c i s [] c (.expired place)
  | withdraw {place : Nat} (phase : s.phase = .expired place) :
      Turn c i s
        (if c.processes[place]?.map (holds · i) = some true then [.did .removed i place] else [])
        (c.updateProcess place fun q => { q with table := q.table.remove s.id })
        (.killing place)
  | kill {place : Nat} {b : Channel} {limit : Duration} (phase : s.phase = .killing place)
      (deadline : c.timeout = some limit) (same : c.Background (fun _ => []) b) :
      Turn c i s [] b (.done (.error (.timeout limit)))

/-- One step of a channel, with the event and what it adds to the journal. -/
inductive Move (c : Channel) : Event → Journal → Channel → Prop
  | background {e : Event} {d : Channel} (same : c.Background e.output d) : Move c e [] d
  | arrive {e : Event} {d : Channel} (id : RequestId) (request : Request)
      (same : (c.send id request).Background (fun _ => []) d) (demand : e.isDemand) : Move c e [] d
  | turn {e : Event} {i : Nat} {s : Send} {facts : Journal} {b : Channel} {phase : SendPhase}
      (found : c.sends[i]? = some s) (turn : c.Turn i s facts b phase) :
      Move c e facts (b.setPhase i phase)
  | readLine {place : Nat} {p : Process} {bytes : List Nat}
      (process : c.processes[place]? = some p) (line : p.output[p.consumed]? = some bytes)
      (unended : p.outputEnded = false) :
      Move c (.readLine place) [.gave place ⟨bytes, (takeLine p.table bytes).2.map Reply.caller⟩]
        ((c.updateProcess place fun q =>
          { q with table := (takeLine p.table bytes).1, consumed := q.consumed + 1 }).deliverAll
          (takeLine p.table bytes).2.toList)
  | drain {place : Nat} {p : Process} {code : Option Int}
      (process : c.processes[place]? = some p) (exited : p.published = some code)
      (unclosed : p.table.closed = none) :
      Move c (.drain place) []
        ((c.updateProcess place ({ · with table := (p.table.failAll code).1 })).deliverAll
          (p.table.failAll code).2)

theorem Turn.sends {c b : Channel} {i : Nat} {s : Send} {facts : Journal} {phase : SendPhase}
    (turn : c.Turn i s facts b phase) : b.sends = c.sends := by
  cases turn with
  | kill _ _ same => exact same.sends
  | _ => rfl

theorem live?_eq_some {c : Channel} {place : Nat} {p : Process} :
    c.live? = some (place, p) ↔
      c.slot = some place ∧ c.processes[place]? = some p ∧ p.published = none := by
  simp only [live?, bind, Option.bind_eq_some_iff, Process.isLive, Option.isNone_iff_eq_none]
  constructor
  · rintro ⟨at_, slot, q, found, rest⟩
    split at rest
    · rename_i live
      cases rest
      exact ⟨slot, found, live⟩
    · cases rest
  · rintro ⟨slot, found, live⟩
    exact ⟨place, slot, p, found, if_pos live⟩

theorem enter_move {c d : Channel} {i : Nat} {fault : Option IoFault}
    (happens : c.enter i fault = some d) :
    c.Move (.enter i fault) (c.facts (.enter i fault)) d := by
  obtain ⟨s, found, rest⟩ := Option.bind_eq_some_iff.mp happens
  split at rest
  case h_2 => cases rest
  rename_i queued
  split at rest
  case isFalse => cases rest
  rename_i free
  have unlocked : c.lock = none := by simpa [isFree] using free
  split at rest
  · rename_i place p current
    obtain ⟨slot, process, live⟩ := live?_eq_some.mp current
    have same : c.facts (.enter i fault) = [.did .directed i place] := by
      simp only [facts, current]
    rw [same]
    unfold useCurrent at rest
    split at rest
    · cases rest
      exact .turn found (.useOpen queued unlocked slot process live)
    · cases rest
      exact .turn found (.useClosed queued unlocked slot process live)
  · rename_i vacant
    cases fault with
    | some fault =>
        have same : c.facts (.enter i (some fault)) = [] := by
          simp only [facts, vacant, Option.isNone_some]
          rfl
        cases rest
        rw [same]
        exact .turn found (.startFails queued unlocked vacant)
    | none =>
        have same : c.facts (.enter i none) =
            [.did .started i c.processes.length, .did .directed i c.processes.length] := by
          simp only [facts, vacant, Option.isNone_none, if_true]
        cases rest
        rw [same]
        exact .turn found (.starts queued unlocked vacant)

theorem insert_move {c d : Channel} {i : Nat} (happens : c.insert i = some d) :
    c.Move (.insert i) (c.facts (.insert i)) d := by
  obtain ⟨s, found, rest⟩ := Option.bind_eq_some_iff.mp happens
  split at rest
  case h_2 => cases rest
  rename_i place entered
  obtain ⟨p, process, rest⟩ := Option.bind_eq_some_iff.mp rest
  cases closed : p.table.closed with
  | none =>
      have same : c.facts (.insert i) = [.did .admitted i place] := by
        simp only [facts, found, Option.map_some, entered, process, closed, if_true]
      rw [same]
      simp only [Table.insert, closed] at rest
      cases rest
      rw [← closed]
      exact .turn found (.joins entered process closed)
  | some code =>
      have same : c.facts (.insert i) = [] := by
        simp [facts, found, entered, process, closed]
      rw [same]
      simp only [Table.insert, closed] at rest
      cases rest
      exact .turn found (.refuse entered process closed)

theorem write_move {c d : Channel} {i bytes : Nat} (happens : c.write i bytes = some d) :
    c.Move (.write i bytes) (c.facts (.write i bytes)) d := by
  obtain ⟨s, found, rest⟩ := Option.bind_eq_some_iff.mp happens
  split at rest
  case h_2 => cases rest
  rename_i place left writing
  obtain ⟨p, process, rest⟩ := Option.bind_eq_some_iff.mp rest
  split at rest
  case isFalse => cases rest
  rename_i room
  by_cases last : bytes = left
  · have same : c.facts (.write i bytes) = [.did .wrote i place] := by
      simp only [facts, found, Option.map_some, writing, last, if_true]
    rw [same]
    subst last
    simp only [if_true, written, updateProcess_twice] at rest
    cases rest
    exact .turn found (.writeAll writing process room.1)
  · have same : c.facts (.write i bytes) = [] := by
      simp only [facts, found, Option.map_some, writing, last, if_false]
    rw [same]
    simp only [last, if_false] at rest
    cases rest
    exact .turn found (.writePart writing process room.1 (by omega))

theorem writeFails_move {c d : Channel} {i : Nat} (happens : c.writeFails i = some d) :
    c.Move (.writeFails i) (c.facts (.writeFails i)) d := by
  obtain ⟨s, found, rest⟩ := Option.bind_eq_some_iff.mp happens
  split at rest
  case h_2 => cases rest
  rename_i place left writing
  obtain ⟨p, process, rest⟩ := Option.bind_eq_some_iff.mp rest
  split at rest
  case isTrue => cases rest
  rename_i broken
  have same : c.facts (.writeFails i) = if holds p i then [.did .removed i place] else [] := by
    simp only [facts, found, Option.map_some, writing, process, Option.some.injEq]
  rw [same]
  cases rest
  exact .turn found (.writeFails writing process (by simpa using broken))

theorem withdraw_move {c d : Channel} {i : Nat} (happens : c.withdraw i = some d) :
    c.Move (.withdraw i) (c.facts (.withdraw i)) d := by
  obtain ⟨s, found, rest⟩ := Option.bind_eq_some_iff.mp happens
  split at rest
  case h_2 => cases rest
  rename_i place expired
  have same : c.facts (.withdraw i) =
      if c.processes[place]?.map (holds · i) = some true then [.did .removed i place]
      else [] := by
    simp only [facts, found, Option.map_some, expired]
  rw [same]
  cases rest
  exact .turn found (.withdraw expired)

theorem receive_move {c d : Channel} {i : Nat} (happens : c.receive i = some d) :
    c.Move (.receive i) [] d := by
  obtain ⟨s, found, rest⟩ := Option.bind_eq_some_iff.mp happens
  split at rest
  case h_2 => cases rest
  rename_i awaiting heard
  cases rest
  exact .turn found (.receive awaiting heard)

theorem abandon_move {c d : Channel} {i : Nat} (happens : c.abandon i = some d) :
    c.Move (.abandon i) [] d := by
  obtain ⟨s, found, rest⟩ := Option.bind_eq_some_iff.mp happens
  split at rest
  case h_2 => cases rest
  rename_i awaiting silent
  obtain ⟨p, process, rest⟩ := Option.bind_eq_some_iff.mp rest
  split at rest
  case isFalse => cases rest
  rename_i absent
  cases rest
  exact .turn found (.abandon awaiting process silent absent)

theorem expire_move {c d : Channel} {i : Nat} (happens : c.expire i = some d) :
    c.Move (.expire i) [] d := by
  obtain ⟨s, found, rest⟩ := Option.bind_eq_some_iff.mp happens
  split at rest
  case h_2 => cases rest
  rename_i awaiting silent
  split at rest
  case isFalse => cases rest
  rename_i late
  cases rest
  exact .turn found (.expire awaiting silent)

theorem kill_move {c d : Channel} {i : Nat} (happens : c.kill i = some d) :
    c.Move (.kill i) [] d := by
  obtain ⟨s, found, rest⟩ := Option.bind_eq_some_iff.mp happens
  split at rest
  case h_2 => cases rest
  rename_i killing
  obtain ⟨p, process, rest⟩ := Option.bind_eq_some_iff.mp rest
  obtain ⟨limit, deadline, rest⟩ := Option.bind_eq_some_iff.mp rest
  split at rest
  case isFalse => cases rest
  cases rest
  exact .turn found (.kill killing deadline (.killGeneration c p.generation))

theorem readLine_eq_some {c d : Channel} {place : Nat} (happens : c.readLine place = some d) :
    ∃ p bytes, c.processes[place]? = some p ∧ p.output[p.consumed]? = some bytes ∧
      p.outputEnded = false ∧
      d = (c.updateProcess place fun q =>
        { q with table := (takeLine p.table bytes).1, consumed := q.consumed + 1 }).deliverAll
        (takeLine p.table bytes).2.toList := by
  obtain ⟨p, process, rest⟩ := Option.bind_eq_some_iff.mp happens
  obtain ⟨bytes, line, rest⟩ := Option.bind_eq_some_iff.mp rest
  split at rest
  case isTrue => cases rest
  rename_i open_
  cases rest
  exact ⟨p, bytes, process, line, by simpa using open_, rfl⟩

theorem readLine_move {c d : Channel} {place : Nat} (happens : c.readLine place = some d) :
    c.Move (.readLine place) (c.facts (.readLine place)) d := by
  obtain ⟨p, bytes, process, line, unended, rfl⟩ := readLine_eq_some happens
  have same : c.facts (.readLine place) =
      [.gave place ⟨bytes, (takeLine p.table bytes).2.map Reply.caller⟩] := by
    simp only [facts, process, line]
  rw [same]
  exact .readLine process line unended

theorem drain_eq_some {c d : Channel} {place : Nat} (happens : c.drain place = some d) :
    ∃ p code, c.processes[place]? = some p ∧ p.published = some code ∧ p.table.closed = none ∧
      d = (c.updateProcess place ({ · with table := (p.table.failAll code).1 })).deliverAll
        (p.table.failAll code).2 := by
  obtain ⟨p, process, rest⟩ := Option.bind_eq_some_iff.mp happens
  obtain ⟨code, exited, rest⟩ := Option.bind_eq_some_iff.mp rest
  split at rest
  case isTrue => cases rest
  rename_i unclosed
  cases rest
  exact ⟨p, code, process, exited, by simpa using unclosed, rfl⟩

theorem drain_move {c d : Channel} {place : Nat} (happens : c.drain place = some d) :
    c.Move (.drain place) [] d := by
  obtain ⟨p, code, process, exited, unclosed, rfl⟩ := drain_eq_some happens
  exact .drain process exited unclosed

theorem probe_move {c d : Channel} {j : Nat} (happens : c.probe j = some d) :
    c.Move (.probe j) [] d := by
  obtain ⟨k, found, rest⟩ := Option.bind_eq_some_iff.mp happens
  split at rest
  case h_2 => cases rest
  split at rest
  · cases rest
  · split at rest
    · cases rest
      exact .arrive k.id Request.close ((Background.refl _).updateClose j _) rfl
    · cases rest
      exact .background ((Background.refl c).updateClose j _)

theorem acknowledge_background {c d : Channel} {j : Nat} (happens : c.acknowledge j = some d) :
    c.Background (fun _ => []) d := by
  obtain ⟨k, found, rest⟩ := Option.bind_eq_some_iff.mp happens
  split at rest
  case h_2 => cases rest
  obtain ⟨s, asked, rest⟩ := Option.bind_eq_some_iff.mp rest
  split at rest
  case h_2 => cases rest
  cases rest
  exact (Background.refl c).updateClose j _

theorem endInput_background {c d : Channel} {j : Nat} (happens : c.endInput j = some d) :
    c.Background (fun _ => []) d := by
  obtain ⟨k, found, rest⟩ := Option.bind_eq_some_iff.mp happens
  split at rest
  case h_2 => cases rest
  split at rest
  · cases rest
  · split at rest
    · cases rest
      exact (Background.refl c).updateClose j _
    · cases rest
      refine Background.updateClose (.update (fun _ _ => rfl) ?_) j _
      intro p _
      exact ⟨⟨rfl, rfl, rfl, rfl, (List.append_nil _).symm, fun _ => rfl, id⟩,
        .same rfl rfl rfl rfl rfl rfl⟩

theorem overrun_background {c d : Channel} {j : Nat} (happens : c.overrun j = some d) :
    c.Background (fun _ => []) d := by
  obtain ⟨k, found, rest⟩ := Option.bind_eq_some_iff.mp happens
  split at rest
  case h_2 => cases rest
  split at rest
  case isFalse => cases rest
  cases rest
  exact (Background.refl c).updateClose j _

theorem killCurrent_background {c d : Channel} {j : Nat} (happens : c.killCurrent j = some d) :
    c.Background (fun _ => []) d := by
  obtain ⟨k, found, rest⟩ := Option.bind_eq_some_iff.mp happens
  split at rest
  case h_2 => cases rest
  split at rest
  · cases rest
  · split at rest
    · cases rest
      exact (Background.refl c).updateClose j _
    · cases rest
      exact (Background.askKill c _).updateClose j _

theorem finish_background {c d : Channel} {j : Nat} (happens : c.finish j = some d) :
    c.Background (fun _ => []) d := by
  obtain ⟨k, found, rest⟩ := Option.bind_eq_some_iff.mp happens
  split at rest
  case h_3 => cases rest
  all_goals
    split at rest
    · cases rest
      exact (Background.refl c).updateClose j _
    · cases rest

/-- What one step does. -/
theorem step_move {c d : Channel} {e : Event} (happens : c.step e = some d) :
    c.Move e (c.facts e) d := by
  cases e with
  | send id request =>
      cases happens
      exact .arrive id request (.refl _) rfl
  | enter i fault => exact enter_move happens
  | insert i => exact insert_move happens
  | write i bytes => exact write_move happens
  | writeFails i => exact writeFails_move happens
  | receive i => exact receive_move happens
  | abandon i => exact abandon_move happens
  | expire i => exact expire_move happens
  | withdraw i => exact withdraw_move happens
  | kill i => exact kill_move happens
  | close id =>
      cases happens
      exact .background ⟨rfl, rfl, rfl, rfl, rfl, rfl, (Background.refl c).process⟩
  | probe j => exact probe_move happens
  | acknowledge j => exact .background (acknowledge_background happens)
  | endInput j => exact .background (endInput_background happens)
  | overrun j => exact .background (overrun_background happens)
  | killCurrent j => exact .background (killCurrent_background happens)
  | finish j => exact .background (finish_background happens)
  | workerReads place bytes =>
      refine .background (.onProcess happens (fun _ _ => rfl) ?_)
      intro p _
      exact ⟨⟨rfl, rfl, rfl, rfl, (List.append_nil _).symm, fun _ => rfl, id⟩,
        .same rfl rfl rfl rfl rfl rfl⟩
  | workerWrites place line =>
      refine .background (.onProcess happens (fun _ other => if_neg other) ?_)
      intro p alive
      refine ⟨⟨rfl, rfl, rfl, rfl, ?_, fun _ => rfl, id⟩, ?_, fun past => ⟨past, rfl⟩, .inl, .inl,
        .inl rfl⟩
      · simp only [Event.output, if_true]
      · simp [alive]
  | workerEndsInput place =>
      refine .background (.onProcess happens (fun _ _ => rfl) ?_)
      intro p _
      refine ⟨⟨rfl, rfl, rfl, rfl, (List.append_nil _).symm, fun _ => rfl, ?_⟩,
        .same rfl rfl rfl rfl rfl rfl⟩
      simp [Process.acceptsInput]
  | workerExits place code =>
      refine .background (.onProcess happens (fun _ _ => rfl) ?_)
      intro p _
      refine ⟨⟨rfl, rfl, rfl, rfl, (List.append_nil _).symm, fun _ => rfl, ?_⟩,
        fun _ => ⟨rfl, rfl⟩, fun past => ⟨past, rfl⟩, .inl, .inl, .inl rfl⟩
      simp [Process.acceptsInput, Process.isAlive]
  | readLine place => exact readLine_move happens
  | endOutput place =>
      refine .background (.onProcess happens (fun _ _ => rfl) ?_)
      intro p stops
      rw [Bool.and_eq_true, Bool.or_eq_true, Bool.and_eq_true, Bool.not_eq_true',
        Bool.not_eq_true', beq_iff_eq] at stops
      exact ⟨⟨rfl, rfl, rfl, rfl, (List.append_nil _).symm, fun _ => rfl, id⟩,
        fun gone => ⟨gone, rfl⟩, fun _ => ⟨rfl, rfl⟩, fun _ => .inr stops.2.symm, .inl, .inl rfl⟩
  | obeyKill place =>
      refine .background (.onProcess happens (fun _ _ => rfl) ?_)
      intro p _
      refine ⟨⟨rfl, rfl, rfl, rfl, (List.append_nil _).symm, fun _ => rfl, ?_⟩,
        fun _ => ⟨rfl, rfl⟩, fun past => ⟨past, rfl⟩, .inl, .inl, .inl rfl⟩
      simp [Process.acceptsInput, Process.isAlive]
  | reap place =>
      refine .background (.onProcess happens (fun _ _ => rfl) ?_)
      intro p _
      exact ⟨⟨rfl, rfl, rfl, rfl, (List.append_nil _).symm, fun _ => rfl, id⟩,
        fun gone => ⟨gone, rfl⟩, fun past => ⟨past, rfl⟩, .inl, .inl, .inr rfl⟩
  | publish place =>
      refine .background (.onProcess happens (fun _ _ => rfl) ?_)
      intro p can
      refine ⟨⟨rfl, rfl, rfl, rfl, (List.append_nil _).symm, ?_, id⟩,
        fun gone => ⟨gone, rfl⟩, fun past => ⟨past, rfl⟩, .inl, fun _ => .inr can, .inl rfl⟩
      intro already
      have live : p.published.isNone := (Bool.and_eq_true_iff.mp (Bool.and_eq_true_iff.mp can).1).1
      rw [Option.isNone_iff_eq_none] at live
      rw [live] at already
      cases already
  | drain place => exact drain_move happens
  | tick nanos =>
      cases happens
      exact .background ⟨rfl, rfl, rfl, rfl, rfl, rfl, (Background.refl c).process⟩

end Channel

end ImageSearch.Worker
