import ImageSearch.Proofs.Channel.Writing

set_option autoImplicit false

namespace ImageSearch.Worker

open Recognition

def Event.isClosing : Event → Bool
  | .close _ | .probe _ | .acknowledge _ | .endInput _ | .overrun _ | .killCurrent _
  | .finish _ => true
  | _ => false

def Event.sender? : Event → Option Nat
  | .enter i _ | .insert i | .write i _ | .writeFails i | .receive i | .abandon i | .expire i
  | .withdraw i | .kill i => some i
  | _ => none

def Event.isCall : Event → Bool
  | .send _ _ | .close _ => true
  | _ => false

def Event.nanos : Event → Nat
  | .tick nanos => nanos
  | _ => 0

namespace Channel

variable {c d : Channel} {e : Event} {place : Nat} {p q : Process}

/-- What an event does to the process at a place. -/
inductive Change (c : Channel) (place : Nat) (p : Process) : Event → Process → Prop
  | rests (e : Event) : Change c place p e p
  | files {e : Event} (table : Table) : Change c place p e { p with table := table }
  | writes {i bytes left : Nat} {s : Send} (more : List String) (found : c.sends[i]? = some s)
    (phase : s.phase = .writing place left) (accepts : p.acceptsInput)
    (room : 0 < bytes ∧ bytes ≤ left ∧ p.unread + bytes ≤ c.capacity) :
    Change c place p (.write i bytes) { p with sent := p.sent + bytes, lines := p.lines ++ more }
  | endsInput {j : Nat} {k : Close} (found : c.closes[j]? = some k) (ending : k.phase = .ending)
    (free : c.lock = none) (slot : c.slot = some place) :
    Change c place p (.endInput j) { p with inputOpen := false }
  | killedBySend {i home : Nat} {s : Send} (found : c.sends[i]? = some s)
    (killing : s.phase = .killing home) (free : c.lock = none) (slot : c.slot = some place) :
    Change c place p (.kill i) { p with killAsked := true }
  | killedByClose {j home : Nat} {k : Close} (found : c.closes[j]? = some k)
    (killing : k.phase = .killing home) (free : c.lock = none) (slot : c.slot = some place) :
    Change c place p (.killCurrent j) { p with killAsked := true }
  | reads (bytes : Nat) : Change c place p (.workerReads place bytes)
      { p with taken := p.taken + bytes }
  | outputs (line : List Nat) : Change c place p (.workerWrites place line)
      { p with output := p.output ++ [line] }
  | endsReading : Change c place p (.workerEndsInput place) { p with inputRead := false }
  | exits (code : Option Int) : Change c place p (.workerExits place code)
      { p with death := some code }
  | takes (table : Table) : Change c place p (.readLine place)
      { p with table := table, consumed := p.consumed + 1 }
  | endsOutput : Change c place p (.endOutput place) { p with outputEnded := true }
  | obeys (asked : p.killAsked) : Change c place p (.obeyKill place) { p with death := some none }
  | reaps : Change c place p (.reap place) { p with reaped := some c.now }
  | publishes : Change c place p (.publish place) { p with published := p.death }

/-- What a close does in one step: the channel beside its phase, and the phase. -/
inductive CloseTurn (c : Channel) (j : Nat) (k : Close) : Event → Channel → ClosePhase → Prop
  | asks (probing : k.phase = .probing) (free : c.lock = none) (running : c.isRunning) :
    CloseTurn c j k (.probe j) (c.send k.id Request.close) (.asking c.sends.length)
  | idles (probing : k.phase = .probing) (idle : c.isRunning = false) :
    CloseTurn c j k (.probe j) c .done
  | hears {i : Nat} {s : Send} {o : Outcome} (asking : k.phase = .asking i)
    (found : c.sends[i]? = some s) (ended : s.phase = .done o) :
    CloseTurn c j k (.acknowledge j) c .ending
  | endsInput {place : Nat} (ending : k.phase = .ending) (free : c.lock = none)
    (slot : c.slot = some place) :
    CloseTurn c j k (.endInput j) (c.updateProcess place ({ · with inputOpen := false }))
      (.waiting place c.deadline)
  | findsNone (ending : k.phase = .ending) (vacant : c.slot = none) :
    CloseTurn c j k (.endInput j) c .done
  | overruns {place deadline : Nat} (waiting : k.phase = .waiting place (some deadline)) :
    CloseTurn c j k (.overrun j) c (.killing place)
  | kills {place current : Nat} (killing : k.phase = .killing place) (free : c.lock = none)
    (slot : c.slot = some current) :
    CloseTurn c j k (.killCurrent j) (c.askKill current) (.lingering place)
  | killsNone {place : Nat} (killing : k.phase = .killing place) (vacant : c.slot = none) :
    CloseTurn c j k (.killCurrent j) c (.lingering place)
  | finishes {place : Nat}
    (waiting : (∃ deadline, k.phase = .waiting place deadline) ∨ k.phase = .lingering place)
    (exited : c.hasExited place) : CloseTurn c j k (.finish j) c .done

variable {b : Channel} {j : Nat} {k : Close} {phase : ClosePhase}

theorem CloseTurn.undone (turn : c.CloseTurn j k e b phase) : k.phase ≠ .done := by
  intro ended
  cases turn with
  | asks before | idles before | hears before | endsInput before | findsNone before
  | overruns before | kills before | killsNone before =>
      rw [ended] at before
      cases before
  | finishes before =>
      rw [ended] at before
      simp at before

inductive Closes (c : Channel) (e : Event) (d : Channel) : Prop
  | rests (same : d.closes = c.closes) (other : e.isClosing = false)
  | calls {id : RequestId} (event : e = .close id) (after : d = c.close id)
  | turns {j : Nat} {k : Close} {b : Channel} {phase : ClosePhase} (found : c.closes[j]? = some k)
    (turn : c.CloseTurn j k e b phase) (after : d = b.updateClose j phase)

theorem lookup_updateClose (c : Channel) (j n : Nat) (phase : ClosePhase) :
    (c.updateClose j phase).closes[n]? =
      c.closes[n]?.map fun k => if j = n then { k with phase := phase } else k := by
  rw [updateClose, List.getElem?_modify]
  rfl

theorem lookup_close {id : RequestId} (found : (c.close id).closes[j]? = some k) :
    c.closes[j]? = some k ∨ k = ⟨id, .probing⟩ ∧ j = c.closes.length := by
  by_cases old : j < c.closes.length
  · rw [close, List.getElem?_append_left old] at found
    exact .inl found
  · rw [close, List.getElem?_append_right (Nat.le_of_not_lt old), List.getElem?_singleton] at found
    split at found
    · cases found
      exact .inr ⟨rfl, by omega⟩
    · cases found

/-- What an event does beside the slot and the lock. -/
structure Effect (c : Channel) (e : Event) (d : Channel) : Prop where
  now : d.now = c.now + e.nanos
  capacity : d.capacity = c.capacity
  send : ∀ (i : Nat) (s : Send), c.sends[i]? = some s → e.sender? ≠ some i →
    ∃ t, d.sends[i]? = some t ∧ t.phase = s.phase
  change : ∀ (place : Nat) (p : Process), c.processes[place]? = some p →
    ∃ q, d.processes[place]? = some q ∧ c.Change place p e q
  closes : c.Closes e d

/-- The clock, the capacity and the closes are the same, and of the sends all but one. -/
structure SendFrame (c : Channel) (i : Nat) (d : Channel) : Prop where
  now : d.now = c.now
  capacity : d.capacity = c.capacity
  closes : d.closes = c.closes
  sends : ∃ f, d.sends = c.sends.modify i f

theorem change_update {home place : Nat} {f : Process → Process} {p : Process}
    (same : d.processes = (c.updateProcess home f).processes)
    (change : ∀ p, c.processes[home]? = some p → c.Change home p e (f p))
    (found : c.processes[place]? = some p) :
    ∃ q, d.processes[place]? = some q ∧ c.Change place p e q := by
  rw [same, lookup_updateProcess, found]
  refine ⟨_, rfl, ?_⟩
  by_cases here : home = place
  · subst here
    simpa only [if_true] using change p found
  · simpa only [if_neg here] using Change.rests e

theorem change_rests (same : b.processes = c.processes) (e : Event) (place : Nat)
    (p : Process) (found : c.processes[place]? = some p) :
    ∃ q, b.processes[place]? = some q ∧ c.Change place p e q :=
  ⟨p, same ▸ found, .rests e⟩

theorem phase_rests (more : c.sends <+: b.sends) {i : Nat} {s : Send}
    (found : c.sends[i]? = some s) : ∃ t, b.sends[i]? = some t ∧ t.phase = s.phase := by
  obtain ⟨rest, split⟩ := more
  refine ⟨s, ?_, rfl⟩
  rw [← split, List.getElem?_append_left (List.getElem?_eq_some_iff.mp found).1, found]

/-- A step of a send is none of a close and takes no time. -/
theorem Effect.of_send {i : Nat} (frame : c.SendFrame i d) (mine : e.sender? = some i)
    (change : ∀ (place : Nat) (p : Process), c.processes[place]? = some p →
      ∃ q, d.processes[place]? = some q ∧ c.Change place p e q) : c.Effect e d := by
  have apart : e.isClosing = false ∧ e.nanos = 0 := by
    cases e with
    | close | probe | acknowledge | endInput | overrun | killCurrent | finish | tick => cases mine
    | _ => exact ⟨rfl, rfl⟩
  refine ⟨by rw [frame.now, apart.2, Nat.add_zero], frame.capacity, ?_, change,
    .rests frame.closes apart.1⟩
  intro k s found other
  obtain ⟨f, same⟩ := frame.sends
  rw [same, List.getElem?_modify, found]
  refine ⟨s, ?_, rfl⟩
  have apart : i ≠ k := fun here => other (here ▸ mine)
  simp only [Option.map_eq_map, Option.map_some, if_neg apart]

theorem Effect.of_same {i : Nat} (frame : c.SendFrame i d) (mine : e.sender? = some i)
    (same : d.processes = c.processes) : c.Effect e d :=
  .of_send frame mine (change_rests same e)

theorem Effect.of_update {i home : Nat} {f : Process → Process} (frame : c.SendFrame i d)
    (mine : e.sender? = some i) (same : d.processes = (c.updateProcess home f).processes)
    (change : ∀ p, c.processes[home]? = some p → c.Change home p e (f p)) : c.Effect e d :=
  .of_send frame mine fun _ _ found => change_update same change found

theorem Effect.of_onProcess {home : Nat} {enabled : Process → Bool} {f : Process → Process}
    (happens : c.onProcess home enabled f = some d) (timeless : e.nanos = 0)
    (other : e.isClosing = false) (change : ∀ p, enabled p → c.Change home p e (f p)) :
    c.Effect e d := by
  obtain ⟨r, found, rest⟩ := Option.bind_eq_some_iff.mp happens
  split at rest
  case isFalse => cases rest
  rename_i can
  cases rest
  refine ⟨by rw [timeless]; rfl, rfl, fun _ _ old _ => ⟨_, old, rfl⟩, fun _ _ old => ?_,
    .rests rfl other⟩
  refine change_update rfl (fun p found' => ?_) old
  cases found.symm.trans found'
  exact change _ can

/-- Replies change no phase. -/
theorem Effect.of_deliver {home : Nat} {f : Process → Process} (replies : List Reply)
    (timeless : e.nanos = 0) (other : e.isClosing = false)
    (change : ∀ p, c.processes[home]? = some p → c.Change home p e (f p)) :
    c.Effect e ((c.updateProcess home f).deliverAll replies) := by
  refine ⟨?_, ?_, fun i s found _ => ?_, fun _ _ found => ?_, ?_⟩
  · rw [deliverAll_frame, timeless]
    rfl
  · rw [deliverAll_frame]
    rfl
  · rw [lookup_deliverAll]
    exact ⟨_, congrArg (Option.map _) found, Send.hear_phase ..⟩
  · rw [deliverAll_frame]
    exact change_update rfl change found
  · rw [deliverAll_frame]
    exact .rests rfl other

theorem CloseTurn.timeless (turn : c.CloseTurn j k e b phase) : e.nanos = 0 := by
  cases turn with
  | _ => rfl

theorem Effect.of_turn (found : c.closes[j]? = some k) (turn : c.CloseTurn j k e b phase)
    (now : b.now = c.now) (capacity : b.capacity = c.capacity) (sends : c.sends <+: b.sends)
    (change : ∀ (place : Nat) (p : Process), c.processes[place]? = some p →
      ∃ q, b.processes[place]? = some q ∧ c.Change place p e q) :
    c.Effect e (b.updateClose j phase) :=
  ⟨by rw [turn.timeless]; exact now, capacity, fun _ _ found _ => phase_rests sends found, change,
    .turns found turn rfl⟩

theorem Effect.of_rest (found : c.closes[j]? = some k)
    (turn : c.CloseTurn j k e c phase) : c.Effect e (c.updateClose j phase) :=
  .of_turn found turn rfl rfl (List.prefix_refl _) (change_rests rfl e)

theorem enter_effect {i : Nat} {fault : Option IoFault} (happens : c.enter i fault = some d) :
    c.Effect (.enter i fault) d := by
  obtain ⟨s, found, rest⟩ := Option.bind_eq_some_iff.mp happens
  split at rest
  case h_2 => cases rest
  split at rest
  case isFalse => cases rest
  split at rest
  · cases rest
    rename_i place p _
    unfold useCurrent
    split
    · exact .of_same ⟨rfl, rfl, rfl, _, rfl⟩ rfl rfl
    · exact .of_same ⟨rfl, rfl, rfl, _, rfl⟩ rfl rfl
  · cases rest
    unfold spawn
    split
    · exact .of_same ⟨rfl, rfl, rfl, _, rfl⟩ rfl rfl
    · refine .of_send ⟨rfl, rfl, rfl, _, rfl⟩ rfl fun place p found => ⟨p, ?_, .rests _⟩
      exact (List.getElem?_append_left (List.getElem?_eq_some_iff.mp found).1).trans found

theorem insert_effect {i : Nat} (happens : c.insert i = some d) : c.Effect (.insert i) d := by
  obtain ⟨s, found, rest⟩ := Option.bind_eq_some_iff.mp happens
  split at rest
  case h_2 => cases rest
  obtain ⟨p, process, rest⟩ := Option.bind_eq_some_iff.mp rest
  split at rest
  · cases rest
    exact .of_same ⟨rfl, rfl, rfl, _, rfl⟩ rfl rfl
  · cases rest
    exact .of_update ⟨rfl, rfl, rfl, _, rfl⟩ rfl rfl fun _ _ => .files _

theorem write_effect {i bytes : Nat} (happens : c.write i bytes = some d) :
    c.Effect (.write i bytes) d := by
  obtain ⟨s, found, rest⟩ := Option.bind_eq_some_iff.mp happens
  split at rest
  case h_2 => cases rest
  rename_i place left writing
  obtain ⟨p, process, rest⟩ := Option.bind_eq_some_iff.mp rest
  split at rest
  case isFalse => cases rest
  rename_i room
  have writes (more : List String) (q : Process) (found' : c.processes[place]? = some q) :
      c.Change place q (.write i bytes)
        { q with sent := q.sent + bytes, lines := q.lines ++ more } := by
    cases process.symm.trans found'
    exact .writes more found writing room.1 room.2
  split at rest
  · simp only [written, updateProcess_twice] at rest
    cases rest
    exact .of_update ⟨rfl, rfl, rfl, _, rfl⟩ rfl rfl (writes [s.line])
  · cases rest
    refine .of_update ⟨rfl, rfl, rfl, _, rfl⟩ rfl rfl fun q found' => ?_
    simpa only [List.append_nil] using writes [] q found'

theorem writeFails_effect {i : Nat} (happens : c.writeFails i = some d) :
    c.Effect (.writeFails i) d := by
  obtain ⟨s, found, rest⟩ := Option.bind_eq_some_iff.mp happens
  split at rest
  case h_2 => cases rest
  obtain ⟨p, process, rest⟩ := Option.bind_eq_some_iff.mp rest
  split at rest
  case isTrue => cases rest
  cases rest
  exact .of_update ⟨rfl, rfl, rfl, _, rfl⟩ rfl rfl fun _ _ => .files _

theorem receive_effect {i : Nat} (happens : c.receive i = some d) : c.Effect (.receive i) d := by
  obtain ⟨s, found, rest⟩ := Option.bind_eq_some_iff.mp happens
  split at rest
  case h_2 => cases rest
  cases rest
  exact .of_same ⟨rfl, rfl, rfl, _, rfl⟩ rfl rfl

theorem abandon_effect {i : Nat} (happens : c.abandon i = some d) : c.Effect (.abandon i) d := by
  obtain ⟨s, found, rest⟩ := Option.bind_eq_some_iff.mp happens
  split at rest
  case h_2 => cases rest
  obtain ⟨p, process, rest⟩ := Option.bind_eq_some_iff.mp rest
  split at rest
  case isFalse => cases rest
  cases rest
  exact .of_same ⟨rfl, rfl, rfl, _, rfl⟩ rfl rfl

theorem expire_effect {i : Nat} (happens : c.expire i = some d) : c.Effect (.expire i) d := by
  obtain ⟨s, found, rest⟩ := Option.bind_eq_some_iff.mp happens
  split at rest
  case h_2 => cases rest
  split at rest
  case isFalse => cases rest
  cases rest
  exact .of_same ⟨rfl, rfl, rfl, _, rfl⟩ rfl rfl

theorem withdraw_effect {i : Nat} (happens : c.withdraw i = some d) :
    c.Effect (.withdraw i) d := by
  obtain ⟨s, found, rest⟩ := Option.bind_eq_some_iff.mp happens
  split at rest
  case h_2 => cases rest
  cases rest
  exact .of_update ⟨rfl, rfl, rfl, _, rfl⟩ rfl rfl fun _ _ => .files _

theorem kill_effect {i : Nat} (happens : c.kill i = some d) : c.Effect (.kill i) d := by
  obtain ⟨s, found, rest⟩ := Option.bind_eq_some_iff.mp happens
  split at rest
  case h_2 => cases rest
  rename_i home killing
  obtain ⟨p, process, rest⟩ := Option.bind_eq_some_iff.mp rest
  obtain ⟨limit, _, rest⟩ := Option.bind_eq_some_iff.mp rest
  split at rest
  case isFalse => cases rest
  rename_i free
  cases rest
  unfold killGeneration
  split
  · exact .of_same ⟨rfl, rfl, rfl, _, rfl⟩ rfl rfl
  · rename_i place slot
    split
    · exact .of_same ⟨rfl, rfl, rfl, _, rfl⟩ rfl rfl
    · split
      · exact .of_update ⟨rfl, rfl, rfl, _, rfl⟩ rfl rfl fun _ _ =>
          .killedBySend found killing (Option.isNone_iff_eq_none.mp free) slot
      · exact .of_same ⟨rfl, rfl, rfl, _, rfl⟩ rfl rfl

theorem readLine_effect (happens : c.readLine place = some d) :
    c.Effect (.readLine place) d := by
  obtain ⟨p, bytes, process, line, unended, rfl⟩ := readLine_eq_some happens
  exact .of_deliver _ rfl rfl fun _ _ => .takes _

theorem drain_effect (happens : c.drain place = some d) : c.Effect (.drain place) d := by
  obtain ⟨p, code, process, exited, unclosed, rfl⟩ := drain_eq_some happens
  exact .of_deliver _ rfl rfl fun _ _ => .files _

theorem probe_effect (happens : c.probe j = some d) : c.Effect (.probe j) d := by
  obtain ⟨k, found, rest⟩ := Option.bind_eq_some_iff.mp happens
  split at rest
  case h_2 => cases rest
  rename_i probing
  split at rest
  · cases rest
  · rename_i free
    have unlocked : c.lock = none := by simpa [isFree] using free
    split at rest
    · rename_i running
      cases rest
      exact .of_turn found (.asks probing unlocked running) rfl rfl (List.prefix_append _ _)
        (change_rests rfl _)
    · rename_i idle
      cases rest
      exact .of_rest found (.idles probing (Bool.eq_false_iff.mpr idle))

theorem acknowledge_effect (happens : c.acknowledge j = some d) :
    c.Effect (.acknowledge j) d := by
  obtain ⟨k, found, rest⟩ := Option.bind_eq_some_iff.mp happens
  split at rest
  case h_2 => cases rest
  rename_i i asking
  obtain ⟨s, asked, rest⟩ := Option.bind_eq_some_iff.mp rest
  split at rest
  case h_2 => cases rest
  rename_i o ended
  cases rest
  exact .of_rest found (.hears asking asked ended)

theorem endInput_effect (happens : c.endInput j = some d) :
    c.Effect (.endInput j) d := by
  obtain ⟨k, found, rest⟩ := Option.bind_eq_some_iff.mp happens
  split at rest
  case h_2 => cases rest
  rename_i ending
  split at rest
  · cases rest
  · rename_i free
    have unlocked : c.lock = none := by simpa [isFree] using free
    split at rest
    · rename_i vacant
      cases rest
      exact .of_rest found (.findsNone ending vacant)
    · rename_i place slot
      cases rest
      exact .of_turn found (.endsInput ending unlocked slot) rfl rfl (List.prefix_refl _)
        fun _ _ => change_update rfl fun _ _ => .endsInput found ending unlocked slot

theorem overrun_effect (happens : c.overrun j = some d) : c.Effect (.overrun j) d := by
  obtain ⟨k, found, rest⟩ := Option.bind_eq_some_iff.mp happens
  split at rest
  case h_2 => cases rest
  rename_i waiting
  split at rest
  case isFalse => cases rest
  cases rest
  exact .of_rest found (.overruns waiting)

theorem killCurrent_effect (happens : c.killCurrent j = some d) :
    c.Effect (.killCurrent j) d := by
  obtain ⟨k, found, rest⟩ := Option.bind_eq_some_iff.mp happens
  split at rest
  case h_2 => cases rest
  rename_i killing
  split at rest
  · cases rest
  · rename_i free
    have unlocked : c.lock = none := by simpa [isFree] using free
    split at rest
    · rename_i vacant
      cases rest
      exact .of_rest found (.killsNone killing vacant)
    · rename_i current slot
      cases rest
      exact .of_turn found (.kills killing unlocked slot) rfl rfl (List.prefix_refl _)
        fun _ _ => change_update rfl fun _ _ => .killedByClose found killing unlocked slot

theorem finish_effect (happens : c.finish j = some d) : c.Effect (.finish j) d := by
  obtain ⟨k, found, rest⟩ := Option.bind_eq_some_iff.mp happens
  split at rest
  case h_3 => cases rest
  · rename_i waiting
    split at rest
    · rename_i exited
      cases rest
      exact .of_rest found (.finishes (.inl ⟨_, waiting⟩) exited)
    · cases rest
  · rename_i lingering
    split at rest
    · rename_i exited
      cases rest
      exact .of_rest found (.finishes (.inr lingering) exited)
    · cases rest

/-- What one step does beside the sends, the slot and the lock. -/
theorem step_effect (happens : c.step e = some d) : c.Effect e d := by
  cases e with
  | send id request =>
      cases happens
      exact ⟨rfl, rfl, fun _ _ found _ => phase_rests (List.prefix_append _ _) found,
        change_rests rfl _, .rests rfl rfl⟩
  | close id =>
      cases happens
      exact ⟨rfl, rfl, fun _ _ found _ => ⟨_, found, rfl⟩, change_rests rfl _, .calls rfl rfl⟩
  | tick nanos =>
      cases happens
      exact ⟨rfl, rfl, fun _ _ found _ => ⟨_, found, rfl⟩, change_rests rfl _, .rests rfl rfl⟩
  | enter i fault => exact enter_effect happens
  | insert i => exact insert_effect happens
  | write i bytes => exact write_effect happens
  | writeFails i => exact writeFails_effect happens
  | receive i => exact receive_effect happens
  | abandon i => exact abandon_effect happens
  | expire i => exact expire_effect happens
  | withdraw i => exact withdraw_effect happens
  | kill i => exact kill_effect happens
  | probe j => exact probe_effect happens
  | acknowledge j => exact acknowledge_effect happens
  | endInput j => exact endInput_effect happens
  | overrun j => exact overrun_effect happens
  | killCurrent j => exact killCurrent_effect happens
  | finish j => exact finish_effect happens
  | workerReads home bytes => exact .of_onProcess happens rfl rfl fun _ _ => .reads bytes
  | workerWrites home line => exact .of_onProcess happens rfl rfl fun _ _ => .outputs line
  | workerEndsInput home => exact .of_onProcess happens rfl rfl fun _ _ => .endsReading
  | workerExits home code => exact .of_onProcess happens rfl rfl fun _ _ => .exits code
  | readLine home => exact readLine_effect happens
  | endOutput home => exact .of_onProcess happens rfl rfl fun _ _ => .endsOutput
  | obeyKill home =>
      exact .of_onProcess happens rfl rfl fun _ can => .obeys (Bool.and_eq_true_iff.mp can).1
  | reap home => exact .of_onProcess happens rfl rfl fun _ _ => .reaps
  | publish home => exact .of_onProcess happens rfl rfl fun _ _ => .publishes
  | drain home => exact drain_effect happens

end Channel

end ImageSearch.Worker
