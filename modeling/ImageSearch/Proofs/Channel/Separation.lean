import ImageSearch.Proofs.Channel.Effect
import ImageSearch.Proofs.Channel.Recovery

set_option autoImplicit false

namespace ImageSearch.Worker

def Event.process? : Event → Option Nat
  | .workerReads place _ | .workerWrites place _ | .workerEndsInput place | .workerExits place _
  | .readLine place | .endOutput place | .obeyKill place | .reap place | .publish place
  | .drain place => some place
  | _ => none

namespace Channel

variable {b c d : Channel} {e : Event} {i place h : Nat} {mine : Nat → Prop} {j : Journal}

/-- The process to which a step of a send belongs, once the send is directed to one. -/
def sendHome? (c : Channel) (i : Nat) : Option Nat := c.sends[i]?.bind fun s => s.phase.place?

/-- The process to which an event belongs: a line of its output, its exit and its drain, and each
step of a send that was directed to it, so a failed write and a deadline too. -/
def home? (c : Channel) (e : Event) : Option Nat :=
  e.process?.or (e.sender?.bind c.sendHome?)

/-- A channel after a step that reaches one process and some sends only. -/
structure Within (c : Channel) (place : Nat) (mine : Nat → Prop) (d : Channel) : Prop where
  slot : d.slot = c.slot
  spawns : d.spawns = c.spawns
  process : ∀ h, h ≠ place → d.processes[h]? = c.processes[h]?
  send : ∀ k, ¬ mine k → d.sends[k]? = c.sends[k]?

section Steps

theorem Within.refl (c : Channel) (place : Nat) (mine : Nat → Prop) : c.Within place mine c :=
  ⟨rfl, rfl, fun _ _ => rfl, fun _ _ => rfl⟩

theorem Within.updateProcess (within : c.Within place mine d) (f : Process → Process) :
    c.Within place mine (d.updateProcess place f) := by
  refine ⟨within.slot, within.spawns, ?_, within.send⟩
  intro h apart
  rw [lookup_updateProcess, ← within.process h apart]
  simp only [if_neg (Ne.symm apart), Option.map_id']

theorem Within.updateSend (within : c.Within place mine d) (own : mine i) (f : Send → Send) :
    c.Within place mine (d.updateSend i f) := by
  refine ⟨within.slot, within.spawns, within.process, ?_⟩
  intro k apart
  have different : i ≠ k := by
    rintro rfl
    exact apart own
  rw [lookup_updateSend, ← within.send k apart]
  simp only [if_neg different, Option.map_id']

theorem Within.setPhase (within : c.Within place mine d) (own : mine i) (phase : SendPhase) :
    c.Within place mine (d.setPhase i phase) :=
  within.updateSend own _

theorem Within.leave (within : c.Within place mine d) (own : mine i) (outcome : Outcome) :
    c.Within place mine (d.leave i outcome) := by
  have left := within.setPhase own (.done outcome)
  exact ⟨left.slot, left.spawns, left.process, left.send⟩

theorem Within.deliverAll {replies : List Reply} (within : c.Within place mine d)
    (own : ∀ r ∈ replies, mine r.caller) : c.Within place mine (d.deliverAll replies) := by
  induction replies generalizing d with
  | nil => exact within
  | cons r rest ih =>
      apply ih
      · exact within.updateSend (own r List.mem_cons_self) _
      · intro later among
        exact own later (List.mem_cons_of_mem r among)

theorem onProcess_within {enabled : Process → Bool} {f : Process → Process}
    (happens : c.onProcess place enabled f = some d) : c.Within place mine d := by
  obtain ⟨p, _, rest⟩ := Option.bind_eq_some_iff.mp happens
  split at rest
  · cases rest
    exact (Within.refl c place mine).updateProcess f
  · cases rest

theorem sendHome?_eq_some (home : c.sendHome? i = some place) {s : Send}
    (found : c.sends[i]? = some s) : s.phase.place? = some place := by
  rwa [sendHome?, found, Option.bind_some] at home

/-- A send that takes the lock is not directed to a process yet. -/
theorem enter_homeless {fault : Option IoFault} (happens : c.enter i fault = some d) :
    c.sendHome? i ≠ some place := by
  intro home
  obtain ⟨s, found, rest⟩ := Option.bind_eq_some_iff.mp happens
  have here := sendHome?_eq_some home found
  split at rest
  · rename_i queued
    rw [queued] at here
    cases here
  · cases rest

theorem insert_within (happens : c.insert i = some d) (home : c.sendHome? i = some place)
    (own : mine i) : c.Within place mine d := by
  obtain ⟨s, found, rest⟩ := Option.bind_eq_some_iff.mp happens
  have here := sendHome?_eq_some home found
  split at rest
  case h_2 => cases rest
  rename_i entered
  rw [entered] at here
  cases here
  obtain ⟨p, _, rest⟩ := Option.bind_eq_some_iff.mp rest
  split at rest
  · cases rest
    exact (Within.refl c place mine).leave own _
  · cases rest
    exact ((Within.refl c place mine).updateProcess _).setPhase own _

theorem write_within {bytes : Nat} (happens : c.write i bytes = some d)
    (home : c.sendHome? i = some place) (own : mine i) :
    c.Within place mine d := by
  obtain ⟨s, found, rest⟩ := Option.bind_eq_some_iff.mp happens
  have here := sendHome?_eq_some home found
  split at rest
  case h_2 => cases rest
  rename_i writing
  rw [writing] at here
  cases here
  obtain ⟨p, _, rest⟩ := Option.bind_eq_some_iff.mp rest
  split at rest
  case isFalse => cases rest
  have sent := (Within.refl c place mine).updateProcess fun p => { p with sent := p.sent + bytes }
  split at rest
  · cases rest
    have waits := (sent.updateProcess fun p => { p with lines := p.lines ++ [s.line] }).setPhase own
      (.awaiting place c.deadline)
    exact ⟨waits.slot, waits.spawns, waits.process, waits.send⟩
  · cases rest
    exact sent.setPhase own _

theorem writeFails_within (happens : c.writeFails i = some d)
    (home : c.sendHome? i = some place) (own : mine i) :
    c.Within place mine d := by
  obtain ⟨s, found, rest⟩ := Option.bind_eq_some_iff.mp happens
  have here := sendHome?_eq_some home found
  split at rest
  case h_2 => cases rest
  rename_i writing
  rw [writing] at here
  cases here
  obtain ⟨p, _, rest⟩ := Option.bind_eq_some_iff.mp rest
  split at rest
  · cases rest
  · cases rest
    exact ((Within.refl c place mine).updateProcess _).leave own _

theorem withdraw_within (happens : c.withdraw i = some d) (home : c.sendHome? i = some place)
    (own : mine i) : c.Within place mine d := by
  obtain ⟨s, found, rest⟩ := Option.bind_eq_some_iff.mp happens
  have here := sendHome?_eq_some home found
  split at rest
  case h_2 => cases rest
  rename_i expired
  rw [expired] at here
  cases here
  cases rest
  exact ((Within.refl c place mine).updateProcess _).setPhase own _

/-- A send that receives, finds that no reply can come or sees its deadline pass changes nothing but
its phase. -/
theorem receive_within (happens : c.receive i = some d) (own : mine i) :
    c.Within place mine d := by
  obtain ⟨s, _, rest⟩ := Option.bind_eq_some_iff.mp happens
  split at rest
  · cases rest
    exact (Within.refl c place mine).setPhase own _
  · cases rest

theorem abandon_within (happens : c.abandon i = some d) (own : mine i) :
    c.Within place mine d := by
  obtain ⟨s, _, rest⟩ := Option.bind_eq_some_iff.mp happens
  split at rest
  case h_2 => cases rest
  obtain ⟨p, _, rest⟩ := Option.bind_eq_some_iff.mp rest
  split at rest
  · cases rest
    exact (Within.refl c place mine).setPhase own _
  · cases rest

theorem expire_within (happens : c.expire i = some d) (own : mine i) :
    c.Within place mine d := by
  obtain ⟨s, _, rest⟩ := Option.bind_eq_some_iff.mp happens
  split at rest
  case h_2 => cases rest
  split at rest
  · cases rest
    exact (Within.refl c place mine).setPhase own _
  · cases rest

/-- A generation is killed only while its process is in the slot. -/
theorem killGeneration_eq (numbered : c.Numbered) {p : Process}
    (found : c.processes[place]? = some p) :
    c.killGeneration p.generation = if c.slot = some place then c.askKill place else c := by
  unfold killGeneration
  cases slot : c.slot with
  | none => rfl
  | some current =>
      by_cases same : current = place
      · subst same
        simp only [found, if_true]
      · have other : some current ≠ some place := fun equal => same (Option.some.inj equal)
        rw [if_neg other]
        dsimp only
        cases process : c.processes[current]? with
        | none => rfl
        | some q =>
            have numbers := numbered.generation current q process
            have mine := numbered.generation place p found
            apply if_neg
            omega

theorem kill_within (numbered : c.Numbered) (happens : c.kill i = some d)
    (home : c.sendHome? i = some place) (own : mine i) :
    c.Within place mine d ∧ (c.slot ≠ some place → d.processes = c.processes) := by
  obtain ⟨s, found, rest⟩ := Option.bind_eq_some_iff.mp happens
  have here := sendHome?_eq_some home found
  split at rest
  case h_2 => cases rest
  rename_i killing
  rw [killing] at here
  cases here
  obtain ⟨p, process, rest⟩ := Option.bind_eq_some_iff.mp rest
  obtain ⟨limit, _, rest⟩ := Option.bind_eq_some_iff.mp rest
  split at rest
  case isFalse => cases rest
  rw [killGeneration_eq numbered process] at rest
  by_cases current : c.slot = some place
  · rw [if_pos current] at rest
    cases rest
    exact ⟨((Within.refl c place mine).updateProcess _).setPhase own _, absurd current⟩
  · rw [if_neg current] at rest
    cases rest
    exact ⟨(Within.refl c place mine).setPhase own _, fun _ => rfl⟩

theorem readLine_within (chronicled : c.Chronicled j) (happens : c.readLine place = some d) :
    c.Within place (fun k => Fact.did .directed k place ∈ j) d := by
  obtain ⟨p, bytes, process, _, _, rfl⟩ := readLine_eq_some happens
  apply ((Within.refl c place _).updateProcess _).deliverAll
  intro r given
  obtain ⟨x, member, caller⟩ := (takeLine_entries rfl).2.2 r (Option.mem_toList.mp given)
  rw [← caller]
  exact chronicled.directed _ _ _ (chronicled.entries place p x process member)

theorem drain_within (chronicled : c.Chronicled j) (happens : c.drain place = some d) :
    c.Within place (fun k => Fact.did .directed k place ∈ j) d := by
  obtain ⟨p, code, process, _, _, rfl⟩ := drain_eq_some happens
  apply ((Within.refl c place _).updateProcess _).deliverAll
  intro r given
  obtain ⟨x, member, rfl⟩ := List.mem_map.mp given
  exact chronicled.directed _ _ _ (chronicled.entries place p x process member)

end Steps

/-- An event stays within the process to which it belongs and the sends directed to it. -/
theorem step_within (numbered : c.Numbered) (chronicled : c.Chronicled j)
    (happens : c.step e = some d) (home : c.home? e = some place) :
    c.Within place (fun k => Fact.did .directed k place ∈ j) d := by
  have own {i : Nat} (mover : e.process? = none) (sender : e.sender? = some i) :
      c.sendHome? i = some place ∧ Fact.did .directed i place ∈ j := by
    rw [home?, mover, sender, Option.none_or, Option.bind_some] at home
    refine ⟨home, ?_⟩
    obtain ⟨s, found, here⟩ := Option.bind_eq_some_iff.mp home
    exact chronicled.deeds i s .directed place found (SendPhase.directed_mem here) here
  have acts {h : Nat} (mover : e.process? = some h) : h = place := by
    rw [home?, mover, Option.some_or] at home
    exact Option.some.inj home
  cases e with
  | enter => exact absurd (own rfl rfl).1 (enter_homeless happens)
  | insert => exact insert_within happens (own rfl rfl).1 (own rfl rfl).2
  | write => exact write_within happens (own rfl rfl).1 (own rfl rfl).2
  | writeFails => exact writeFails_within happens (own rfl rfl).1 (own rfl rfl).2
  | receive => exact receive_within happens (own rfl rfl).2
  | abandon => exact abandon_within happens (own rfl rfl).2
  | expire => exact expire_within happens (own rfl rfl).2
  | withdraw => exact withdraw_within happens (own rfl rfl).1 (own rfl rfl).2
  | kill => exact (kill_within numbered happens (own rfl rfl).1 (own rfl rfl).2).1
  | workerReads | workerWrites | workerEndsInput | workerExits | endOutput | obeyKill | reap
  | publish =>
      cases acts rfl
      exact onProcess_within happens
  | readLine =>
      cases acts rfl
      exact readLine_within chronicled happens
  | drain =>
      cases acts rfl
      exact drain_within chronicled happens
  | send | close | probe | acknowledge | endInput | overrun | killCurrent | finish | tick =>
      cases home

def Elsewhere (h : Nat) (c : Channel) (e : Event) : Prop := ∃ g, c.home? e = some g ∧ g ≠ h

theorem Within.apart (within : c.Within place (fun k => Fact.did .directed k place ∈ j) d)
    (chronicled : c.Chronicled j) (other : place ≠ h) {k : Nat}
    (directed : Fact.did .directed k h ∈ j) : d.sends[k]? = c.sends[k]? := by
  apply within.send
  intro there
  exact other (chronicled.once k place h there directed)

/-- While only other processes have events, a process and the sends directed to it stay as they
are. -/
theorem run_elsewhere {more : List Event} (sound : c.Sound j)
    (elsewhere : c.Obeys (Elsewhere h) more) (run : c.run more = some d) :
    d.processes[h]? = c.processes[h]? ∧
      ∀ k, Fact.did .directed k h ∈ j → d.sends[k]? = c.sends[k]? := by
  have kept : d.Sound (j ++ c.journal more) ∧ (∀ fact ∈ j, fact ∈ j ++ c.journal more) ∧
      d.processes[h]? = c.processes[h]? ∧
        ∀ k, Fact.did .directed k h ∈ j → d.sends[k]? = c.sends[k]? := by
    refine elsewhere.invariant (motive := fun d all => d.Sound all ∧ (∀ fact ∈ j, fact ∈ all) ∧
      d.processes[h]? = c.processes[h]? ∧
        ∀ k, Fact.did .directed k h ∈ j → d.sends[k]? = c.sends[k]?) ?_ run
      ⟨sound, fun _ member => member, rfl, fun _ _ => rfl⟩
    rintro b all e d ⟨sound, past, process, sends⟩ ⟨g, home, other⟩ happens
    have within := step_within sound.numbered sound.chronicled happens home
    refine ⟨sound.step (step_move happens), ?_, ?_, ?_⟩
    · intro fact member
      exact List.mem_append_left _ (past fact member)
    · rw [within.process h (Ne.symm other), process]
    · intro k directed
      rw [within.apart sound.chronicled other (past _ directed), sends k directed]
  exact kept.2.2

/-- Generations do not interfere. Each process has its own generation. An event that belongs to a
process (a line of its output, its exit and its drain, and every step of a send directed to it, so
a failed write or a deadline) leaves every other process as it is, with its table, its exit and
whether it is asked to die, leaves the slot, and leaves every send that was not directed to this
process, with its replies and its outcome. A deadline that passes for a process that is no longer in
the slot has nobody killed. However many events other processes have, a process and the sends
directed to it stay as they are. -/
theorem generations_apart {program : String} {timeout : Option Duration} {capacity : Nat}
    {events : List Event} {c : Channel}
    (run : (start program timeout capacity).run events = some c) :
    let j := (start program timeout capacity).journal events
    (∀ g p, c.processes[g]? = some p → p.generation = g + 1) ∧
    (∀ e d g, c.home? e = some g → c.step e = some d →
      (∀ h, h ≠ g → d.processes[h]? = c.processes[h]?) ∧ d.slot = c.slot ∧ d.spawns = c.spawns ∧
      (∀ k, Fact.did .directed k g ∉ j → d.sends[k]? = c.sends[k]?) ∧
      ∀ k h, h ≠ g → Fact.did .directed k h ∈ j →
        d.sends[k]? = c.sends[k]? ∧ d.outcome? k = c.outcome? k) ∧
    (∀ i d g, c.home? (.kill i) = some g → c.slot ≠ some g → c.step (.kill i) = some d →
      d.processes = c.processes) ∧
    ∀ h more d, c.Obeys (Elsewhere h) more → c.run more = some d →
      d.processes[h]? = c.processes[h]? ∧
        ∀ k, Fact.did .directed k h ∈ j → d.sends[k]? = c.sends[k]? := by
  intro j
  have sound := run_sound (start_sound program timeout capacity) run
  rw [List.nil_append] at sound
  refine ⟨sound.numbered.generation, ?_, ?_, ?_⟩
  · intro e d g home happens
    have within := step_within sound.numbered sound.chronicled happens home
    refine ⟨within.process, within.slot, within.spawns, within.send, ?_⟩
    intro k h other directed
    have same := within.apart sound.chronicled (Ne.symm other) directed
    exact ⟨same, by rw [outcome?, outcome?, same]⟩
  · intro i d g home replaced happens
    have killed : c.Within g (fun _ => True) d ∧ (c.slot ≠ some g → d.processes = c.processes) :=
      kill_within sound.numbered happens home trivial
    exact killed.2 replaced
  · intro h more d elsewhere later
    exact run_elsewhere sound elsewhere later

/-- A request is late, its worker dies, and a second request goes to the next process before the
first send asks for the kill. -/
def lateKill : List Event :=
  [.send 1 ⟨"a", []⟩, .enter 0 none, .insert 0, .write 0 2, .tick 10, .expire 0,
    .workerExits 0 none, .endOutput 0, .reap 0, .publish 0, .send 2 ⟨"b", []⟩, .enter 1 none,
    .insert 1, .write 1 2, .withdraw 0]

/-- The kill comes too late to hit the next process, and so does the drain. -/
theorem lateKill_misses :
    ∃ c d, (start "worker" (some ⟨0, 10⟩) pipeCapacity).run lateKill = some c ∧
      c.slot = some 1 ∧ c.home? (.kill 0) = some 0 ∧ c.run [.kill 0, .drain 0] = some d ∧
      d.outcome? 0 = some (.error (.timeout ⟨0, 10⟩)) ∧
      c.processes[1]?.map Process.killAsked = some false ∧
      d.processes[1]? = c.processes[1]? ∧ d.sends[1]? = c.sends[1]? ∧
      ∀ after, c.step (.kill 0) = some after → after.processes = c.processes := by
  refine ⟨_, _, rfl, rfl, rfl, rfl, rfl, rfl, ?_⟩
  obtain ⟨_, _, late, apart⟩ :=
    @generations_apart "worker" (some ⟨0, 10⟩) pipeCapacity lateKill _ rfl
  -- Both events belong to the first process, the second one is asked about.
  obtain ⟨process, sends⟩ := apart 1 [.kill 0, .drain 0] _
    ⟨⟨0, rfl, by decide⟩, fun _ _ => ⟨⟨0, rfl, by decide⟩, fun _ _ => trivial⟩⟩ rfl
  exact ⟨process, sends 1 (by decide), fun after => late 0 after 0 rfl (by decide)⟩

end Channel

end ImageSearch.Worker
