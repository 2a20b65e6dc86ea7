import ImageSearch.Proofs.Channel.Ending
import ImageSearch.Proofs.Channel.Recovery

set_option autoImplicit false

namespace ImageSearch.Worker

open Recognition

namespace Channel

variable {c d : Channel} {e : Event} {j facts : Journal} {i place : Nat} {p q : Process}
  {code : Option Int}

theorem reaped_of_canPublish (can : c.canPublish p = true) : p.reaped.isSome := by
  rw [canPublish, Bool.and_eq_true, Bool.and_eq_true] at can
  exact can.1.2

theorem Flow.stays_reaped (flow : c.Flow p q) (reaped : p.reaped.isSome) : q.reaped.isSome := by
  rcases flow.reaped with same | now
  · rw [same]
    exact reaped
  · rw [now]
    rfl

/-- Every process whose exit is published is reaped. -/
def Noticed (c : Channel) : Prop :=
  ∀ (place : Nat) (p : Process), c.processes[place]? = some p → p.published.isSome →
    p.reaped.isSome

theorem Noticed.step (noticed : c.Noticed) (move : c.Move e facts d) : d.Noticed := by
  intro place q at_ exited
  rcases move.origin at_ with ⟨p, before, flow⟩ | new
  · apply flow.stays_reaped
    rcases flow.publishes exited with earlier | can
    · exact noticed place p before earlier
    · exact reaped_of_canPublish can
  · rw [new] at exited
    cases exited

theorem run_noticed {events : List Event} (noticed : c.Noticed) (run : c.run events = some d) :
    d.Noticed :=
  run_invariant (motive := fun c _ => c.Noticed) (j := [])
    (fun _ _ _ _ noticed stepped => noticed.step (step_move stepped)) run noticed

theorem Noticed.unreaped (noticed : c.Noticed) (numbered : c.Numbered)
    (found : c.processes[place]? = some p) (unreaped : p.reaped = none) : c.slot = some place := by
  apply numbered.live place p found
  cases exited : p.published with
  | none => rfl
  | some code =>
      have reaped := noticed place p found (by rw [exited]; rfl)
      rw [unreaped] at reaped
      cases reaped

theorem publish_published (found : c.processes[place]? = some p) (exited : p.published = some code) :
    c.step (.publish place) = none := by
  have disabled : c.canPublish p = false := by
    simp only [canPublish, Process.isLive, exited, Option.isNone_some, Bool.false_and]
  simp only [Channel.step, publish, onProcess, found, disabled, Option.bind_eq_bind,
    Option.bind_some, Bool.false_eq_true, if_false]

/-- Once the exit of a process is published it stays as it is, and is not published again. -/
theorem run_published {more : List Event} (run : c.run more = some d)
    (found : c.processes[place]? = some p) (exited : p.published = some code) :
    .publish place ∉ more ∧ ∃ q, d.processes[place]? = some q ∧ q.published = some code := by
  induction more generalizing c p with
  | nil =>
      cases run
      exact ⟨List.not_mem_nil, p, found, exited⟩
  | cons e rest ih =>
      obtain ⟨next, stepped, later⟩ := Option.bind_eq_some_iff.mp run
      obtain ⟨q, at_, keeps⟩ := (step_move stepped).keeps place p found
      have still : q.published = some code := by
        rw [keeps.published (by rw [exited]; rfl), exited]
      obtain ⟨absent, final⟩ := ih later at_ still
      refine ⟨?_, final⟩
      rw [List.mem_cons, not_or]
      refine ⟨?_, absent⟩
      rintro rfl
      rw [publish_published found exited] at stepped
      cases stepped

/-- The slot is empty, or the exit of the process in it is published. -/
def Vacant (c : Channel) : Prop :=
  c.slot = none ∨ ∃ place p code, c.slot = some place ∧ c.processes[place]? = some p ∧
    p.published = some code

theorem Numbered.vacant (numbered : c.Numbered) (vacant : c.live? = none) : c.Vacant := by
  cases slot : c.slot with
  | none => exact .inl slot
  | some place =>
      have last := numbered.newest place slot
      have found : c.processes[place]? = some c.processes[place] :=
        List.getElem?_eq_getElem (by omega)
      obtain ⟨code, exited⟩ := Option.isSome_iff_exists.mp (numbered.exited vacant found)
      exact .inr ⟨place, _, code, slot, found, exited⟩

theorem Numbered.vacant_of_idle (numbered : c.Numbered) (idle : c.isRunning = false) :
    c.Vacant := by
  apply numbered.vacant
  cases live : c.live? with
  | none => rfl
  | some found =>
      obtain ⟨slot, process, live⟩ := live?_eq_some.mp live
      simp [isRunning, processState, current?, slot, process, live] at idle

theorem Vacant.not_running (vacant : c.Vacant) : c.isRunning = false := by
  rcases vacant with none_ | ⟨place, p, code, slot, process, exited⟩
  · simp [isRunning, processState, current?, none_]
  · simp [isRunning, processState, current?, slot, process, exited]

theorem Vacant.not_live (vacant : c.Vacant) : c.live? = none := by
  cases live : c.live? with
  | none => rfl
  | some found =>
      obtain ⟨slot, process, live⟩ := live?_eq_some.mp live
      have idle := vacant.not_running
      simp [isRunning, processState, current?, slot, process, live] at idle

theorem Vacant.processState (vacant : c.Vacant) :
    c.processState = .notStarted ∨ ∃ code, c.processState = .exited code := by
  rcases vacant with none_ | ⟨place, p, code, slot, process, exited⟩
  · exact .inl (by simp [Channel.processState, current?, none_])
  · exact .inr ⟨code, by simp [Channel.processState, current?, slot, process, exited]⟩

theorem Vacant.step (vacant : c.Vacant) (move : c.Move e facts d) (slot : d.slot = c.slot) :
    d.Vacant := by
  rcases vacant with none_ | ⟨place, p, code, here, found, exited⟩
  · exact .inl (slot.trans none_)
  · obtain ⟨q, at_, keeps⟩ := move.keeps place p found
    exact .inr ⟨place, q, code, slot.trans here, at_,
      (keeps.published (by rw [exited]; rfl)).trans exited⟩

/-- The number of processes changes only by a start, which needs a vacant slot. -/
theorem Move.starts (move : c.Move e facts d) (numbered : c.Numbered)
    (grown : d.processes.length ≠ c.processes.length) :
    c.Vacant ∧ d.slot = some c.processes.length ∧
      d.processes = c.processes ++ [Process.start (c.spawns + 1)] ∧ d.spawns = c.spawns + 1 := by
  cases move.occupies with
  | same _ size => exact absurd size grown
  | vacates _ _ size => exact absurd size grown
  | starts vacant slot processes spawns =>
      exact ⟨numbered.vacant vacant, slot, processes, spawns⟩

/-- A send for which no process can be started fails in its first turn, which leaves every process
as it is. -/
theorem Sound.fails_to_start {program : String} {fault : IoFault} (sound : c.Sound j)
    (move : c.Move e facts d) (before : c.outcome? i = none)
    (returned : d.outcome? i = some (.error (.startup program fault))) :
    (∃ s, c.sends[i]? = some s ∧ s.phase = .queued) ∧ d.spawns = c.spawns ∧
      d.processes = c.processes := by
  obtain ⟨t, found, ended⟩ := outcome?_eq_some.mp returned
  cases move.course found with
  | arrives _ _ _ phase =>
      rcases phase with queued | ⟨refusal, refused⟩
      · rw [queued] at ended
        cases ended
      · rw [refused] at ended
        cases ended
  | rests old same =>
      rw [same, Send.hear_phase] at ended
      rw [outcome?_eq_some.mpr ⟨_, old, ended⟩] at before
      cases before
  | turns old turn _ after =>
      rw [ended] at turn
      cases turn with
      | startFails queued =>
          rw [after]
          exact ⟨⟨_, old, queued⟩, rfl, rfl⟩
      | receive _ heard =>
          have brought := sound.explained.heard i _ _ old (by rw [heard]; exact List.mem_cons_self)
          cases brought

/-- Never more than one process is unreaped, and that one is in the slot. Generations count the
processes from one in the order in which they start, and the number of starts is the newest of them.
The exit of a process is published once, after the process was reaped, and for good. A process is
started only when the slot is empty or the exit of the process in it is published. A send that fails
because no process can be started has done nothing before, and changes neither the number of starts
nor the table of any process as it fails. -/
theorem one_process_at_a_time {program : String} {timeout : Option Duration} {capacity : Nat}
    {events : List Event} {c : Channel}
    (run : (start program timeout capacity).run events = some c) :
    let j := (start program timeout capacity).journal events
    (∀ place p, c.processes[place]? = some p → p.reaped = none → c.slot = some place ∧
      ∀ other q, c.processes[other]? = some q → q.reaped = none → other = place) ∧
    (c.spawns = c.processes.length ∧
      ∀ (place : Nat) (p : Process), c.processes[place]? = some p → p.generation = place + 1) ∧
    (∀ place p code, c.processes[place]? = some p → p.published = some code → p.reaped.isSome ∧
      ∀ more d, c.run more = some d → .publish place ∉ more ∧
        ∃ q, d.processes[place]? = some q ∧ q.published = some code) ∧
    (∀ e d, c.step e = some d →
      (∀ (place : Nat) (p q : Process), c.processes[place]? = some p →
        d.processes[place]? = some q → p.published = none → q.published.isSome →
        p.reaped.isSome) ∧
      (d.processes.length ≠ c.processes.length →
        c.Vacant ∧ d.slot = some c.processes.length ∧
        d.processes = c.processes ++ [Process.start (c.spawns + 1)] ∧ d.spawns = c.spawns + 1) ∧
      ∀ i program fault, c.outcome? i = none →
        d.outcome? i = some (.error (.startup program fault)) →
        (∃ s, c.sends[i]? = some s ∧ s.phase = .queued) ∧ d.spawns = c.spawns ∧
          d.processes = c.processes) ∧
    ∀ i program fault, c.outcome? i = some (.error (.startup program fault)) →
      ∀ deed place, Fact.did deed i place ∉ j := by
  intro j
  have sound := run_sound (start_sound program timeout capacity) run
  rw [List.nil_append] at sound
  have noticed : c.Noticed := by
    refine run_noticed ?_ run
    simp [Noticed, start]
  refine ⟨?_, ⟨sound.numbered.spawns, sound.numbered.generation⟩, ?_, ?_, ?_⟩
  · intro place p found unreaped
    have slot := noticed.unreaped sound.numbered found unreaped
    refine ⟨slot, ?_⟩
    intro other q found' unreaped'
    have slot' := noticed.unreaped sound.numbered found' unreaped'
    exact Option.some.inj (slot'.symm.trans slot)
  · intro place p code found exited
    refine ⟨noticed place p found (by rw [exited]; rfl), ?_⟩
    intro more d later
    exact run_published later found exited
  · intro e d stepped
    have move := step_move stepped
    refine ⟨?_, move.starts sound.numbered, ?_⟩
    · intro place p q before after live exited
      rcases (move.flow before after).publishes exited with earlier | can
      · rw [live] at earlier
        cases earlier
      · exact reaped_of_canPublish can
    · intro i program fault before returned
      exact sound.fails_to_start move before returned
  · intro i program fault returned
    obtain ⟨s, found, ended⟩ := outcome?_eq_some.mp returned
    exact (sound.explained.ends i s _ found ended).startup_nowhere

/-- A process is asked for something and exits; the second send finds no program to start, and the
third one starts the next process. -/
def restartedRun : List Event :=
  [.send 1 ⟨"a", []⟩, .enter 0 none, .insert 0, .write 0 2, .workerExits 0 (some 3),
    .endOutput 0, .reap 0, .publish 0, .drain 0, .receive 0, .send 2 ⟨"b", []⟩,
    .enter 1 (some .notFound), .send 3 ⟨"c", []⟩, .enter 2 none]

/-- The process that has exited is behind, and the one that replaced it is the second one. -/
theorem restartedRun_replaced :
    ∃ c p q, (start "worker" none pipeCapacity).run restartedRun = some c ∧
      c.processes[0]? = some p ∧ p.published = some (some 3) ∧ p.reaped.isSome ∧
      c.processes[1]? = some q ∧ q.reaped = none ∧ c.slot = some 1 ∧ q.generation = 2 ∧
      c.spawns = c.processes.length ∧ ∀ more d, c.run more = some d → .publish 0 ∉ more := by
  have checked : ((start "worker" none pipeCapacity).run restartedRun).any (fun c =>
      c.processes[0]?.any (·.published == some (some 3)) &&
        c.processes[1]?.any (·.reaped == none)) = true := by
    decide +kernel
  obtain ⟨c, run, rest⟩ := (Option.any_eq_true _ _).mp checked
  obtain ⟨first, second⟩ := Bool.and_eq_true_iff.mp rest
  obtain ⟨p, found, exited⟩ := (Option.any_eq_true _ _).mp first
  obtain ⟨q, found', unreaped⟩ := (Option.any_eq_true _ _).mp second
  rw [beq_iff_eq] at exited unreaped
  obtain ⟨single, ⟨spawns, generation⟩, final, _⟩ := one_process_at_a_time run
  obtain ⟨reaped, later⟩ := final 0 p (some 3) found exited
  exact ⟨c, p, q, run, found, exited, reaped, found', unreaped, (single 1 q found' unreaped).1,
    generation 1 q found', spawns, fun more d run => (later more d run).1⟩

end Channel

end ImageSearch.Worker
