import ImageSearch.Proofs.Channel.Effect
import ImageSearch.Proofs.Channel.Lifecycle

set_option autoImplicit false

namespace ImageSearch.Worker

open Recognition

def Event.closer? : Event → Option Nat
  | .probe j | .acknowledge j | .endInput j | .overrun j | .killCurrent j | .finish j => some j
  | _ => none

namespace Channel

variable {b c d : Channel} {e : Event} {j facts : Journal} {i place : Nat} {p q : Process}
  {s : Send} {phase : SendPhase}

/-- A step starts a process, puts bytes into its input pipe, ends its input or asks for its
death. -/
inductive Touches (c d : Channel) (place : Nat) : Prop
  | starts (new : place = c.processes.length) (there : place < d.processes.length)
  | writes {p q : Process} (before : c.processes[place]? = some p)
    (after : d.processes[place]? = some q) (differs : q.sent ≠ p.sent)
  | endsInput {p q : Process} (before : c.processes[place]? = some p)
    (after : d.processes[place]? = some q) (differs : q.inputOpen ≠ p.inputOpen)
  | kills {p q : Process} (before : c.processes[place]? = some p)
    (after : d.processes[place]? = some q) (differs : q.killAsked ≠ p.killAsked)

/-- A send that holds the lock has to do with the process in the slot. -/
def InPlace (c : Channel) : Prop :=
  ∀ (i : Nat) (s : Send), c.sends[i]? = some s → s.phase.locks → s.phase.place? = c.slot

section Slot

/-- The slot changes only while the lock is free. -/
theorem Move.slot (move : c.Move e facts d) (taken : c.lock ≠ none) : d.slot = c.slot := by
  cases move with
  | background same => exact same.slot
  | arrive _ _ same => exact same.slot
  | turn _ turn =>
      cases turn with
      | startFails _ free | starts _ free => exact absurd free taken
      | kill _ _ same => exact same.slot
      | useOpen | useClosed | joins | refuse | writePart | writeAll | writeFails | receive
      | abandon | expire | withdraw => rfl
  | readLine | drain =>
      rw [deliverAll_frame]
      rfl

/-- A send that holds the lock after its turn took the process in the slot, or had it before. -/
theorem Turn.inPlace (turn : c.Turn i s facts b phase) (locks : phase.locks) :
    phase.place? = b.slot ∨ s.phase.locks ∧ phase.place? = s.phase.place? ∧ b.slot = c.slot := by
  cases turn with
  | useOpen _ _ slot => exact .inl slot.symm
  | starts => exact .inl rfl
  | joins before | writePart before =>
      rw [before]
      exact .inr ⟨rfl, rfl, rfl⟩
  | useClosed | startFails | refuse | writeAll | writeFails | receive | abandon | expire
  | withdraw | kill => cases locks

theorem InPlace.step (inPlace : c.InPlace) (locked : c.Locked) (move : c.Move e facts d) :
    d.InPlace := by
  intro k t found locks
  cases move.course found with
  | arrives _ _ _ fresh =>
      rcases fresh with queued | ⟨fault, refused⟩
      · rw [queued] at locks
        cases locks
      · rw [refused] at locks
        cases locks
  | rests old same =>
      rw [same, Send.hear_phase] at locks ⊢
      have taken : c.lock ≠ none := by
        rw [locked k _ old locks]
        exact Option.some_ne_none k
      rw [move.slot taken]
      exact inPlace k _ old locks
  | turns old turn _ after =>
      rw [after]
      rcases turn.inPlace locks with here | ⟨before, same, slot⟩
      · exact here
      · exact same.trans ((inPlace k _ old before).trans slot.symm)

theorem run_inPlace {program : String} {timeout : Option Duration} {capacity : Nat}
    {events : List Event} (run : (start program timeout capacity).run events = some c) :
    c.Locked ∧ c.InPlace := by
  refine run_invariant (motive := fun c _ => c.Locked ∧ c.InPlace) (j := []) ?_ run ?_
  · rintro c _ e d ⟨locked, inPlace⟩ stepped
    exact ⟨locked.step (step_move stepped), inPlace.step locked (step_move stepped)⟩
  · simp [Locked, InPlace, start]

end Slot

/-- A process is written to, has its input ended or is asked to die only while it is in the slot. -/
theorem Change.slot (change : c.Change place p e q) (inPlace : c.InPlace)
    (differs : q.sent ≠ p.sent ∨ q.inputOpen ≠ p.inputOpen ∨ q.killAsked ≠ p.killAsked) :
    c.slot = some place ∧ ∀ i fault, e ≠ .enter i fault := by
  cases change with
  | writes _ found writing =>
      refine ⟨?_, fun _ _ => Event.noConfusion⟩
      rw [← inPlace _ _ found (by rw [writing]; rfl), writing]
      rfl
  | endsInput _ _ _ slot | killedBySend _ _ _ slot | killedByClose _ _ _ slot =>
      exact ⟨slot, fun _ _ => Event.noConfusion⟩
  | _ => simp at differs

theorem facts_started (member : Fact.did .started i place ∈ c.facts e) : e = .enter i none := by
  cases e with
  | enter k fault =>
      simp only [facts] at member
      split at member
      · simp at member
      · split at member
        · rename_i faultless
          simp only [List.mem_cons, Fact.did.injEq, true_and, reduceCtorEq, false_and, or_false,
            List.not_mem_nil] at member
          rw [member.1, Option.isNone_iff_eq_none.mp faultless]
        · cases member
  | insert | write | readLine =>
      simp only [facts] at member
      split at member
      · split at member
        all_goals simp at member
      · cases member
  | writeFails | withdraw =>
      simp only [facts] at member
      split at member
      case h_3 => cases member
      all_goals
        split at member
        all_goals simp at member
  | _ => cases member

/-- A process is started by a send that takes the lock while no process is live. -/
theorem started (happens : c.step e = some d) (more : d.spawns ≠ c.spawns) :
    c.live? = none ∧ ∃ i, e = .enter i none := by
  have move := step_move happens
  generalize same : c.facts e = facts at move
  cases move with
  | background bg => exact absurd bg.spawns more
  | arrive _ _ bg => exact absurd bg.spawns more
  | readLine | drain =>
      rw [deliverAll_frame] at more
      exact absurd rfl more
  | turn _ turn =>
      cases turn with
      | kill _ _ bg => exact absurd bg.spawns more
      | starts _ _ vacant =>
          exact ⟨vacant, _, facts_started (by rw [same]; exact List.mem_cons_self)⟩
      | _ => exact absurd rfl more

theorem Touches.newest (touches : c.Touches d place) (numbered : c.Numbered)
    (inPlace : c.InPlace) (happens : c.step e = some d) : place + 1 = d.spawns := by
  have move := step_move happens
  have old (p q : Process) (before : c.processes[place]? = some p)
      (after : d.processes[place]? = some q)
      (differs : q.sent ≠ p.sent ∨ q.inputOpen ≠ p.inputOpen ∨ q.killAsked ≠ p.killAsked) :
      place + 1 = d.spawns := by
    obtain ⟨r, later, change⟩ := (step_effect happens).change place p before
    cases after.symm.trans later
    obtain ⟨slot, other⟩ := change.slot inPlace differs
    have same : d.spawns = c.spawns := by
      refine Decidable.byContradiction fun more => ?_
      obtain ⟨_, i, entered⟩ := started happens more
      exact other i none entered
    rw [same, numbered.spawns, numbered.newest place slot]
  cases touches with
  | starts new there =>
      have numbered' := numbered.step move
      cases move.occupies with
      | same _ size => omega
      | vacates _ _ size => omega
      | starts _ _ processes =>
          rw [numbered'.spawns, processes, new, List.length_append]
          rfl
  | writes before after differs => exact old _ _ before after (.inl differs)
  | endsInput before after differs => exact old _ _ before after (.inr (.inl differs))
  | kills before after differs => exact old _ _ before after (.inr (.inr differs))

theorem Numbered.none_started (numbered : c.Numbered) (happens : c.step e = some d)
    (process : c.processes[place]? = some p) (live : p.published = none) : d.spawns = c.spawns := by
  refine Decidable.byContradiction fun more => ?_
  have exited := numbered.exited (started happens more).1 process
  rw [live] at exited
  cases exited

/-- A close ends the input of the process that is in the slot then, and has that process killed
which is in the slot then. -/
theorem close_takes_current {m : Nat} (happens : c.step e = some d) (slot : c.slot = some place)
    (process : c.processes[place]? = some p) :
    (e = .endInput m → d.processes[place]? = some { p with inputOpen := false }) ∧
      (e = .killCurrent m → d.processes[place]? = some { p with killAsked := true }) := by
  constructor
  · rintro rfl
    cases (step_effect happens).closes with
    | rests _ other => cases other
    | calls event => cases event
    | turns found turn after =>
        cases turn with
        | findsNone _ vacant =>
            rw [slot] at vacant
            cases vacant
        | endsInput _ _ slot' =>
            cases slot.symm.trans slot'
            rw [after, updateClose, lookup_updateProcess, process, Option.map_some, if_pos rfl]
  · rintro rfl
    cases (step_effect happens).closes with
    | rests _ other => cases other
    | calls event => cases event
    | turns found turn after =>
        cases turn with
        | killsNone _ vacant =>
            rw [slot] at vacant
            cases vacant
        | kills _ _ slot' =>
            cases slot.symm.trans slot'
            rw [after, updateClose, askKill, lookup_updateProcess, process, Option.map_some,
              if_pos rfl]

/-- A close that finds a running process asks for its end by a send of its own. A step of the close
or of that send touches no process but the newest, which is the one that was found exactly if none
was started since. A process is started by the send itself when it takes the lock while no process
is live. The close ends the input and asks for the death of the process that is in the slot then,
whichever it is. As long as the exit of the process that was found is not published, the close
touches no other. -/
theorem close_reaches_newest {program : String} {timeout : Option Duration} {capacity : Nat}
    {before after : List Event} {b c d : Channel} {m found : Nat} {k : Close} {e : Event}
    (earlier : (start program timeout capacity).run before = some b)
    (close : b.closes[m]? = some k) (slot : b.slot = some found) (running : b.isRunning)
    (later : b.run (.probe m :: after) = some c)
    (own : e.closer? = some m ∨ e.sender? = some b.sends.length) (happens : c.step e = some d) :
    (∃ s, c.sends[b.sends.length]? = some s ∧ s.id = k.id ∧ s.command = "close" ∧
      s.line = "close\n") ∧
    (∀ place, c.Touches d place →
      place + 1 = d.spawns ∧ (place = found ↔ d.spawns = b.spawns)) ∧
    (d.spawns ≠ c.spawns ↔ e = .enter b.sends.length none ∧ c.Vacant) ∧
    (∀ place p, c.slot = some place → c.processes[place]? = some p →
      (e = .endInput m → d.processes[place]? = some { p with inputOpen := false }) ∧
      (e = .killCurrent m → d.processes[place]? = some { p with killAsked := true })) ∧
    ∀ p, c.processes[found]? = some p → p.published = none →
      d.spawns = b.spawns ∧ ∀ place, c.Touches d place → place = found := by
  have run := (run_append earlier (.probe m :: after)).trans later
  have numbered := (run_sound (start_sound program timeout capacity) earlier).numbered
  have numbered' := (run_sound (start_sound program timeout capacity) run).numbered
  have inPlace := (run_inPlace run).2
  have newest : found + 1 = b.spawns := by rw [numbered.spawns, numbered.newest found slot]
  have reach (place : Nat) (touches : c.Touches d place) :
      place + 1 = d.spawns ∧ (place = found ↔ d.spawns = b.spawns) := by
    have last := touches.newest numbered' inPlace happens
    exact ⟨last, by omega⟩
  refine ⟨?_, reach, ⟨fun more => ?_, ?_⟩,
    fun _ _ slot process => close_takes_current happens slot process, fun p process live => ?_⟩
  · obtain ⟨asked, probed, rest⟩ := Option.bind_eq_some_iff.mp later
    have entry : asked.sends[b.sends.length]? = some ⟨k.id, "close", "close\n", .queued, []⟩ := by
      cases (step_effect probed).closes with
      | rests _ other => cases other
      | calls event => cases event
      | turns at_ turn after =>
          cases turn with
          | asks =>
              cases close.symm.trans at_
              rw [after]
              exact List.getElem?_concat_length
          | idles _ idle =>
              rw [running] at idle
              cases idle
    exact run_keepsSend rest entry
  · obtain ⟨vacant, i, rfl⟩ := started happens more
    refine ⟨?_, numbered'.vacant vacant⟩
    rcases own with closer | sender
    · cases closer
    · cases sender
      rfl
  · rintro ⟨rfl, vacant⟩
    obtain ⟨s, _, rest⟩ := Option.bind_eq_some_iff.mp happens
    split at rest
    case h_2 => cases rest
    split at rest
    case isFalse => cases rest
    rw [vacant.not_live] at rest
    cases rest
    exact Nat.succ_ne_self c.spawns
  · have same := numbered'.none_started happens process live
    have here := numbered'.newest found (numbered'.live found p process live)
    have spawned : d.spawns = b.spawns := by rw [same, numbered'.spawns, ← here, newest]
    exact ⟨spawned, fun place touches => (reach place touches).2.mpr spawned⟩

/-- A close is called while a request waits for its answer. -/
def closeCalled : List Event :=
  [.send 1 ⟨"a", []⟩, .enter 0 none, .insert 0, .write 0 2, .close 2]

/-- The worker exits before the send of the close takes the lock. -/
def exitFirst : List Event :=
  [.workerExits 0 (some 3), .endOutput 0, .reap 0, .publish 0, .enter 1 none, .insert 1]

/-- The close starts a process and writes its request to it. -/
theorem exitFirst_reaches_next :
    ∃ b c d, (start "worker" none pipeCapacity).run closeCalled = some b ∧ b.slot = some 0 ∧
      b.isRunning ∧ b.run (.probe 0 :: exitFirst) = some c ∧ c.step (.write 1 6) = some d ∧
      (∃ s, c.sends[1]? = some s ∧ s.line = "close\n") ∧ c.Touches d 1 ∧ d.spawns = 2 ∧
      d.spawns ≠ b.spawns := by
  refine ⟨_, _, _, rfl, rfl, rfl, rfl, rfl, ?_⟩
  obtain ⟨⟨s, asked, _, _, line⟩, reach, _⟩ :=
    @close_reaches_newest "worker" none pipeCapacity closeCalled exitFirst _ _ _ 0 0 _ (.write 1 6)
      rfl rfl rfl rfl rfl (.inr rfl) rfl
  obtain ⟨newest, found⟩ := reach 1 (.writes rfl rfl (by decide))
  exact ⟨⟨s, asked, line⟩, .writes rfl rfl (by decide), newest.symm,
    fun same => Nat.one_ne_zero (found.mpr same)⟩

end Channel

end ImageSearch.Worker
