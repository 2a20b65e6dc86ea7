import ImageSearch.Proofs.Channel.Serial
import ImageSearch.Proofs.Channel.Lifecycle

set_option autoImplicit false

namespace ImageSearch.Worker

open Recognition

namespace Channel

variable {b c d : Channel} {e : Event} {j facts : Journal} {m n place : Nat} {k : Close}
  {id : RequestId} {request : Request} {phase : ClosePhase}

/-- No call is in progress, and no process is live. -/
structure Rested (c : Channel) : Prop where
  settled : c.Settled
  closed : ∀ (m : Nat) (k : Close), c.closes[m]? = some k → k.phase = .done
  vacant : c.Vacant

section AtRest

theorem Held.free (held : c.Held) (settled : c.Settled) : c.lock = none := by
  cases lock : c.lock with
  | none => rfl
  | some i =>
      obtain ⟨s, found, locks⟩ := held i lock
      obtain ⟨o, ended⟩ := settled i s found
      rw [ended] at locks
      cases locks

theorem Seated.no_entries {p : Process} (seated : c.Seated) (settled : c.Settled)
    (process : c.processes[place]? = some p) : p.table.entries = [] := by
  rw [List.eq_nil_iff_forall_not_mem]
  intro x member
  obtain ⟨s, found, _, here, _⟩ := seated.seat place p x process member
  obtain ⟨o, ended⟩ := settled _ s found
  rw [ended] at here
  cases here

theorem Seated.pendingCount (seated : c.Seated) (settled : c.Settled) : c.pendingCount = 0 := by
  unfold Channel.pendingCount
  split
  · rfl
  · rename_i p current
    obtain ⟨place, _, process⟩ := Option.bind_eq_some_iff.mp current
    rw [seated.no_entries settled process]
    rfl

/-- The last step of a close leaves the channel at rest. -/
theorem Serial.returns (serial : c.Serial j) (found : c.closes[m]? = some k)
    (turn : c.CloseTurn m k e b .done) : c.Vacant := by
  cases turn with
  | idles _ idle => exact serial.sound.numbered.vacant_of_idle idle
  | findsNone _ none_ => exact .inl none_
  | @finishes place waiting exited =>
      have aim : k.phase.aim? = some place := by
        rcases waiting with ⟨deadline, waiting⟩ | lingering
        · rw [waiting]
          rfl
        · rw [lingering]
          rfl
      have slot := serial.single.aim m place k found aim
      unfold hasExited at exited
      split at exited
      · rename_i p process
        obtain ⟨code, published⟩ : ∃ code, p.published = some code := by
          simpa [Process.isLive, Option.isSome_iff_exists] using exited
        exact .inr ⟨place, p, code, slot, process, published⟩
      · cases exited

end AtRest

/-- A close that was called when no call was in progress, and after which none was made. -/
structure Closing (n : Nat) (c : Channel) (j : Journal) : Prop where
  serial : c.Serial j
  size : c.closes.length = n + 1
  rest : ∀ k, c.closes[n]? = some k → k.phase = .done → c.Settled ∧ c.Vacant

theorem Closing.step (closing : Closing n c j) (calm : e.isCall = false)
    (happens : c.step e = some d) : Closing n d (j ++ c.facts e) := by
  have move := step_move happens
  have serial := closing.serial.step (.of_calm calm) happens
  cases (step_effect happens).closes with
  | rests same other =>
      refine ⟨serial, by rw [same, closing.size], fun k found ended => ?_⟩
      obtain ⟨settled, vacant⟩ := closing.rest k (same ▸ found) ended
      exact ⟨settled.step move (Event.quiet other calm), vacant.step move (settled.slot move).1⟩
  | calls event =>
      subst event
      cases calm
  | @turns m k b phase found turn after =>
      have settled := closing.serial.single.settled found turn
      have last : m = n := by
        have same := (closing.serial.single.close m k found).resolve_left turn.undone
        rw [closing.size] at same
        omega
      subst last after
      have size : (b.updateClose m phase).closes.length = c.closes.length := by
        cases turn with
        | asks | idles | hears | endsInput | findsNone | overruns | kills | killsNone | finishes =>
            exact List.length_modify ..
      refine ⟨serial, size.trans closing.size, fun l at_ ended => ?_⟩
      have done_ : phase = .done := by
        rw [lookup_updateClose] at at_
        obtain ⟨k', _, rfl⟩ := Option.map_eq_some_iff.mp at_
        rwa [if_pos rfl] at ended
      subst done_
      have vacant := closing.serial.returns found turn
      cases turn with
      | idles | findsNone | finishes => exact ⟨settled, vacant⟩

/-- When the close has returned the channel is at rest. -/
theorem run_rested {events : List Event} (serial : b.Serial j) (idle : b.Idle)
    (run : b.run (.close id :: events) = some c) (calm : ∀ e ∈ events, e.isCall = false)
    (returned : c.closes.getLast?.map Close.phase = some .done) :
    c.Rested ∧ ∃ k, c.Serial k := by
  have called : b.step (.close id) = some (b.close id) := rfl
  have first : Closing b.closes.length (b.close id) j := by
    have serial' := serial.step (fun _ => idle) called
    have same : j ++ b.facts (.close id) = j := List.append_nil j
    rw [same] at serial'
    refine ⟨serial', List.length_append, fun k found ended => ?_⟩
    rw [Channel.close, List.getElem?_concat_length] at found
    cases found
    cases ended
  have rule : Obeys (fun _ e => e.isCall = false) (b.close id) events :=
    obeys_of_all (fun e member _ => calm e member) _
  have closing := rule.invariant (motive := Closing b.closes.length)
    (fun _ _ _ _ closing calm happens => closing.step calm happens) run first
  generalize j ++ (b.close id).journal events = k at closing
  obtain ⟨l, found, ended⟩ := Option.map_eq_some_iff.mp returned
  rw [List.getLast?_eq_getElem?, closing.size, Nat.add_sub_cancel] at found
  obtain ⟨settled, vacant⟩ := closing.rest l found ended
  refine ⟨⟨settled, fun m k' found' => ?_, vacant⟩, k, closing.serial⟩
  rcases closing.serial.single.close m k' found' with ended' | last
  · exact ended'
  · have here : m = b.closes.length := by rw [closing.size] at last; omega
    rw [here, found] at found'
    cases found'
    exact ended

section NextClose

/-- A close that is called while the channel is at rest. -/
structure Passing (c d : Channel) : Prop where
  settled : d.Settled
  vacant : d.Vacant
  closes : ∀ (m : Nat) (k : Close), d.closes[m]? = some k → k.phase = .done ∨ k.phase = .probing
  spawns : d.spawns = c.spawns
  sends : d.sends.length = c.sends.length
  unwritten : ∀ (place : Nat) (p : Process), c.processes[place]? = some p →
    ∃ q, d.processes[place]? = some q ∧ q.sent = p.sent ∧ q.lines = p.lines

theorem Settled.unwritten {p q : Process} (settled : c.Settled) (change : c.Change place p e q) :
    q.sent = p.sent ∧ q.lines = p.lines := by
  cases change with
  | writes _ found phase =>
      obtain ⟨o, ended⟩ := settled _ _ found
      rw [phase] at ended
      cases ended
  | _ => exact ⟨rfl, rfl⟩

theorem Passing.step (passing : Passing b c) (calm : e.isCall = false)
    (happens : c.step e = some d) : Passing b d := by
  have move := step_move happens
  have effect := step_effect happens
  have unwritten (place : Nat) (p : Process) (found : b.processes[place]? = some p) :
      ∃ q, d.processes[place]? = some q ∧ q.sent = p.sent ∧ q.lines = p.lines := by
    obtain ⟨q, at_, sent, lines⟩ := passing.unwritten place p found
    obtain ⟨r, later, change⟩ := effect.change place q at_
    obtain ⟨sent', lines'⟩ := passing.settled.unwritten change
    exact ⟨r, later, sent'.trans sent, lines'.trans lines⟩
  have slot := passing.settled.slot move
  have vacant := passing.vacant.step move slot.1
  have spawns := slot.2.trans passing.spawns
  cases effect.closes with
  | rests same other =>
      have quiet := Event.quiet other calm
      exact ⟨passing.settled.step move quiet, vacant, same ▸ passing.closes, spawns,
        (move.same_length quiet).trans passing.sends, unwritten⟩
  | calls event =>
      subst event
      cases calm
  | @turns m k b' phase found turn after =>
      subst after
      cases turn with
      | asks _ _ running =>
          rw [passing.vacant.not_running] at running
          cases running
      | idles =>
          refine ⟨passing.settled, vacant, fun n l at_ => ?_, spawns, passing.sends, unwritten⟩
          rw [lookup_updateClose] at at_
          obtain ⟨k', before, rfl⟩ := Option.map_eq_some_iff.mp at_
          split
          · exact .inl rfl
          · exact passing.closes n k' before
      | hears before | endsInput before | findsNone before | overruns before | kills before
      | killsNone before =>
          rcases passing.closes m k found with ended | probing
          · rw [ended] at before
            cases before
          · rw [probing] at before
            cases before
      | finishes before =>
          rcases passing.closes m k found with same | same
          all_goals
            rw [same] at before
            simp at before

/-- A close of a channel at rest writes nothing and starts nothing. -/
theorem Rested.close {events : List Event} (rested : c.Rested)
    (run : c.run (.close id :: events) = some d) (calm : ∀ e ∈ events, e.isCall = false) :
    Passing c d := by
  have first : Passing c (c.close id) := by
    refine ⟨rested.settled, rested.vacant, fun m k found => ?_, rfl, rfl,
      fun _ p found => ⟨p, found, rfl, rfl⟩⟩
    rcases lookup_close found with old | ⟨rfl, _⟩
    · exact .inl (rested.closed m k old)
    · exact .inr rfl
  have rule : Obeys (fun _ e => e.isCall = false) (c.close id) events :=
    obeys_of_all (fun e member _ => calm e member) _
  exact rule.invariant (motive := fun d _ => Passing c d) (j := [])
    (fun _ _ _ _ passing calm happens => passing.step calm happens) run first

end NextClose

section NextSend

/-- The first send after a rest: it waits for the lock, or no process could be started for it, or
one was started. -/
inductive Begins (n spawns : Nat) (d : Channel) : Prop
  | waits {s : Send} (found : d.sends[n]? = some s) (queued : s.phase = .queued)
    (same : d.spawns = spawns)
  | fails {program : String} {fault : IoFault}
    (returned : d.outcome? n = some (.error (.startup program fault))) (same : d.spawns = spawns)
  | starts {s : Send} (found : d.sends[n]? = some s) (begun : s.phase ≠ .queued)
    (unfailed : ∀ program fault, s.phase ≠ .done (.error (.startup program fault)))
    (unclosed : s.phase ≠ .done (.error (.channelClosed .inputClosed)))
    (one : d.spawns = spawns + 1)

/-- A send that has begun goes on with the process that it has. -/
theorem Turn.begun {i : Nat} {s : Send} {phase : SendPhase} (turn : c.Turn i s facts b phase)
    (begun : s.phase ≠ .queued) (heard : ∀ o ∈ s.inbox, c.Heard j i o) :
    b.spawns = c.spawns ∧ phase ≠ .queued ∧
      (∀ program fault, phase ≠ .done (.error (.startup program fault))) ∧
      phase ≠ .done (.error (.channelClosed .inputClosed)) := by
  cases turn with
  | useOpen queued | useClosed queued | startFails queued | starts queued =>
      exact absurd queued begun
  | kill _ _ same => exact ⟨same.spawns, by simp, by simp, by simp⟩
  | receive _ inbox =>
      have brought := heard _ (inbox ▸ List.mem_cons_self)
      cases brought with
      | answer | fault | exit => exact ⟨rfl, by simp, by simp, by simp⟩
  | joins | refuse | writePart | writeAll | writeFails | abandon | expire | withdraw =>
      exact ⟨rfl, by simp, by simp, by simp⟩

/-- A send that was called while the channel was at rest, and after which no call was made. -/
structure Beginning (n spawns : Nat) (c : Channel) (j : Journal) : Prop where
  serial : c.Serial j
  size : c.sends.length = n + 1
  closed : ∀ (m : Nat) (k : Close), c.closes[m]? = some k → k.phase = .done
  vacant : ∀ s, c.sends[n]? = some s → s.phase = .queued → c.Vacant
  begins : Begins n spawns c

theorem Begins.same (begins : Begins n m c) (spawns : d.spawns = c.spawns)
    (phase : d.sends[n]?.map Send.phase = c.sends[n]?.map Send.phase) : Begins n m d := by
  have later {s : Send} (found : c.sends[n]? = some s) :
      ∃ t, d.sends[n]? = some t ∧ t.phase = s.phase := by
    rw [found, Option.map_some] at phase
    exact Option.map_eq_some_iff.mp phase
  cases begins with
  | waits found queued same =>
      obtain ⟨t, at_, kept⟩ := later found
      exact .waits at_ (kept.trans queued) (spawns.trans same)
  | fails returned same =>
      have kept : d.outcome? n = c.outcome? n := by rw [outcome?, phase, outcome?]
      exact .fails (kept.trans returned) (spawns.trans same)
  | starts found begun unfailed unclosed one =>
      obtain ⟨t, at_, kept⟩ := later found
      rw [← kept] at begun unclosed
      simp only [← kept] at unfailed
      exact .starts at_ begun unfailed unclosed (spawns.trans one)

/-- Only the send itself can take a turn. -/
theorem Beginning.turn {i spawns : Nat} {s : Send} {phase : SendPhase}
    (beginning : Beginning n spawns c j) (found : c.sends[i]? = some s)
    (turn : c.Turn i s facts b phase) :
    i = n ∧ phase ≠ .queued ∧ Begins n spawns (b.setPhase i phase) := by
  have here : i = n := by
    rcases beginning.serial.single.send i s found with ⟨o, ended⟩ | last
    · exact absurd ended (turn.undone o)
    · have size := beginning.size
      omega
  subst here
  have after : (b.setPhase i phase).sends[i]? = some { s with phase := phase } := by
    rw [lookup_setPhase, turn.sends, found, Option.map_some, if_pos rfl]
  cases beginning.begins with
  | waits found' queued same =>
      cases found.symm.trans found'
      have unlive := (beginning.vacant s found queued).not_live
      cases turn with
      | useOpen _ _ slot process live | useClosed _ _ slot process live =>
          rw [live?_eq_some.mpr ⟨slot, process, live⟩] at unlive
          cases unlive
      | startFails => exact ⟨rfl, by simp, .fails (outcome?_setPhase found _) same⟩
      | starts =>
          exact ⟨rfl, by simp, .starts after (by simp) (by simp) (by simp) (congrArg (· + 1) same)⟩
      | joins before | refuse before | writePart before | writeAll before | writeFails before
      | receive before | abandon before | expire before | withdraw before | kill before =>
          rw [queued] at before
          cases before
  | fails returned =>
      obtain ⟨t, found', ended⟩ := outcome?_eq_some.mp returned
      cases found.symm.trans found'
      exact absurd ended (turn.undone _)
  | starts found' begun _ _ one =>
      cases found.symm.trans found'
      obtain ⟨spawns, unqueued, unfailed, unclosed⟩ :=
        turn.begun begun fun o heard => beginning.serial.sound.explained.heard i s o found heard
      exact ⟨rfl, unqueued, .starts after unqueued unfailed unclosed (spawns.trans one)⟩

theorem Beginning.step {spawns : Nat} (beginning : Beginning n spawns c j)
    (calm : e.isCall = false) (happens : c.step e = some d) :
    Beginning n spawns d (j ++ c.facts e) := by
  have move := step_move happens
  have serial := beginning.serial.step (.of_calm calm) happens
  cases (step_effect happens).closes with
  | calls event =>
      subst event
      cases calm
  | turns found turn => exact absurd (beginning.closed _ _ found) turn.undone
  | rests same other =>
      have quiet := Event.quiet other calm
      have size := (move.same_length quiet).trans beginning.size
      -- A step that lets the send only hear something.
      have rest (slot : d.slot = c.slot) (spawned : d.spawns = c.spawns)
          (phase : d.sends[n]?.map Send.phase = c.sends[n]?.map Send.phase) :
          Beginning n spawns d (j ++ c.facts e) := by
        refine ⟨serial, size, same ▸ beginning.closed, fun t found queued => ?_,
          beginning.begins.same spawned phase⟩
        rw [found, Option.map_some, queued] at phase
        obtain ⟨s, before, was⟩ := Option.map_eq_some_iff.mp phase.symm
        exact (beginning.vacant s before was).step move slot
      generalize c.facts e = facts at move serial rest ⊢
      cases move with
      | background bg => exact rest bg.slot bg.spawns (by rw [bg.sends])
      | arrive _ _ _ demand =>
          rw [demand] at quiet
          cases quiet
      | turn found turn =>
          obtain ⟨here, unqueued, begins⟩ := beginning.turn found turn
          subst here
          refine ⟨serial, size, same ▸ beginning.closed, fun t found' queued => ?_, begins⟩
          rw [lookup_setPhase, turn.sends, found, Option.map_some, if_pos rfl] at found'
          cases found'
          exact absurd queued unqueued
      | readLine | drain =>
          refine rest ?_ ?_ ?_
          · rw [deliverAll_frame]
            rfl
          · rw [deliverAll_frame]
            rfl
          · rw [lookup_deliverAll, Option.map_map]
            exact congrArg (Option.map · _) (funext fun s => s.hear_phase _)

/-- A send of a channel at rest starts exactly one process, or fails to start one. -/
theorem Rested.send {events : List Event} {line : String} (rested : c.Rested)
    (serial : c.Serial j) (encodes : request.line = .ok line)
    (run : c.run (.send id request :: events) = some d) (calm : ∀ e ∈ events, e.isCall = false) :
    Begins c.sends.length c.spawns d := by
  have idle : c.Idle := by
    refine ⟨fun s member => ?_, fun k member => ?_⟩
    · obtain ⟨i, found⟩ := List.mem_iff_getElem?.mp member
      obtain ⟨o, ended⟩ := rested.settled i s found
      rw [ended]
      rfl
    · obtain ⟨m, found⟩ := List.mem_iff_getElem?.mp member
      exact rested.closed m k found
  have called : c.step (.send id request) = some (c.send id request) := rfl
  have last : (c.send id request).sends[c.sends.length]? =
      some ⟨id, request.command, line, .queued, []⟩ := by
    rw [Channel.send, encodes, List.getElem?_concat_length]
  have serial' := serial.step (fun _ => idle) called
  have first : Beginning c.sends.length c.spawns (c.send id request)
      (j ++ c.facts (.send id request)) :=
    ⟨serial', List.length_append, rested.closed, fun _ _ _ => rested.vacant, .waits last rfl rfl⟩
  have rule : Obeys (fun _ e => e.isCall = false) (c.send id request) events :=
    obeys_of_all (fun e member _ => calm e member) _
  exact (rule.invariant (motive := Beginning c.sends.length c.spawns)
    (fun _ _ _ _ beginning calm happens => beginning.step calm happens) run first).begins

end NextSend

/-- When a close returns, its calls having been made one after another with those before it, no
process is live and no request waits, whatever the workers do. A close that comes next writes
nothing, makes no request and starts nothing. A send that comes next, if its request can be encoded,
has the lock for the asking, and fails because no process can be started for it or starts exactly
one process, and never finds its input closed. -/
theorem close_leaves_rest {program : String} {timeout : Option Duration} {capacity : Nat}
    {before after : List Event} {b c : Channel} {id : RequestId}
    (earlier : (start program timeout capacity).run before = some b)
    (serial : Obeys OneAtATime (start program timeout capacity) before) (idle : b.Idle)
    (later : b.run (.close id :: after) = some c) (calm : ∀ e ∈ after, e.isCall = false)
    (returned : c.closes.getLast?.map Close.phase = some .done) :
    ((c.processState = .notStarted ∨ ∃ code, c.processState = .exited code) ∧
      c.pendingCount = 0) ∧
    (∀ (id : RequestId) (more : List Event) (d : Channel), (∀ e ∈ more, e.isCall = false) →
      c.run (.close id :: more) = some d →
      d.spawns = c.spawns ∧ d.sends.length = c.sends.length ∧
      ∀ (place : Nat) (p : Process), c.processes[place]? = some p →
        ∃ q, d.processes[place]? = some q ∧ q.sent = p.sent ∧ q.lines = p.lines) ∧
    ∀ (id : RequestId) (request : Request) (line : String), request.line = .ok line →
      (∀ fault, ((c.send id request).step (.enter c.sends.length fault)).isSome) ∧
      ∀ (more : List Event) (d : Channel), (∀ e ∈ more, e.isCall = false) →
        c.run (.send id request :: more) = some d → Begins c.sends.length c.spawns d := by
  obtain ⟨rested, k, serial'⟩ :=
    run_rested (run_serial (start_serial program timeout capacity) serial earlier) idle later calm
      returned
  refine ⟨⟨rested.vacant.processState, serial'.seated.pendingCount rested.settled⟩, ?_, ?_⟩
  · intro id more d calm run
    have passing := rested.close run calm
    exact ⟨passing.spawns, passing.sends, passing.unwritten⟩
  · intro id request line encodes
    refine ⟨fun fault => ?_, fun more d calm run => rested.send serial' encodes run calm⟩
    have free : c.lock = none := serial'.held.free rested.settled
    have unlive : (c.send id request).live? = none := rested.vacant.not_live
    have last : (c.send id request).sends[c.sends.length]? =
        some ⟨id, request.command, line, .queued, []⟩ := by
      rw [Channel.send, encodes, List.getElem?_concat_length]
    have unlocked : (c.send id request).isFree = true := by
      show c.lock.isNone = true
      rw [free]
      rfl
    simp [Channel.step, Channel.enter, last, unlocked, unlive]

def servedRun : List Event :=
  [.send 1 ⟨"a", []⟩, .enter 0 none, .insert 0, .write 0 2, .workerReads 0 2,
    .workerWrites 0 successLine, .readLine 0, .receive 0]

/-- The worker exits instead of answering the close. -/
def closingEvents : List Event :=
  [.probe 0, .enter 1 none, .insert 1, .write 1 6, .workerExits 0 (some 3), .endOutput 0, .reap 0,
    .publish 0, .drain 0, .receive 1, .acknowledge 0, .endInput 0, .finish 0]

theorem closingEvents_rest :
    ∃ b c d, (start "worker" none pipeCapacity).run servedRun = some b ∧
      Obeys OneAtATime (start "worker" none pipeCapacity) servedRun ∧ b.Idle ∧
      b.run (.close 2 :: closingEvents) = some c ∧
      c.closes.getLast?.map Close.phase = some .done ∧ c.processState = .exited (some 3) ∧
      c.pendingCount = 0 ∧ c.run [.send 3 ⟨"b", []⟩, .enter 2 none] = some d ∧ Begins 2 1 d ∧
      d.spawns = 2 := by
  have checked : ((start "worker" none pipeCapacity).run servedRun).any (fun b =>
      decide b.Idle && (b.run (.close 2 :: closingEvents)).any fun c =>
        c.closes.getLast?.map Close.phase == some .done && c.processState == .exited (some 3) &&
          c.spawns == 1 && c.sends.length == 2 &&
          (c.run [.send 3 ⟨"b", []⟩, .enter 2 none]).any fun d => d.spawns == 2) = true := by
    decide +kernel
  obtain ⟨b, earlier, rest⟩ := (Option.any_eq_true _ _).mp checked
  rw [Bool.and_eq_true, decide_eq_true_eq] at rest
  obtain ⟨idle, rest⟩ := rest
  obtain ⟨c, later, rest⟩ := (Option.any_eq_true _ _).mp rest
  simp only [Bool.and_eq_true, beq_iff_eq] at rest
  obtain ⟨⟨⟨⟨returned, exited⟩, spawns⟩, size⟩, rest⟩ := rest
  obtain ⟨d, next, two⟩ := (Option.any_eq_true _ _).mp rest
  have serial : Obeys OneAtATime (start "worker" none pipeCapacity) servedRun := by
    decide +kernel
  obtain ⟨⟨_, nothing⟩, _, again⟩ :=
    close_leaves_rest earlier serial idle later (by decide) returned
  obtain ⟨_, begins⟩ := again 3 ⟨"b", []⟩ "b\n" rfl
  have begun := begins [.enter 2 none] d (by decide) next
  rw [size, spawns] at begun
  exact ⟨b, c, d, earlier, serial, idle, later, returned, exited, nothing, next, begun,
    beq_iff_eq.mp two⟩

end Channel

end ImageSearch.Worker
