import ImageSearch.Proofs.Channel.Asking
import ImageSearch.Proofs.Channel.Effect
import ImageSearch.Proofs.Channel.Fate

set_option autoImplicit false

namespace ImageSearch.Worker

open Recognition

inductive Wait where
  | lock
  | pipe
  | reply
  deriving Repr, DecidableEq

def SendPhase.wait? : SendPhase → Option Wait
  | .queued | .killing _ => some .lock
  | .writing _ _ => some .pipe
  | .awaiting _ _ => some .reply
  | .entered _ | .expired _ | .done _ => none

theorem SendPhase.writing_of_pipe {phase : SendPhase} (waits : phase.wait? = some .pipe) :
    ∃ place left, phase = .writing place left := by
  cases phase with
  | writing place left => exact ⟨place, left, rfl⟩
  | _ => cases waits

theorem SendPhase.awaiting_of_reply {phase : SendPhase} (waits : phase.wait? = some .reply) :
    ∃ place deadline, phase = .awaiting place deadline := by
  cases phase with
  | awaiting place deadline => exact ⟨place, deadline, rfl⟩
  | _ => cases waits

/-- The phase is the one in which a send takes such a step. -/
def SendPhase.takes : SendPhase → Event → Bool
  | .queued, .enter _ _ => true
  | .entered _, .insert _ => true
  | .writing _ _, .write _ _ | .writing _ _, .writeFails _ => true
  | .awaiting _ _, .receive _ | .awaiting _ _, .abandon _ | .awaiting _ _, .expire _ => true
  | .expired _, .withdraw _ => true
  | .killing _, .kill _ => true
  | _, _ => false

def SendPhase.isOver : SendPhase → Bool
  | .expired _ | .killing _ | .done _ => true
  | _ => false

theorem SendPhase.takes_of_lock {phase : SendPhase} {e : Event} (takes : phase.takes e)
    (waits : phase.wait? = some .lock) :
    (∃ i fault, e = .enter i fault) ∨ ∃ i, e = .kill i := by
  cases phase with
  | queued =>
      cases e with
      | enter i fault => exact .inl ⟨i, fault, rfl⟩
      | _ => cases takes
  | killing =>
      cases e with
      | kill i => exact .inr ⟨i, rfl⟩
      | _ => cases takes
  | _ => cases waits

theorem SendPhase.takes_of_writing {place left : Nat} {e : Event}
    (takes : (SendPhase.writing place left).takes e) :
    (∃ i bytes, e = .write i bytes) ∨ ∃ i, e = .writeFails i := by
  cases e with
  | write i bytes => exact .inl ⟨i, bytes, rfl⟩
  | writeFails i => exact .inr ⟨i, rfl⟩
  | _ => cases takes

theorem SendPhase.takes_of_killing {place : Nat} {e : Event}
    (takes : (SendPhase.killing place).takes e) : ∃ i, e = .kill i := by
  cases e with
  | kill i => exact ⟨i, rfl⟩
  | _ => cases takes

theorem Request.line_pos {request : Request} {line : String} (encodes : request.line = .ok line) :
    0 < line.utf8ByteSize := by
  unfold Request.line at encodes
  split at encodes
  · cases encodes
  · split at encodes
    · cases encodes
    · cases encodes
      rw [Nat.pos_iff_ne_zero, Ne, String.utf8ByteSize_eq_zero_iff, String.ofList_eq_empty_iff]
      simp [Request.render]

/-- A worker reads its input, or closes it, or exits. -/
def Event.relieves (place : Nat) : Event → Bool
  | .workerReads at_ _ | .workerEndsInput at_ | .workerExits at_ _ => at_ == place
  | _ => false

namespace Channel

variable {b c d : Channel} {e : Event} {j facts : Journal} {i h place : Nat} {p : Process}
  {s t : Send} {phase : SendPhase} {limit : Duration}

/-- A step of a send can happen; no worker has to do anything for it. -/
def Able (c : Channel) (i : Nat) : Prop :=
  ∃ e, e.sender? = some i ∧ (c.step e).isSome

/-- A send waits for no other send, or for the lock and so for the send that has it. -/
def WaitsOn (c : Channel) (i h : Nat) : Prop :=
  h = i ∨ ∃ s, c.sends[i]? = some s ∧ s.phase.wait? = some .lock ∧ c.lock = some h

/-- A step of a send can happen, or the process to which it writes is about to be killed. -/
def GoesOn (c : Channel) (h : Nat) : Prop :=
  c.Able h ∨ ∃ s place left, c.sends[h]? = some s ∧ s.phase = .writing place left ∧
    (c.step (.obeyKill place)).isSome

/-- A send writes to a process that takes input and whose pipe is full, and which nobody has asked
to die. -/
structure Clogged (c : Channel) (h place : Nat) : Prop where
  writing : ∃ s left, c.sends[h]? = some s ∧ s.phase = .writing place left
  full : ∃ p, c.processes[place]? = some p ∧ p.acceptsInput ∧ c.capacity ≤ p.unread ∧
    p.killAsked = false

section Ability

/-- What a send does it does in the phase for it. -/
theorem step_takes (happens : c.step e = some d) (mine : e.sender? = some i) :
    ∃ s, c.sends[i]? = some s ∧ s.phase.takes e := by
  cases e with
  | enter | insert | write | writeFails | withdraw | kill =>
      cases mine
      obtain ⟨s, found, rest⟩ := Option.bind_eq_some_iff.mp happens
      split at rest
      case h_2 => cases rest
      rename_i before
      exact ⟨s, found, by rw [before]; rfl⟩
  | receive | abandon | expire =>
      cases mine
      obtain ⟨s, found, rest⟩ := Option.bind_eq_some_iff.mp happens
      split at rest
      case h_2 => cases rest
      rename_i before _
      exact ⟨s, found, by rw [before]; rfl⟩
  | _ => cases mine

theorem enter_free {fault : Option IoFault} (happens : c.step (.enter i fault) = some d) :
    c.lock = none := by
  obtain ⟨s, _, rest⟩ := Option.bind_eq_some_iff.mp happens
  split at rest
  case h_2 => cases rest
  split at rest
  case isFalse => cases rest
  rename_i free
  exact Option.isNone_iff_eq_none.mp free

theorem kill_free (happens : c.step (.kill i) = some d) : c.lock = none := by
  obtain ⟨s, _, rest⟩ := Option.bind_eq_some_iff.mp happens
  split at rest
  case h_2 => cases rest
  obtain ⟨p, _, rest⟩ := Option.bind_eq_some_iff.mp rest
  obtain ⟨limit, _, rest⟩ := Option.bind_eq_some_iff.mp rest
  split at rest
  case isFalse => cases rest
  rename_i free
  exact Option.isNone_iff_eq_none.mp free

theorem unable_without_lock (found : c.sends[i]? = some s) (waits : s.phase.wait? = some .lock)
    (taken : c.lock = some h) : ¬ c.Able i := by
  rintro ⟨e, mine, enabled⟩
  obtain ⟨d, happens⟩ := Option.isSome_iff_exists.mp enabled
  obtain ⟨r, found', takes⟩ := step_takes happens mine
  cases found.symm.trans found'
  have free : c.lock = none := by
    rcases SendPhase.takes_of_lock takes waits with ⟨k, fault, rfl⟩ | ⟨k, rfl⟩
    · exact enter_free happens
    · exact kill_free happens
  rw [taken] at free
  cases free

/-- A send that writes can do nothing while the pipe is full. -/
theorem Clogged.unable (clogged : c.Clogged h place) : ¬ c.Able h := by
  rintro ⟨e, mine, enabled⟩
  obtain ⟨d, happens⟩ := Option.isSome_iff_exists.mp enabled
  obtain ⟨s, left, found, writing⟩ := clogged.writing
  obtain ⟨p, process, accepts, full, _⟩ := clogged.full
  obtain ⟨r, found', takes⟩ := step_takes happens mine
  cases found.symm.trans found'
  rw [writing] at takes
  rcases SendPhase.takes_of_writing takes with ⟨k, bytes, rfl⟩ | ⟨k, rfl⟩
  · cases mine
    have shut : ¬ (p.acceptsInput ∧ 0 < bytes ∧ bytes ≤ left ∧ p.unread + bytes ≤ c.capacity) := by
      omega
    simp [Channel.step, write, found, writing, process, shut] at happens
  · cases mine
    simp [Channel.step, writeFails, found, writing, process, accepts] at happens

theorem able_queued (found : c.sends[i]? = some s) (queued : s.phase = .queued)
    (free : c.lock = none) : c.Able i := by
  refine ⟨.enter i none, rfl, ?_⟩
  simp only [Channel.step, enter, found, queued, isFree, free, Option.bind_eq_bind,
    Option.bind_some, Option.isNone_none, if_true]
  split
  all_goals rfl

theorem able_entered (found : c.sends[i]? = some s) (entered : s.phase = .entered place)
    (process : c.processes[place]? = some p) : c.Able i := by
  refine ⟨.insert i, rfl, ?_⟩
  simp only [Channel.step, insert, found, entered, process, Option.bind_eq_bind, Option.bind_some]
  split
  all_goals rfl

theorem able_killing (found : c.sends[i]? = some s) (killing : s.phase = .killing place)
    (process : c.processes[place]? = some p) (timed : c.timeout = some limit)
    (free : c.lock = none) : c.Able i := by
  refine ⟨.kill i, rfl, ?_⟩
  simp only [Channel.step, kill, found, killing, process, timed, isFree, free, Option.bind_eq_bind,
    Option.bind_some, Option.isNone_none, if_true, Option.isSome_some]

/-- A send that writes goes on when the input is broken and when the pipe has room. -/
theorem able_writing {left : Nat} (found : c.sends[i]? = some s)
    (writing : s.phase = .writing place left) (positive : 0 < left)
    (process : c.processes[place]? = some p)
    (room : p.acceptsInput = false ∨ p.unread < c.capacity) : c.Able i := by
  cases accepts : p.acceptsInput with
  | false =>
      refine ⟨.writeFails i, rfl, ?_⟩
      simp only [Channel.step, writeFails, found, writing, process, accepts, Option.bind_eq_bind,
        Option.bind_some, Bool.false_eq_true, if_false, Option.isSome_some]
  | true =>
      have fits : p.unread + 1 ≤ c.capacity := by
        rcases room with broken | less
        · rw [accepts] at broken
          cases broken
        · exact less
      refine ⟨.write i 1, rfl, ?_⟩
      simp only [Channel.step, write, found, writing, process, accepts, Option.bind_eq_bind,
        Option.bind_some, fits, and_true, true_and, Nat.one_pos, Nat.succ_le_of_lt positive,
        if_true]
      split
      all_goals rfl

theorem able_awaiting {deadline : Nat} (found : c.sends[i]? = some s)
    (awaiting : s.phase = .awaiting place (some deadline)) (passed : deadline ≤ c.now) :
    c.Able i := by
  cases heard : s.inbox with
  | nil =>
      refine ⟨.expire i, rfl, ?_⟩
      simp only [Channel.step, expire, found, awaiting, heard, passed, Option.bind_eq_bind,
        Option.bind_some, if_true, Option.isSome_some]
  | cons o rest =>
      refine ⟨.receive i, rfl, ?_⟩
      simp only [Channel.step, receive, found, awaiting, heard, Option.bind_eq_bind,
        Option.bind_some, Option.isSome_some]

end Ability

section Stall

theorem Clogged.lock (clogged : c.Clogged h place) (locked : c.Locked) : c.lock = some h := by
  obtain ⟨s, left, found, writing⟩ := clogged.writing
  exact locked h s found (by rw [writing]; rfl)

/-- A full pipe stays full until the worker reads from it, or closes it, or exits. -/
theorem Change.full {q : Process} (change : c.Change place p e q) (taken : c.lock ≠ none)
    (idle : e.relieves place = false) (accepts : p.acceptsInput) (full : c.capacity ≤ p.unread)
    (unasked : p.killAsked = false) :
    q.acceptsInput ∧ c.capacity ≤ q.unread ∧ q.killAsked = false := by
  cases change with
  | writes _ _ _ _ room => omega
  | endsInput _ _ free | killedBySend _ _ free | killedByClose _ _ free => exact absurd free taken
  | reads | endsReading | exits => simp [Event.relieves] at idle
  | obeys asked =>
      rw [unasked] at asked
      cases asked
  | rests | files | outputs | takes | endsOutput | reaps | publishes =>
      exact ⟨accepts, full, unasked⟩

theorem Clogged.step (clogged : c.Clogged h place) (locked : c.Locked)
    (happens : c.step e = some d) (idle : e.relieves place = false) : d.Clogged h place := by
  have effect := step_effect happens
  have taken : c.lock ≠ none := by
    rw [clogged.lock locked]
    exact Option.some_ne_none h
  constructor
  · obtain ⟨s, left, found, writing⟩ := clogged.writing
    have other : e.sender? ≠ some h := by
      intro mine
      exact clogged.unable ⟨e, mine, by rw [happens]; rfl⟩
    obtain ⟨t, later, same⟩ := effect.send h s found other
    exact ⟨t, left, later, same.trans writing⟩
  · obtain ⟨p, process, accepts, full, unasked⟩ := clogged.full
    obtain ⟨q, later, change⟩ := effect.change place p process
    rw [effect.capacity]
    exact ⟨q, later, change.full taken idle accepts full unasked⟩

theorem WaitsOn.step (waits : c.WaitsOn i h) (happens : c.step e = some d)
    (taken : d.lock = some h) : d.WaitsOn i h := by
  rcases waits with same | ⟨s, found, waits, before⟩
  · exact .inl same
  · have other : e.sender? ≠ some i := by
      intro mine
      exact unable_without_lock found waits before ⟨e, mine, by rw [happens]; rfl⟩
    obtain ⟨t, later, same⟩ := (step_effect happens).send i s found other
    exact .inr ⟨t, later, by rw [same, waits], taken⟩

theorem WaitsOn.undone (waits : c.WaitsOn i h) (clogged : c.Clogged h place) :
    c.outcome? i = none := by
  cases returned : c.outcome? i with
  | none => rfl
  | some o =>
      obtain ⟨t, found, ended⟩ := outcome?_eq_some.mp returned
      rcases waits with rfl | ⟨s, found', waits, _⟩
      · obtain ⟨s, left, found', writing⟩ := clogged.writing
        cases found.symm.trans found'
        rw [ended] at writing
        cases writing
      · cases found.symm.trans found'
        rw [ended] at waits
        cases waits

/-- A send that waits on a full pipe, its own or that of the send that has the lock, waits on, with
the pipe full, whatever happens, until the worker reads from the pipe, or closes it, or exits. -/
theorem run_clogged {more : List Event} (waits : c.WaitsOn i h) (clogged : c.Clogged h place)
    (locked : c.Locked) (idle : ∀ e ∈ more, e.relieves place = false)
    (run : c.run more = some d) : d.WaitsOn i h ∧ d.Clogged h place := by
  have rule : Obeys (fun _ e => e.relieves place = false) c more :=
    obeys_of_all (fun e member _ => idle e member) c
  have kept := rule.invariant
    (motive := fun d _ => d.WaitsOn i h ∧ d.Clogged h place ∧ d.Locked) (j := []) ?_ run
    ⟨waits, clogged, locked⟩
  · exact ⟨kept.1, kept.2.1⟩
  · rintro c _ e d ⟨waits, clogged, locked⟩ idle happens
    have locked' := locked.step (step_move happens)
    have clogged' := clogged.step locked happens idle
    exact ⟨waits.step happens (clogged'.lock locked'), clogged', locked'⟩

end Stall

section Limit

/-- What every run of a channel with a limit keeps: a send in progress has something to write, and
the deadline of a send that awaits its reply is not further away than the limit. -/
structure Timely (limit : Duration) (c : Channel) : Prop where
  timeout : c.timeout = some limit
  line : ∀ (i : Nat) (s : Send), c.sends[i]? = some s →
    (∃ o, s.phase = .done o) ∨ 0 < s.line.utf8ByteSize
  left : ∀ (i place left : Nat) (s : Send), c.sends[i]? = some s →
    s.phase = .writing place left → 0 < left
  due : ∀ (i place : Nat) (deadline : Option Nat) (s : Send), c.sends[i]? = some s →
    s.phase = .awaiting place deadline → ∃ t, deadline = some t ∧ t ≤ c.now + limit.toNanos

/-- A new send has something to write, or has failed. -/
theorem Move.line (move : c.Move e facts d) (new : c.sends.length ≤ i)
    (found : d.sends[i]? = some t) : (∃ o, t.phase = .done o) ∨ 0 < t.line.utf8ByteSize := by
  have inside := (List.getElem?_eq_some_iff.mp found).1
  cases move with
  | background same =>
      rw [same.sends] at inside
      omega
  | turn _ turn =>
      rw [setPhase, updateSend, List.length_modify, turn.sends] at inside
      omega
  | readLine | drain =>
      rw [deliverAll_sends_length] at inside
      exact absurd inside (Nat.not_lt_of_le new)
  | arrive id request same =>
      rw [same.sends, send, List.getElem?_append_right new, List.getElem?_singleton] at found
      split at found
      case isFalse => cases found
      cases found
      split
      · rename_i encodes
        exact .inr (Request.line_pos encodes)
      · exact .inl ⟨_, rfl⟩

theorem Timely.step_line (timely : c.Timely limit) (move : c.Move e facts d)
    (found : d.sends[i]? = some t) : (∃ o, t.phase = .done o) ∨ 0 < t.line.utf8ByteSize := by
  cases move.course found with
  | arrives new => exact move.line new found
  | rests old same =>
      rw [same, Send.hear_phase, Send.hear_line]
      exact timely.line i _ old
  | turns old turn same =>
      rw [same]
      refine .inr ((timely.line i _ old).resolve_left ?_)
      rintro ⟨o, ended⟩
      exact turn.undone o ended

theorem Timely.step_left {left : Nat} (timely : c.Timely limit) (move : c.Move e facts d)
    (found : d.sends[i]? = some t) (writing : t.phase = .writing place left) : 0 < left := by
  cases move.course found with
  | arrives _ _ _ fresh =>
      rw [writing] at fresh
      simp at fresh
  | rests old same =>
      rw [same, Send.hear_phase] at writing
      exact timely.left i place left _ old writing
  | turns old turn =>
      rw [writing] at turn
      cases turn with
      | joins entered =>
          refine (timely.line i _ old).resolve_left ?_
          rw [entered]
          simp
      | writePart _ _ _ part => omega

theorem Timely.step_due {deadline : Option Nat} (timely : c.Timely limit)
    (move : c.Move e facts d) (later : c.now ≤ d.now) (found : d.sends[i]? = some t)
    (awaiting : t.phase = .awaiting place deadline) :
    ∃ n, deadline = some n ∧ n ≤ d.now + limit.toNanos := by
  cases move.course found with
  | arrives _ _ _ fresh =>
      rw [awaiting] at fresh
      simp at fresh
  | rests old same =>
      rw [same, Send.hear_phase] at awaiting
      obtain ⟨n, timed, bound⟩ := timely.due i place deadline _ old awaiting
      exact ⟨n, timed, by omega⟩
  | turns old turn =>
      rw [awaiting] at turn
      cases turn with
      | writeAll =>
          rw [Channel.deadline, timely.timeout]
          exact ⟨_, rfl, Nat.add_le_add_right later _⟩

theorem Timely.step (timely : c.Timely limit) (happens : c.step e = some d) :
    d.Timely limit := by
  have move := step_move happens
  have later : c.now ≤ d.now := by
    rw [(step_effect happens).now]
    exact Nat.le_add_right ..
  exact ⟨move.timeout.trans timely.timeout, fun _ _ => timely.step_line move,
    fun _ _ _ _ => timely.step_left move, fun _ _ _ _ => timely.step_due move later⟩

theorem run_timely {program : String} {capacity : Nat} {events : List Event}
    (run : (start program (some limit) capacity).run events = some c) :
    c.Timely limit ∧ c.Locked ∧ c.Held := by
  refine run_invariant (motive := fun c _ => c.Timely limit ∧ c.Locked ∧ c.Held) (j := []) ?_ run ?_
  · rintro c _ e d ⟨timely, locked, held⟩ happens
    have move := step_move happens
    exact ⟨timely.step happens, locked.step move, held.step move⟩
  · refine ⟨⟨rfl, ?_, ?_, ?_⟩, ?_, ?_⟩
    all_goals simp [start, Locked, Held]

theorem Turn.past {deadline : Option Nat} (turn : c.Turn i s facts b phase)
    (before : s.phase = .awaiting place deadline ∨ s.phase.isOver) : phase.isOver := by
  cases turn with
  | receive | abandon | expire | withdraw | kill => rfl
  | useOpen other | useClosed other | startFails other | starts other | joins other | refuse other
  | writePart other | writeAll other | writeFails other =>
      rw [other] at before
      simp [SendPhase.isOver] at before

theorem run_past {events : List Event} {deadline : Option Nat} (run : c.run events = some d)
    (found : c.sends[i]? = some s) (awaiting : s.phase = .awaiting place deadline) :
    ∃ t, d.sends[i]? = some t ∧ (t.phase = .awaiting place deadline ∨ t.phase.isOver) :=
  run_phase (fun phase => phase = .awaiting place deadline ∨ phase.isOver)
    (fun _ _ _ _ _ turn before => .inr (turn.past before)) run found (.inl awaiting)

/-- A send whose limit has passed since it began to wait for its reply can take a step. -/
theorem Timely.late_reply {after : List Event} {r : Send} (timely : b.Timely limit)
    (later : b.run after = some c) (since : b.sends[i]? = some r) (found : c.sends[i]? = some s)
    (waited : r.phase.wait? = some .reply) (waits : s.phase.wait? = some .reply)
    (late : b.now + limit.toNanos ≤ c.now) : c.Able i := by
  obtain ⟨place, deadline, before⟩ := SendPhase.awaiting_of_reply waited
  obtain ⟨home, _, awaiting⟩ := SendPhase.awaiting_of_reply waits
  obtain ⟨n, rfl, bound⟩ := timely.due i place deadline r since before
  obtain ⟨t, found', same | past⟩ := run_past later since before
  · cases found.symm.trans found'
    exact able_awaiting found same (by omega)
  · cases found.symm.trans found'
    rw [awaiting] at past
    cases past

end Limit

section Blame

theorem Chronicled.process (chronicled : c.Chronicled j) (found : c.sends[i]? = some s)
    (here : s.phase.place? = some place) : ∃ p, c.processes[place]? = some p := by
  have directed := chronicled.deeds i s .directed place found (SendPhase.directed_mem here) here
  exact ⟨_, List.getElem?_eq_getElem (chronicled.known _ _ _ directed).2⟩

theorem writing_goes_on_or_clogged {left : Nat} (timely : c.Timely limit)
    (chronicled : c.Chronicled j) (found : c.sends[h]? = some s)
    (writing : s.phase = .writing place left) : c.GoesOn h ∨ c.Clogged h place := by
  obtain ⟨p, process⟩ := chronicled.process found (by rw [writing]; rfl)
  have able (room : p.acceptsInput = false ∨ p.unread < c.capacity) : c.GoesOn h :=
    .inl (able_writing found writing (timely.left h place left s found writing) process room)
  cases accepts : p.acceptsInput with
  | false => exact .inl (able (.inl accepts))
  | true =>
      by_cases room : p.unread < c.capacity
      · exact .inl (able (.inr room))
      · have full : c.capacity ≤ p.unread := Nat.le_of_not_lt room
        cases asked : p.killAsked with
        | false => exact .inr ⟨⟨s, left, found, writing⟩, p, process, accepts, full, asked⟩
        | true =>
            have alive : p.isAlive := (Bool.and_eq_true_iff.mp accepts).2
            refine .inl (.inr ⟨s, place, left, found, writing, ?_⟩)
            simp [Channel.step, obeyKill, onProcess, process, asked, alive]

/-- The send that has the lock goes on, or writes to a full pipe. -/
theorem holder_goes_on_or_clogged (timely : c.Timely limit) (chronicled : c.Chronicled j)
    (held : c.Held) (taken : c.lock = some h) : c.GoesOn h ∨ ∃ place, c.Clogged h place := by
  obtain ⟨s, found, locks⟩ := held h taken
  cases phase : s.phase with
  | entered place =>
      obtain ⟨p, process⟩ := chronicled.process found (by rw [phase]; rfl)
      exact .inl (.inl (able_entered found phase process))
  | writing place left =>
      exact (writing_goes_on_or_clogged timely chronicled found phase).imp_right fun clogged =>
        ⟨place, clogged⟩
  | queued | awaiting | expired | killing | done =>
      rw [phase] at locks
      cases locks

theorem able_with_lock (timely : c.Timely limit) (chronicled : c.Chronicled j)
    (found : c.sends[i]? = some s) (waits : s.phase.wait? = some .lock) (free : c.lock = none) :
    c.Able i := by
  cases phase : s.phase with
  | queued => exact able_queued found phase free
  | killing place =>
      obtain ⟨p, process⟩ := chronicled.process found (by rw [phase]; rfl)
      exact able_killing found phase process timely.timeout free
  | entered | writing | awaiting | expired | done =>
      rw [phase] at waits
      cases waits

/-- A send that waits for the lock or for the pipe goes on, or waits on a send that goes on, unless
a full pipe keeps it waiting. -/
theorem goes_on_unless_clogged {wait : Wait} (timely : c.Timely limit)
    (chronicled : c.Chronicled j) (held : c.Held) (found : c.sends[i]? = some s)
    (waits : s.phase.wait? = some wait) (other : wait ≠ .reply)
    (clear : ¬ ∃ h place, c.WaitsOn i h ∧ c.Clogged h place) :
    ∃ h, c.WaitsOn i h ∧ c.GoesOn h := by
  cases wait with
  | reply => exact absurd rfl other
  | pipe =>
      obtain ⟨place, left, writing⟩ := SendPhase.writing_of_pipe waits
      have either := writing_goes_on_or_clogged timely chronicled found writing
      refine ⟨i, .inl rfl, either.resolve_right fun clogged => ?_⟩
      exact clear ⟨i, place, .inl rfl, clogged⟩
  | lock =>
      cases taken : c.lock with
      | none => exact ⟨i, .inl rfl, .inl (able_with_lock timely chronicled found waits taken)⟩
      | some h =>
          have blamed : c.WaitsOn i h := .inr ⟨s, found, waits, taken⟩
          have either := holder_goes_on_or_clogged timely chronicled held taken
          refine ⟨h, blamed, either.resolve_right ?_⟩
          rintro ⟨place, clogged⟩
          exact clear ⟨h, place, blamed, clogged⟩

/-- A send that waits on a full pipe waits on nothing that goes on. -/
theorem Clogged.stuck {k : Nat} (clogged : c.Clogged h place) (locked : c.Locked)
    (waits : c.WaitsOn i h) (other : c.WaitsOn i k) : ¬ c.GoesOn k := by
  have taken := clogged.lock locked
  obtain ⟨s, left, found, writing⟩ := clogged.writing
  have idle : ¬ c.GoesOn h := by
    rintro (able | ⟨t, home, rest, found', writing', obeys⟩)
    · exact clogged.unable able
    · cases found.symm.trans found'
      cases writing.symm.trans writing'
      obtain ⟨p, process, _, _, unasked⟩ := clogged.full
      simp [Channel.step, obeyKill, onProcess, process, unasked] at obeys
  rcases other with rfl | ⟨_, _, _, taken'⟩
  · rcases waits with rfl | ⟨t, found', waits, _⟩
    · exact idle
    · rintro (able | ⟨u, home, rest, found'', writing', _⟩)
      · exact unable_without_lock found' waits taken able
      · cases found'.symm.trans found''
        rw [writing'] at waits
        cases waits
  · cases taken.symm.trans taken'
    exact idle

end Blame

/-- A send whose limit has passed since it began to wait for its reply can take a step. One whose
limit has passed since it began to wait for the lock or for the pipe can take a step, or waits on a
send that can or whose process is about to be killed, exactly if neither it nor the send that has
the lock writes to a full pipe of a process that takes input and that nobody has asked to die. If
one does, the wait has no end, however much time passes and whatever the callers do, until the
worker reads from that pipe, or closes it, or exits. -/
theorem late_send_stuck_iff {program : String} {limit : Duration} {capacity : Nat}
    {before after : List Event} {b c : Channel} {i : Nat} {r s : Send} {wait : Wait}
    (earlier : (start program (some limit) capacity).run before = some b)
    (later : b.run after = some c) (since : b.sends[i]? = some r) (found : c.sends[i]? = some s)
    (waited : r.phase.wait? = some wait) (waits : s.phase.wait? = some wait)
    (late : b.now + limit.toNanos ≤ c.now) :
    (wait = .reply → c.Able i) ∧
    ((∃ h, c.WaitsOn i h ∧ c.GoesOn h) ↔ ¬ ∃ h place, c.WaitsOn i h ∧ c.Clogged h place) ∧
    ∀ h place, c.WaitsOn i h → c.Clogged h place → ∀ more d,
      (∀ e ∈ more, e.relieves place = false) → c.run more = some d →
      d.WaitsOn i h ∧ d.Clogged h place ∧ d.outcome? i = none := by
  have run := (run_append earlier after).trans later
  obtain ⟨timely, locked, held⟩ := run_timely run
  have chronicled := (run_sound (start_sound program (some limit) capacity) run).chronicled
  have replied (reply : wait = .reply) : c.Able i := by
    subst reply
    exact (run_timely earlier).1.late_reply later since found waited waits late
  refine ⟨replied, ⟨?_, fun clear => ?_⟩, fun h place waits clogged more d idle run => ?_⟩
  · rintro ⟨k, other, going⟩ ⟨h, place, waits, clogged⟩
    exact clogged.stuck locked waits other going
  · by_cases reply : wait = .reply
    · exact ⟨i, .inl rfl, .inl (replied reply)⟩
    · exact goes_on_unless_clogged timely chronicled held found waits reply clear
  · obtain ⟨waits', clogged'⟩ := run_clogged waits clogged locked idle run
    exact ⟨waits', clogged', waits'.undone clogged'⟩

/-- The second request fills the pipe before the limit of the first one passes. -/
def fullPipe : List Event :=
  [.send 1 ⟨"a", []⟩, .enter 0 none, .insert 0, .write 0 2, .send 2 ⟨"long", []⟩, .enter 1 none,
    .insert 1, .write 1 2, .tick 10, .expire 0, .withdraw 0]

/-- The first send waits for the lock to have the worker killed, and can wait for ever. -/
theorem fullPipe_stuck :
    ∃ b c, (start "worker" (some ⟨0, 10⟩) 4).run fullPipe = some b ∧
      b.run [.tick 1000] = some c ∧ c.sends[0]?.map Send.phase = some (.killing 0) ∧
      (¬ ∃ h, c.WaitsOn 0 h ∧ c.GoesOn h) ∧
      ∀ more d, (∀ e ∈ more, e.relieves 0 = false) → c.run more = some d → d.outcome? 0 = none := by
  refine ⟨_, _, rfl, rfl, rfl, ?_⟩
  obtain ⟨_, exactly, forever⟩ := @late_send_stuck_iff "worker" ⟨0, 10⟩ 4 fullPipe [.tick 1000]
    _ _ 0 _ _ .lock rfl rfl rfl rfl rfl rfl (by decide)
  have stuck := forever 1 0 (.inr ⟨_, rfl, rfl, rfl⟩)
    ⟨⟨_, _, rfl, rfl⟩, _, rfl, rfl, by decide, rfl⟩
  obtain ⟨waits, clogged, _⟩ := stuck [] _ (by simp) rfl
  exact ⟨fun goes => exactly.mp goes ⟨1, 0, waits, clogged⟩,
    fun more d idle run => (stuck more d idle run).2.2⟩

end Channel

end ImageSearch.Worker
