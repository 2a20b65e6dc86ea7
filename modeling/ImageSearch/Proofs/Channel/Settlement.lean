import ImageSearch.Proofs.Channel.Ending
import ImageSearch.Proofs.Channel.Replies
import ImageSearch.Proofs.Channel.Stalling

set_option autoImplicit false

namespace ImageSearch.Worker

open Recognition

namespace Channel

variable {c d b : Channel} {e : Event} {j facts : Journal} {r : List Reply} {i : Nat} {s : Send}
  {phase : SendPhase}

/-- A send that waits for its answer and has heard nothing is in the table of its process. -/
theorem Accounted.present {place : Nat} {deadline : Option Nat} {p : Process}
    (accounted : c.Accounted j r) (chronicled : c.Chronicled j) (found : c.sends[i]? = some s)
    (awaiting : s.phase = .awaiting place deadline) (silent : s.inbox = [])
    (process : c.processes[place]? = some p) : i ∈ p.table.entries.map Entry.caller := by
  have admitted := chronicled.deeds i s .admitted place found
    (by simp [awaiting, SendPhase.deeds]) (by rw [awaiting]; rfl)
  have unremoved := chronicled.ahead i s .removed place found
    (by simp [awaiting, SendPhase.ahead])
  have unanswered : i ∉ callers r := by
    rw [← outcomesFor_eq_nil, ← accounted.inbox i s found (by rw [awaiting]; rfl), silent]
  rw [← Journal.mem_sends] at admitted unremoved
  rw [accounted.table place p process, Journal.kept, List.mem_filter, List.mem_filter,
    decide_eq_true_eq, decide_eq_true_eq]
  exact ⟨⟨admitted, unremoved⟩, unanswered⟩

/-- A send that has heard nothing does not find its entry gone. -/
theorem Accounted.not_absent {place : Nat} {deadline : Option Nat} {p : Process}
    (accounted : c.Accounted j r) (chronicled : c.Chronicled j) (found : c.sends[i]? = some s)
    (awaiting : s.phase = .awaiting place deadline) (silent : s.inbox = [])
    (process : c.processes[place]? = some p) : isAbsent p i = false := by
  have waiting := accounted.present chronicled found awaiting silent process
  obtain ⟨x, member, mine⟩ := List.mem_map.mp waiting
  rw [isAbsent, List.all_eq_false]
  exact ⟨x, member, by simp [mine]⟩

/-- The only channel that a send finds closed is one whose input has ended. -/
def Unbroken (c : Channel) : Prop :=
  ∀ (i : Nat) (s : Send) (reason : ClosedReason), c.sends[i]? = some s →
    s.phase = .done (.error (.channelClosed reason)) → reason = .inputClosed

theorem Unbroken.step (unbroken : c.Unbroken) (accounted : c.Accounted j r) (sound : c.Sound j)
    (move : c.Move e facts d) : d.Unbroken := by
  intro k t reason found ended
  cases move.course found with
  | arrives _ _ _ phase =>
      rcases phase with phase | ⟨_, phase⟩
      all_goals
        rw [phase] at ended
        cases ended
  | rests before same =>
      rw [same, Send.hear_phase] at ended
      exact unbroken k _ reason before ended
  | turns before turn =>
      rw [ended] at turn
      cases turn with
      | useClosed => rfl
      | receive _ heard =>
          have brought := sound.explained.heard k _ _ before (by rw [heard]; exact List.mem_cons_self)
          cases brought
      | abandon awaiting process silent absent =>
          rw [accounted.not_absent sound.chronicled before awaiting silent process] at absent
          cases absent

/-- What every run of a channel keeps when the identifiers are distinct. -/
structure Orderly (c : Channel) (j : Journal) (r : List Reply) : Prop where
  sound : c.Sound j
  seated : c.Seated
  timed : c.Timed
  fated : c.Fated j
  accounted : c.Accounted j r
  unbroken : c.Unbroken
  behind : c.Behind

theorem start_orderly (program : String) (timeout : Option Duration) (capacity : Nat) :
    (start program timeout capacity).Orderly [] [] := by
  refine ⟨start_sound program timeout capacity, ⟨?_, ?_, ?_⟩, ?_, ⟨?_, ?_⟩,
    ⟨?_, ?_, ?_, ?_, ?_, ?_⟩, ?_, ?_⟩
  all_goals simp [start, Timed, Unbroken, Behind]

theorem Orderly.step (orderly : c.Orderly j r) (distinct : c.DistinctIds)
    (happens : c.step e = some d) : d.Orderly (j ++ c.facts e) (r ++ c.replies e) := by
  have move := step_move happens
  have chronicled := orderly.sound.chronicled
  have own := orderly.seated.takesOwn distinct
  exact ⟨orderly.sound.step move, orderly.seated.step own chronicled move,
    orderly.timed.step orderly.sound.explained move,
    orderly.fated.step chronicled orderly.seated move,
    orderly.accounted.step chronicled orderly.seated distinct happens,
    orderly.unbroken.step orderly.accounted orderly.sound move, orderly.behind.step move⟩

theorem run_orderly {events : List Event} (orderly : c.Orderly j r)
    (run : c.run events = some d) (distinct : d.DistinctIds) :
    d.Orderly (j ++ c.journal events) (r ++ c.repliesOf events) := by
  refine run_replies (motive := fun c j r => c.DistinctIds → c.Orderly j r) ?_ run
    (fun _ => orderly) distinct
  intro c j r e d kept happens distinct
  have before := distinct.back (step_move happens)
  exact (kept before).step before happens

theorem run_shut {place : Nat} {p : Process} {code : Option Int} {events : List Event}
    (found : c.processes[place]? = some p) (shut : p.IsShut code)
    (run : c.run events = some d) : ∃ q, d.processes[place]? = some q ∧ q.IsShut code := by
  refine run_invariant (motive := fun d _ => ∃ q, d.processes[place]? = some q ∧ q.IsShut code)
    (j := []) ?_ run ⟨p, found, shut⟩
  rintro b j e d ⟨q, at_, shut⟩ happens
  exact (step_move happens).shut at_ shut

theorem outcome?_setPhase (found : c.sends[i]? = some s) (o : Outcome) :
    (c.setPhase i (.done o)).outcome? i = some o := by
  rw [outcome?, lookup_setPhase, found, Option.map_some, if_pos rfl]
  rfl

theorem insert_refused {place : Nat} {p : Process} {code : Option Int}
    (process : c.processes[place]? = some p) (shut : p.IsShut code)
    (found : c.sends[i]? = some s) (entered : s.phase = .entered place) :
    ∃ d, c.step (.insert i) = some d ∧
      d.outcome? i = some (.error (.workerExited code)) ∧ d.processes = c.processes := by
  have refused : p.table.insert ⟨s.id, s.command, i⟩ = .error (.workerExited code) := by
    rw [shut.table]
    rfl
  refine ⟨c.leave i (.error (.workerExited code)), ?_, outcome?_setPhase found _, rfl⟩
  simp only [Channel.step, insert, found, entered, process, refused, Option.bind_eq_bind,
    Option.bind_some]

/-- The deadline of a send has passed, and its entry is gone. All that it can still do is to return
a timeout, and it can do so exactly when the lock is free. -/
def Leaves (c : Channel) (i place : Nat) : Prop :=
  ∃ s limit, c.sends[i]? = some s ∧ s.phase = .killing place ∧ c.timeout = some limit ∧
    (c.Able i ↔ c.lock = none) ∧
    ∀ e d, e.sender? = some i → c.step e = some d → d.outcome? i = some (.error (.timeout limit))

theorem kill_returns {place : Nat} {limit : Duration} (found : c.sends[i]? = some s)
    (killing : s.phase = .killing place) (deadline : c.timeout = some limit)
    (happens : c.step (.kill i) = some d) : d.outcome? i = some (.error (.timeout limit)) := by
  simp only [Channel.step, kill, found, killing, deadline, Option.bind_eq_bind, Option.bind_some]
    at happens
  obtain ⟨p, _, rest⟩ := Option.bind_eq_some_iff.mp happens
  split at rest
  case isFalse => cases rest
  cases rest
  apply outcome?_setPhase
  rw [(Background.killGeneration c p.generation).sends, found]

theorem leaves {place : Nat} {p : Process} (timed : c.Timed)
    (process : c.processes[place]? = some p) (found : c.sends[i]? = some s)
    (killing : s.phase = .killing place) : c.Leaves i place := by
  obtain ⟨limit, deadline⟩ := Option.isSome_iff_exists.mp
    (timed i s found (by rw [killing]; rfl))
  refine ⟨s, limit, found, killing, deadline, ⟨fun able => ?_, fun free => ?_⟩, ?_⟩
  · cases taken : c.lock with
    | none => rfl
    | some h => exact absurd able (unable_without_lock found (by rw [killing]; rfl) taken)
  · exact able_killing found killing process deadline free
  · intro e d mine happens
    obtain ⟨r, found', takes⟩ := step_takes happens mine
    cases found.symm.trans found'
    rw [killing] at takes
    obtain ⟨k, rfl⟩ := SendPhase.takes_of_killing takes
    cases mine
    exact kill_returns found killing deadline happens

/-- A request that is in no closed table any more and was not replied to was taken out. -/
theorem Orderly.taken_out {place : Nat} {p : Process} {code : Option Int} (orderly : c.Orderly j r)
    (process : c.processes[place]? = some p) (closed : p.table.closed = some code)
    (admitted : i ∈ j.sends .admitted place) (unreplied : i ∉ callers r) :
    i ∈ j.sends .removed place := by
  have empty := (orderly.accounted.shut place p code process closed).table
  have none_left := orderly.accounted.table place p process
  rw [empty, List.map_nil, Journal.kept, List.filter_filter, eq_comm, List.filter_eq_nil_iff]
    at none_left
  have gone := none_left i admitted
  simp only [Bool.and_eq_true, decide_eq_true_eq, not_and, Decidable.not_not] at gone
  exact gone unreplied

/-- A request of a process whose table is closed that was not replied to has not returned exactly
if its own send took it out and is about to return. -/
theorem Orderly.ended {place : Nat} {p : Process} {code : Option Int} (orderly : c.Orderly j r)
    (process : c.processes[place]? = some p) (closed : p.table.closed = some code)
    (admitted : i ∈ j.sends .admitted place) (unreplied : i ∉ callers r) :
    c.outcome? i = none ↔ i ∈ j.sends .removed place ∧ c.Leaves i place := by
  have taken_out := orderly.taken_out process closed admitted unreplied
  have removed := Journal.mem_sends.mp taken_out
  constructor
  · intro undone
    have known := (orderly.sound.chronicled.known _ _ _ removed).1
    have found := List.getElem?_eq_getElem known
    have unended {o : Outcome} (phase : (c.sends[i]).phase = .done o) : False := by
      rw [outcome?_eq_some.mpr ⟨_, found, phase⟩] at undone
      cases undone
    refine ⟨taken_out, ?_⟩
    cases orderly.fated.removed i place _ removed found with
    | unwritten o phase => exact (unended phase).elim
    | late late =>
        rcases late with ⟨home, killing⟩ | ⟨limit, phase⟩
        · have here := orderly.sound.chronicled.deeds i _ .admitted home found
            (by simp [killing, SendPhase.deeds]) (by rw [killing]; rfl)
          have same := orderly.sound.chronicled.alone here removed
          subst same
          exact leaves orderly.timed process found killing
        · exact (unended phase).elim
  · rintro ⟨_, s, _, found, killing, _⟩
    cases returned : c.outcome? i with
    | none => rfl
    | some o =>
        obtain ⟨t, found', ended⟩ := outcome?_eq_some.mp returned
        cases found.symm.trans found'
        rw [killing] at ended
        cases ended

theorem Orderly.absent {place : Nat} {p : Process} {x : Entry} {o : Outcome}
    (orderly : c.Orderly j r) (distinct : c.DistinctIds) (found : c.sends[i]? = some s)
    (ended : s.phase = .done o) (process : c.processes[place]? = some p)
    (member : x ∈ p.table.entries) : x.id ≠ s.id := by
  intro same
  obtain ⟨t, at_, id, here, _⟩ := orderly.seated.seat place p x process member
  have mine := distinct.same at_ found (id.trans same)
  rw [mine, found] at at_
  cases at_
  rw [ended] at here
  cases here

/-- When the table of a process is drained, it is closed and empty from then on, and refuses the
requests that still come. -/
theorem drained {place : Nat} (happens : c.step (.drain place) = some d) :
    ∃ p code, c.processes[place]? = some p ∧ p.published = some code ∧
      ∀ more later, d.run more = some later →
        ∃ q, later.processes[place]? = some q ∧ q.table = ⟨[], some code⟩ ∧
          ∀ i s, later.sends[i]? = some s → s.phase = .entered place →
            ∃ after, later.step (.insert i) = some after ∧
              after.outcome? i = some (.error (.workerExited code)) ∧
              after.processes = later.processes := by
  obtain ⟨p, code, process, exited, _, same⟩ := drain_eq_some happens
  refine ⟨p, code, process, exited, fun more later run => ?_⟩
  have at_ : d.processes[place]? = some { p with table := (p.table.failAll code).1 } := by
    rw [same, deliverAll_processes, lookup_updateProcess, process, Option.map_some, if_pos rfl]
  obtain ⟨q, found, shut⟩ := run_shut at_ ⟨rfl, exited⟩ run
  exact ⟨q, found, shut.table, fun i s waiting entered => insert_refused found shut waiting entered⟩

/-- Every request that enters a table gets one outcome, and none is left in the table of a process
that has exited. A request is in the table until it is replied to or its own send takes it out. From
the moment at which the requests of a process fail its table is closed and empty, and refuses what
still comes. A send that has returned is in no table. After the table of its process is closed a
request was replied to or its send has returned, except exactly when the send took it out at its
deadline and has yet to ask for the kill: for that it takes the lock, and then returns. Nobody is
replied to twice, what a send that listens holds is what was replied to it, and nobody finds the
reply dropped or the process gone from its slot. -/
theorem one_outcome_each {program : String} {timeout : Option Duration} {capacity : Nat}
    {events : List Event} {c : Channel}
    (run : (start program timeout capacity).run events = some c) (distinct : c.DistinctIds) :
    let j := (start program timeout capacity).journal events
    let r := (start program timeout capacity).repliesOf events
    (∀ place p, c.processes[place]? = some p →
      p.table.entries.map Entry.caller = (j.sends .admitted place).filter
        (fun i => i ∉ j.sends .removed place ∧ i ∉ r.map Reply.caller) ∧
      ∀ x ∈ p.table.entries, ∃ s, c.sends[x.caller]? = some s ∧ s.id = x.id) ∧
    (∀ place d, c.step (.drain place) = some d →
      ∃ p code, c.processes[place]? = some p ∧ p.published = some code ∧
        ∀ more later, d.run more = some later →
          ∃ q, later.processes[place]? = some q ∧ q.table = ⟨[], some code⟩ ∧
            ∀ i s, later.sends[i]? = some s → s.phase = .entered place →
              ∃ after, later.step (.insert i) = some after ∧
                after.outcome? i = some (.error (.workerExited code)) ∧
                after.processes = later.processes) ∧
    (∀ (i : Nat) (s : Send) (o : Outcome), c.sends[i]? = some s → s.phase = .done o →
      ∀ (place : Nat) (p : Process), c.processes[place]? = some p →
        ∀ x ∈ p.table.entries, x.id ≠ s.id) ∧
    (∀ place p code, c.processes[place]? = some p → p.table.closed = some code →
      ∀ i ∈ j.sends .admitted place, i ∉ r.map Reply.caller →
        (c.outcome? i = none ↔ i ∈ j.sends .removed place ∧ c.Leaves i place)) ∧
    ((r.map Reply.caller).Nodup ∧ ∀ (i : Nat) (s : Send), c.sends[i]? = some s →
      s.phase.listens → s.inbox = outcomesFor r i) ∧
    ∀ i reason, c.outcome? i = some (.error (.channelClosed reason)) → reason = .inputClosed := by
  have orderly := run_orderly (start_orderly program timeout capacity) run distinct
  rw [List.nil_append, List.nil_append] at orderly
  intro j r
  refine ⟨fun place p process => ⟨?_, fun x member => ?_⟩, fun place d => drained, ?_, ?_,
    ⟨orderly.accounted.once, orderly.accounted.inbox⟩, ?_⟩
  · rw [orderly.accounted.table place p process, Journal.kept, List.filter_filter]
    refine List.filter_congr fun k _ => ?_
    rw [Bool.decide_and, Bool.and_comm]
  · obtain ⟨s, found, id, _⟩ := orderly.seated.seat place p x process member
    exact ⟨s, found, id⟩
  · intro i s o found ended place p process x member
    exact orderly.absent distinct found ended process member
  · intro place p code process closed i admitted unreplied
    exact orderly.ended process closed admitted unreplied
  · intro i reason returned
    obtain ⟨s, found, ended⟩ := outcome?_eq_some.mp returned
    exact orderly.unbroken i s reason found ended

/-- The first request is taken out at its deadline and the second one is replied to when the worker
exits. The third request goes to the next process and fills the pipe. -/
def withdrawnRun : List Event :=
  [.send 1 ⟨"a", []⟩, .enter 0 none, .insert 0, .write 0 2, .tick 10, .send 2 ⟨"b", []⟩,
    .enter 1 none, .insert 1, .write 1 2, .expire 0, .withdraw 0, .workerExits 0 (some 3),
    .endOutput 0, .reap 0, .publish 0, .drain 0, .send 3 ⟨"long", []⟩, .enter 2 none, .insert 2,
    .write 2 4]

/-- The first send has yet to ask for the kill, and the lock for it is not free. -/
theorem withdrawnRun_leaves :
    ∃ c, (start "worker" (some ⟨0, 10⟩) 4).run withdrawnRun = some c ∧ c.DistinctIds ∧
      c.outcome? 0 = none ∧ c.Leaves 0 0 ∧ ¬ c.Able 0 := by
  refine ⟨_, rfl, by decide, rfl, ?_⟩
  obtain ⟨_, _, _, ended, _⟩ := @one_outcome_each "worker" (some ⟨0, 10⟩) 4 withdrawnRun _ rfl
    (by decide)
  have leaving := ((ended 0 _ (some 3) rfl rfl 0 (by decide +kernel) (by decide +kernel)).mp rfl).2
  refine ⟨leaving, ?_⟩
  obtain ⟨_, _, _, _, _, exactly, _⟩ := leaving
  exact fun able => nomatch exactly.mp able

/-- The table of the first process is closed, and its first request has neither been replied to nor
returned: the send waits for the one that writes to the full pipe of the second process. -/
theorem withdrawnRun_neither :
    ∃ c, (start "worker" (some ⟨0, 10⟩) 4).run withdrawnRun = some c ∧ c.DistinctIds ∧
      c.WaitsOn 0 2 ∧ c.Clogged 2 1 ∧
      ¬ ∀ place p code, c.processes[place]? = some p → p.table.closed = some code →
        ∀ i ∈ ((start "worker" (some ⟨0, 10⟩) 4).journal withdrawnRun).sends .admitted place,
          i ∈ ((start "worker" (some ⟨0, 10⟩) 4).repliesOf withdrawnRun).map Reply.caller ∨
            ∃ o, c.outcome? i = some o := by
  refine ⟨_, rfl, by decide, .inr ⟨_, rfl, rfl, rfl⟩,
    ⟨⟨_, _, rfl, rfl⟩, _, rfl, rfl, by decide, rfl⟩, fun settled => ?_⟩
  rcases settled 0 _ (some 3) rfl rfl 0 (by decide +kernel) with replied | ⟨o, returned⟩
  · revert replied
    decide +kernel
  · cases returned

end Channel

end ImageSearch.Worker
