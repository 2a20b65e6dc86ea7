import ImageSearch.Proofs.Channel.Chronicle

set_option autoImplicit false

namespace ImageSearch.Worker

open Recognition

/-- A send was given a line of a process that reads as an answer. -/
def Journal.Got (j : Journal) (i place : Nat) (r : Response) : Prop :=
  ∃ x ∈ j.reads place, x.receiver = some i ∧ LineKind.ofLine x.line = .answer r

theorem Journal.Got.more {j facts : Journal} {i place : Nat} {r : Response}
    (got : j.Got i place r) : (j ++ facts).Got i place r := by
  obtain ⟨x, member, given, reading⟩ := got
  refine ⟨x, ?_, given, reading⟩
  rw [Journal.reads_append]
  exact List.mem_append_left _ member

theorem Send.mem_hear {s : Send} {outcomes : List Outcome} {o : Outcome}
    (member : o ∈ (s.hear outcomes).inbox) : o ∈ s.inbox ∨ o ∈ outcomes := by
  unfold Send.hear at member
  split at member
  · exact List.mem_append.mp member
  · exact .inl member

namespace Channel

variable {c d : Channel} {e : Event} {j facts : Journal} {i : Nat}

/-- A send was directed to a process whose exit is published. -/
def SawExit (c : Channel) (j : Journal) (i : Nat) : Prop :=
  ∃ place p, Fact.did .directed i place ∈ j ∧ c.processes[place]? = some p ∧ p.published.isSome

/-- An outcome that was given to a send: a line of a process that has had the send in its table, or
the exit of the process. -/
inductive Heard (c : Channel) (j : Journal) (i : Nat) : Outcome → Prop
  | answer {place : Nat} {response : Response} (admitted : Fact.did .admitted i place ∈ j)
      (got : j.Got i place response) : Heard c j i (.ok response)
  | fault (fault : ProtocolFault) : Heard c j i (.error (.protocol fault))
  | exit (code : Option Int) (saw : c.SawExit j i) : Heard c j i (.error (.workerExited code))

/-- The losses that come to a send before the exit of the process is published. -/
def EarlyLoss (p : Process) (failure : Recognition.Failure) : Prop :=
  (∃ limit, failure = .timeout limit) ∨
    (failure = .workerExited none ∧ p.acceptsInput = false) ∨
      ∃ reason, failure = .channelClosed reason

/-- How a send ends: its request is refused, or no process is started for it, or it hears an
outcome after its line is written, or its process is lost. -/
inductive Ends (c : Channel) (j : Journal) (i : Nat) : Outcome → Prop
  | refused (fault : ProtocolFault) (nowhere : ∀ deed place, Fact.did deed i place ∉ j) :
      Ends c j i (.error (.protocol fault))
  | unstarted (program : String) (fault : IoFault)
      (nowhere : ∀ deed place, Fact.did deed i place ∉ j) :
      Ends c j i (.error (.startup program fault))
  | told {place : Nat} {outcome : Outcome} (wrote : Fact.did .wrote i place ∈ j)
      (heard : c.Heard j i outcome) : Ends c j i outcome
  | lost {place : Nat} {p : Process} {failure : Recognition.Failure}
      (directed : Fact.did .directed i place ∈ j) (process : c.processes[place]? = some p)
      (cause : p.published.isSome ∨ EarlyLoss p failure) (lost : failure.isWorkerLost) :
      Ends c j i (.error failure)

theorem SawExit.step (saw : c.SawExit j i) (move : c.Move e facts d) :
    d.SawExit (j ++ facts) i := by
  obtain ⟨place, p, directed, found, exited⟩ := saw
  obtain ⟨q, later, keeps⟩ := move.keeps place p found
  refine ⟨place, q, List.mem_append_left _ directed, later, ?_⟩
  rwa [keeps.published exited]

theorem Heard.step {outcome : Outcome} (heard : c.Heard j i outcome)
    (move : c.Move e facts d) : d.Heard (j ++ facts) i outcome := by
  cases heard with
  | answer admitted got => exact .answer (List.mem_append_left _ admitted) got.more
  | fault fault => exact .fault fault
  | exit code saw => exact .exit code (saw.step move)

theorem EarlyLoss.keeps {p q : Process} {failure : Recognition.Failure}
    (early : EarlyLoss p failure) (keeps : p.Keeps q) : EarlyLoss q failure := by
  rcases early with late | ⟨exited, broken⟩ | closed
  · exact .inl late
  · refine .inr (.inl ⟨exited, ?_⟩)
    cases accepts : q.acceptsInput with
    | false => rfl
    | true => rw [← broken, keeps.acceptsInput accepts]
  · exact .inr (.inr closed)

theorem Ends.step {outcome : Outcome} (ends : c.Ends j i outcome) (move : c.Move e facts d)
    (quiet : ∀ deed place, Fact.did deed i place ∉ facts) : d.Ends (j ++ facts) i outcome := by
  have absent (nowhere : ∀ deed place, Fact.did deed i place ∉ j) (deed : Deed) (place : Nat) :
      Fact.did deed i place ∉ j ++ facts := by
    rw [List.mem_append, not_or]
    exact ⟨nowhere deed place, quiet deed place⟩
  cases ends with
  | refused fault nowhere => exact .refused fault (absent nowhere)
  | unstarted program fault nowhere => exact .unstarted program fault (absent nowhere)
  | told wrote heard => exact .told (List.mem_append_left _ wrote) (heard.step move)
  | lost directed process cause lost =>
      obtain ⟨q, later, keeps⟩ := move.keeps _ _ process
      refine .lost (List.mem_append_left _ directed) later ?_ lost
      rcases cause with exited | early
      · exact .inl (by rwa [keeps.published exited])
      · exact .inr (early.keeps keeps)

/-- The table of a process is closed after its exit, and what sends hear and how they end is
explained by the journal. -/
structure Explained (c : Channel) (j : Journal) : Prop where
  closed : ∀ (place : Nat) (p : Process), c.processes[place]? = some p →
    p.table.closed.isSome → p.published.isSome
  heard : ∀ (i : Nat) (s : Send) (o : Outcome), c.sends[i]? = some s → o ∈ s.inbox → c.Heard j i o
  ends : ∀ (i : Nat) (s : Send) (o : Outcome), c.sends[i]? = some s → s.phase = .done o →
    c.Ends j i o

theorem Brings.heard {outcome : Outcome} (brings : c.Brings facts d i outcome)
    (chronicled : c.Chronicled j) (move : c.Move e facts d) :
    d.Heard (j ++ facts) i outcome := by
  cases brings with
  | line process line member caller gave reply =>
      rename_i place p x bytes
      subst caller
      have admitted := chronicled.entries _ _ _ process member
      rcases takeLine_outcome reply with ⟨response, reading, same⟩ | ⟨fault, _, same⟩
      · cases same
        refine .answer (List.mem_append_left _ admitted) ⟨⟨bytes, some x.caller⟩, ?_, rfl, reading⟩
        simp [gave]
      · cases same
        exact .fault fault
  | exit process exited member caller failure =>
      subst failure caller
      have admitted := chronicled.entries _ _ _ process member
      have saw : c.SawExit j _ :=
        ⟨_, _, chronicled.directed _ _ _ admitted, process, by rw [exited]; rfl⟩
      exact .exit _ (saw.step move)

/-- A send that takes its last turn ends as it should. -/
theorem Explained.turn {s : Send} {b : Channel} {o : Outcome} (explained : c.Explained j)
    (chronicled : c.Chronicled j) (found : c.sends[i]? = some s)
    (turn : c.Turn i s facts b (.done o)) (move : c.Move e facts d) : d.Ends (j ++ facts) i o := by
  have nowhere (queued : s.phase = .queued) (deed : Deed) (place : Nat) :
      Fact.did deed i place ∉ j := by
    apply chronicled.ahead i s deed place found
    rw [queued]
    cases deed
    all_goals simp [SendPhase.ahead]
  have seated {place : Nat} (here : s.phase.place? = some place) :
      Fact.did .directed i place ∈ j :=
    chronicled.deeds i s _ place found (SendPhase.directed_mem here) here
  have lose {place : Nat} {p : Process} {failure : Recognition.Failure}
      (directed : Fact.did .directed i place ∈ j ++ facts)
      (process : c.processes[place]? = some p)
      (cause : p.published.isSome ∨ EarlyLoss p failure) (lost : failure.isWorkerLost) :
      d.Ends (j ++ facts) i (.error failure) := by
    obtain ⟨q, later, keeps⟩ := move.keeps place p process
    refine .lost directed later ?_ lost
    rcases cause with exited | early
    · exact .inl (by rwa [keeps.published exited])
    · exact .inr (early.keeps keeps)
  have before {place : Nat} (here : s.phase.place? = some place) :
      Fact.did .directed i place ∈ j ++ facts := List.mem_append_left _ (seated here)
  cases turn with
  | useClosed queued _ _ process =>
      exact lose (by simp) process (.inr (.inr (.inr ⟨_, rfl⟩))) rfl
  | startFails queued =>
      refine .unstarted _ _ ?_
      intro deed place
      rw [List.append_nil]
      exact nowhere queued deed place
  | refuse entered process closed =>
      have here := congrArg SendPhase.place? entered
      exact lose (before here) process
        (.inl (explained.closed _ _ process (by rw [closed]; rfl))) rfl
  | writeFails writing process broken =>
      have here := congrArg SendPhase.place? writing
      exact lose (before here) process (.inr (.inr (.inl ⟨rfl, broken⟩))) rfl
  | receive awaiting heard =>
      have wrote := chronicled.deeds i s .wrote _ found (by simp [awaiting, SendPhase.deeds])
        (congrArg SendPhase.place? awaiting)
      exact .told (List.mem_append_left _ wrote)
        ((explained.heard i s o found (by simp [heard])).step move)
  | abandon awaiting process =>
      have here := congrArg SendPhase.place? awaiting
      exact lose (before here) process (.inr (.inr (.inr ⟨_, rfl⟩))) rfl
  | kill killing =>
      have here := congrArg SendPhase.place? killing
      have known := (chronicled.known _ _ _ (seated here)).2
      exact lose (before here) (List.getElem?_eq_getElem known) (.inr (.inl ⟨_, rfl⟩)) rfl

theorem Explained.step_closed (explained : c.Explained j) (move : c.Move e facts d) {place : Nat}
    {q : Process} (at_ : d.processes[place]? = some q) (closed : q.table.closed.isSome) :
    q.published.isSome := by
  have keep {p : Process} (found : c.processes[place]? = some p)
      (same : q.table.closed = p.table.closed) : q.published.isSome := by
    obtain ⟨r, later, keeps⟩ := move.keeps place p found
    rw [at_] at later
    cases later
    have exited := explained.closed place p found (same ▸ closed)
    rwa [keeps.published exited]
  cases move.upkeep at_ with
  | starts _ same =>
      subst same
      cases closed
  | stays found stays => exact keep found (by rw [stays.table])
  | admits found _ _ _ _ same | hears found _ _ _ _ same => exact keep found (by rw [same])
  | removes found _ _ _ same => exact keep found (by rw [same]; rfl)
  | takes found _ _ same => exact keep found (by rw [same]; exact (takeLine_entries rfl).1)
  | closes _ exited _ same =>
      rw [same]
      exact exited ▸ rfl

theorem Explained.step_heard (explained : c.Explained j) (chronicled : c.Chronicled j)
    (move : c.Move e facts d) {t : Send} {o : Outcome} (found : d.sends[i]? = some t)
    (member : o ∈ t.inbox) : d.Heard (j ++ facts) i o := by
  cases move.course found with
  | arrives _ _ silent =>
      rw [silent] at member
      cases member
  | rests old same brings =>
      subst same
      rcases Send.mem_hear member with before | now
      · exact (explained.heard i _ o old before).step move
      · exact (brings o now).heard chronicled move
  | turns old _ same =>
      rw [same] at member
      exact (explained.heard i _ o old member).step move

theorem Explained.step_ends (explained : c.Explained j) (chronicled : c.Chronicled j)
    (move : c.Move e facts d) {t : Send} {o : Outcome} (found : d.sends[i]? = some t)
    (ended : t.phase = .done o) : d.Ends (j ++ facts) i o := by
  cases move.course found with
  | arrives new quiet _ phase =>
      subst quiet
      rcases phase with phase | ⟨fault, phase⟩
      · rw [phase] at ended
        cases ended
      · rw [phase] at ended
        cases ended
        refine .refused fault ?_
        intro deed place member
        rw [List.append_nil] at member
        have inside := (chronicled.known deed i place member).1
        omega
  | rests old same _ quiet =>
      rw [same, Send.hear_phase] at ended
      exact (explained.ends i _ o old ended).step move quiet
  | turns old turn =>
      rw [ended] at turn
      exact explained.turn chronicled old turn move

theorem Explained.step (explained : c.Explained j) (chronicled : c.Chronicled j)
    (move : c.Move e facts d) : d.Explained (j ++ facts) where
  closed := fun _ _ at_ closed => explained.step_closed move at_ closed
  heard := fun _ _ _ found member => explained.step_heard chronicled move found member
  ends := fun _ _ _ found ended => explained.step_ends chronicled move found ended

/-- What every run of a channel keeps. -/
structure Sound (c : Channel) (j : Journal) : Prop where
  numbered : c.Numbered
  chronicled : c.Chronicled j
  explained : c.Explained j

theorem start_sound (program : String) (timeout : Option Duration) (capacity : Nat) :
    (start program timeout capacity).Sound [] := by
  refine ⟨⟨rfl, ?_, ?_, ?_⟩, ⟨?_, ?_, ?_, ?_, ?_, ?_, ?_, ?_⟩, ⟨?_, ?_, ?_⟩⟩
  all_goals simp [start]

theorem Sound.step (sound : c.Sound j) (move : c.Move e facts d) : d.Sound (j ++ facts) :=
  ⟨sound.numbered.step move, sound.chronicled.step move,
    sound.explained.step sound.chronicled move⟩

theorem run_sound {events : List Event} (sound : c.Sound j) (run : c.run events = some d) :
    d.Sound (j ++ c.journal events) :=
  run_invariant (fun _ _ _ _ sound stepped => sound.step (step_move stepped)) run sound

def outcome? (c : Channel) (k : Nat) : Option Outcome :=
  match c.sends[k]?.map Send.phase with
  | some (.done o) => some o
  | _ => none

theorem outcome?_eq_some {k : Nat} {o : Outcome} :
    c.outcome? k = some o ↔ ∃ s, c.sends[k]? = some s ∧ s.phase = .done o := by
  unfold outcome?
  constructor
  · intro returned
    split at returned
    · rename_i ended
      cases returned
      exact Option.map_eq_some_iff.mp ended
    · cases returned
  · rintro ⟨s, found, ended⟩
    rw [found, Option.map_some, ended]

def result? (c : Channel) (k : Nat) : Option Response := (c.outcome? k).bind Except.toOption

theorem result?_eq_some {k : Nat} {r : Response} :
    c.result? k = some r ↔ ∃ s, c.sends[k]? = some s ∧ s.phase = .done (.ok r) := by
  rw [← outcome?_eq_some, result?, Option.bind_eq_some_iff]
  constructor
  · rintro ⟨o, returned, answer⟩
    cases o with
    | error => cases answer
    | ok =>
        cases answer
        exact returned
  · intro returned
    exact ⟨_, returned, rfl⟩

/-- A send that returned an answer had written its line to the process that the answer is from. -/
theorem Sound.answered {r : Response} (sound : c.Sound j) (returned : c.result? i = some r) :
    ∃ place, Fact.did .wrote i place ∈ j ∧ j.Got i place r := by
  obtain ⟨s, found, ended⟩ := result?_eq_some.mp returned
  cases sound.explained.ends i s _ found ended with
  | told wrote heard =>
      cases heard with
      | answer admitted got => exact ⟨_, sound.chronicled.alone admitted wrote ▸ wrote, got⟩

/-- The promise after the loss of a process: a send fails to start a process, or is directed to one
of a newer generation, and is never in the table or the input of the lost one. -/
def Recovers (c : Channel) (j : Journal) (k place generation : Nat) : Prop :=
  ((∃ s program fault, c.sends[k]? = some s ∧
      s.phase = .done (.error (.startup program fault))) ∨
    ∃ newer p, Fact.did .directed k newer ∈ j ∧ c.processes[newer]? = some p ∧
      generation < p.generation) ∧
  Fact.did .admitted k place ∉ j ∧ Fact.did .wrote k place ∉ j

theorem mem_journal_append {events more : List Event} {fact : Fact}
    (run : c.run events = some d) (member : fact ∈ d.journal more) :
    fact ∈ c.journal (events ++ more) := by
  rw [journal_append run]
  exact List.mem_append_right _ member

theorem Ends.startup_nowhere {program : String} {fault : IoFault}
    (ends : c.Ends j i (.error (.startup program fault))) (deed : Deed) (place : Nat) :
    Fact.did deed i place ∉ j := by
  cases ends with
  | unstarted _ _ nowhere => exact nowhere deed place
  | told _ heard => cases heard
  | lost _ _ _ lost => cases lost

theorem enter_live {place : Nat} {p : Process} (live : c.live? = some (place, p)) (k : Nat)
    (fault : Option IoFault) : Fact.did .directed k place ∈ c.facts (.enter k fault) := by
  simp only [facts, live, List.mem_singleton]

/-- A send that takes the lock while no process is live starts one, or fails to. -/
theorem enter_vacant {k : Nat} {fault : Option IoFault} (vacant : c.live? = none)
    (stepped : c.step (.enter k fault) = some d) :
    (∃ s program fault, d.sends[k]? = some s ∧
        s.phase = .done (.error (.startup program fault))) ∨
      Fact.did .directed k c.processes.length ∈ c.facts (.enter k fault) := by
  obtain ⟨s, found, rest⟩ := Option.bind_eq_some_iff.mp stepped
  split at rest
  case h_2 => cases rest
  split at rest
  case isFalse => cases rest
  rw [vacant] at rest
  cases fault with
  | some fault =>
      cases rest
      refine .inl ⟨{ s with phase := .done (.error (.startup c.program fault)) }, c.program, fault,
        ?_, rfl⟩
      exact (lookup_setPhase c k k _).trans (by rw [found, Option.map_some, if_pos rfl])
  | none =>
      cases rest
      exact .inr (by simp [facts, vacant])

theorem run_keeps {events : List Event} {place : Nat} {p : Process}
    (run : c.run events = some d) (found : c.processes[place]? = some p) :
    ∃ q, d.processes[place]? = some q ∧ p.Keeps q := by
  refine run_invariant (motive := fun d _ => ∃ q, d.processes[place]? = some q ∧ p.Keeps q)
    (j := []) ?_ run ⟨p, found, .refl p⟩
  intro c j e d kept stepped
  obtain ⟨q, at_, keeps⟩ := kept
  obtain ⟨r, later, more⟩ := (step_move stepped).keeps place q at_
  exact ⟨r, later, keeps.trans more⟩

theorem run_keepsSend {events : List Event} {s : Send} (run : c.run events = some d)
    (found : c.sends[i]? = some s) :
    ∃ t, d.sends[i]? = some t ∧ t.id = s.id ∧ t.command = s.command ∧ t.line = s.line := by
  refine run_invariant (motive := fun d _ =>
    ∃ t, d.sends[i]? = some t ∧ t.id = s.id ∧ t.command = s.command ∧ t.line = s.line)
    (j := []) ?_ run ⟨s, found, rfl, rfl, rfl⟩
  rintro c _ e d ⟨t, found, id, command, line⟩ stepped
  obtain ⟨u, later, id', command', line'⟩ := (step_move stepped).keepsSend found
  exact ⟨u, later, id'.trans id, command'.trans command, line'.trans line⟩

/-- What a send keeps in each of its turns it keeps through a run. -/
theorem run_phase (kept : SendPhase → Prop) {k : Nat}
    (turns : ∀ (c b : Channel) (s : Send) (facts : Journal) (phase : SendPhase),
      c.Turn k s facts b phase → kept s.phase → kept phase)
    {events : List Event} {s : Send} (run : c.run events = some d) (found : c.sends[k]? = some s)
    (holds : kept s.phase) : ∃ t, d.sends[k]? = some t ∧ kept t.phase := by
  refine run_invariant (motive := fun d _ => ∃ t, d.sends[k]? = some t ∧ kept t.phase)
    (j := []) ?_ run ⟨s, found, holds⟩
  rintro c _ e d ⟨s, found, holds⟩ stepped
  have move := step_move stepped
  obtain ⟨t, later, _⟩ := move.keepsSend found
  refine ⟨t, later, ?_⟩
  cases move.course later with
  | arrives new =>
      have inside := (List.getElem?_eq_some_iff.mp found).1
      omega
  | rests old same =>
      cases found.symm.trans old
      rw [same, Send.hear_phase]
      exact holds
  | turns old turn =>
      cases found.symm.trans old
      exact turns c _ s _ _ turn holds

theorem run_done {events : List Event} {k : Nat} {s : Send} {o : Outcome}
    (run : c.run events = some d) (found : c.sends[k]? = some s) (ended : s.phase = .done o) :
    ∃ t, d.sends[k]? = some t ∧ t.phase = .done o :=
  run_phase (· = .done o) (fun _ _ _ _ _ turn ended => absurd ended (turn.undone o)) run found ended

/-- A loss names the process that was lost. -/
theorem Ends.lost_process {failure : Recognition.Failure} (ends : c.Ends j i (.error failure))
    (lost : failure.isWorkerLost) :
    ∃ place p, Fact.did .directed i place ∈ j ∧ c.processes[place]? = some p ∧
      (p.published.isSome ∨ EarlyLoss p failure) := by
  cases ends with
  | refused | unstarted => cases lost
  | told _ heard =>
      cases heard with
      | fault => cases lost
      | exit _ saw =>
          obtain ⟨place, p, directed, process, exited⟩ := saw
          exact ⟨place, p, directed, process, .inl exited⟩
  | lost directed process cause => exact ⟨_, _, directed, process, cause⟩

/-- A process that has exited is not the live one, which is newer. -/
theorem Numbered.newer {place : Nat} {p : Process} (numbered : c.Numbered)
    (process : c.processes[place]? = some p) (exited : p.published.isSome) {newer : Nat}
    {q : Process} (current : c.live? = some (newer, q)) : place < newer := by
  obtain ⟨slot, process', live⟩ := live?_eq_some.mp current
  have last := numbered.newest newer slot
  have inside := (List.getElem?_eq_some_iff.mp process).1
  by_cases same : place = newer
  · subst same
    rw [process] at process'
    cases process'
    rw [live] at exited
    cases exited
  · omega

theorem Sound.recovers {k place newer : Nat} (sound : c.Sound j) (greater : place < newer)
    (here : Fact.did .directed k newer ∈ j) : c.Recovers j k place (place + 1) := by
  have known := (sound.chronicled.known _ _ _ here).2
  have elsewhere (deed : Deed) : Fact.did deed k place ∉ j := by
    intro there
    have same := sound.chronicled.alone there here
    omega
  refine ⟨.inr ⟨newer, _, here, List.getElem?_eq_getElem known, ?_⟩, elsewhere _, elsewhere _⟩
  rw [sound.numbered.generation newer _ (List.getElem?_eq_getElem known)]
  omega

theorem Sound.not_recovers {k place : Nat} {p : Process} (sound : c.Sound j)
    (process : c.processes[place]? = some p) (here : Fact.did .directed k place ∈ j) :
    ¬ c.Recovers j k place p.generation := by
  rintro ⟨⟨t, _, _, ended, startup⟩ | ⟨newer, q, there, process', greater⟩, _⟩
  · exact (sound.explained.ends k t _ ended startup).startup_nowhere _ _ here
  · have same := sound.chronicled.once k newer place there here
    subst same
    rw [process] at process'
    cases process'
    omega

/-- After a loss the next send recovers exactly when the exit of the lost process is published by
the time it takes the lock; the losses that come earlier are timeouts, broken writes and closed
inputs. -/
theorem recovers_iff_published {program : String} {timeout : Option Duration} {capacity : Nat}
    {before after : List Event} {c e : Channel} {i k : Nat} {fault : Option IoFault} {s : Send}
    {failure : Recognition.Failure} (run : (start program timeout capacity).run before = some c)
    (found : c.sends[i]? = some s) (failed : s.phase = .done (.error failure))
    (lost : failure.isWorkerLost) (later : c.run (.enter k fault :: after) = some e) :
    ∃ place p, Fact.did .directed i place ∈ (start program timeout capacity).journal before ∧
      c.processes[place]? = some p ∧
      (e.Recovers ((start program timeout capacity).journal (before ++ .enter k fault :: after)) k
        place p.generation ↔ p.published.isSome) ∧
      (p.published.isSome ∨ EarlyLoss p failure) := by
  have sound := run_sound (start_sound program timeout capacity) run
  have whole := run_sound (start_sound program timeout capacity)
    ((run_append run (.enter k fault :: after)).trans later)
  rw [List.nil_append] at sound whole
  obtain ⟨place, p, directed, process, cause⟩ :=
    (sound.explained.ends i s _ found failed).lost_process lost
  refine ⟨place, p, directed, process, ?_, cause⟩
  obtain ⟨d, stepped, rest⟩ := Option.bind_eq_some_iff.mp later
  -- What the send does as it takes the lock stays in the journal.
  have entered {fact : Fact} (member : fact ∈ c.facts (.enter k fault)) :
      fact ∈ (start program timeout capacity).journal (before ++ .enter k fault :: after) := by
    refine mem_journal_append run ?_
    rw [journal, List.mem_append]
    exact .inl member
  have number := sound.numbered.generation place p process
  constructor
  · intro recovered
    cases live : p.published with
    | some code => rfl
    | none =>
        have slot := sound.numbered.live place p process live
        have here := entered (enter_live (live?_eq_some.mpr ⟨slot, process, live⟩) k fault)
        obtain ⟨q, at_, keeps⟩ := run_keeps later process
        rw [← keeps.generation] at recovered
        exact absurd recovered (whole.not_recovers at_ here)
  · intro exited
    rw [number]
    cases current : c.live? with
    | none =>
        rcases enter_vacant current stepped with ⟨t, program', fault', found', startup⟩ | here
        · obtain ⟨u, ended, same⟩ := run_done rest found' startup
          have nowhere := (whole.explained.ends k u _ ended same).startup_nowhere
          exact ⟨.inl ⟨u, program', fault', ended, same⟩, nowhere _ _, nowhere _ _⟩
        · exact whole.recovers (List.getElem?_eq_some_iff.mp process).1 (entered here)
    | some pair =>
        obtain ⟨newer, q⟩ := pair
        exact whole.recovers (sound.numbered.newer process exited current)
          (entered (enter_live current k fault))

/-- The worker stops reading before the first request is written, and a second request waits. -/
def brokenWrite : List Event :=
  [.send 1 ⟨"first", []⟩, .enter 0 none, .insert 0, .workerEndsInput 0, .writeFails 0,
    .send 2 ⟨"second", []⟩]

theorem brokenWrite_not_recovered :
    ∃ c e s p, (start "worker" none pipeCapacity).run brokenWrite = some c ∧
      c.sends[0]? = some s ∧ s.phase = .done (.error (.workerExited none)) ∧
      c.run [.enter 1 none, .insert 1, .writeFails 1] = some e ∧
      c.processes[0]? = some p ∧
      Fact.did .directed 0 0 ∈ (start "worker" none pipeCapacity).journal brokenWrite ∧
      ¬ e.Recovers ((start "worker" none pipeCapacity).journal
        (brokenWrite ++ [.enter 1 none, .insert 1, .writeFails 1])) 1 0 p.generation := by
  refine ⟨_, _, _, _, rfl, rfl, rfl, rfl, rfl, by decide, ?_⟩
  obtain ⟨place, p, directed, process, exactly, _⟩ :=
    @recovers_iff_published "worker" none pipeCapacity brokenWrite [.insert 1, .writeFails 1] _ _
      0 1 none _ _ rfl rfl rfl rfl rfl
  have here : place = 0 := by
    have inside := (List.getElem?_eq_some_iff.mp process).1
    exact Nat.lt_one_iff.mp inside
  subst here
  cases process
  rw [exactly]
  exact Bool.false_ne_true

end Channel

end ImageSearch.Worker
