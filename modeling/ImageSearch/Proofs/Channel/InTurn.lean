import ImageSearch.Proofs.Channel.Attribution
import ImageSearch.Proofs.Channel.Conclusion

set_option autoImplicit false

namespace ImageSearch.Worker

open Recognition

def answer? (line : List Nat) : Option Response :=
  match LineKind.ofLine line with
  | .answer r => some r
  | _ => none

theorem answer?_eq_some {line : List Nat} {r : Response} :
    answer? line = some r ↔ LineKind.ofLine line = .answer r := by
  unfold answer?
  cases LineKind.ofLine line with
  | answer r => simp
  | nothing | noise => simp

theorem isSome_answer? (line : List Nat) : (answer? line).isSome = isAnswer line := by
  unfold answer? isAnswer
  cases LineKind.ofLine line with
  | nothing | answer | noise => rfl

def Process.answers (p : Process) : List Response := p.output.filterMap answer?

theorem length_filterMap_answer? (lines : List (List Nat)) :
    (lines.filterMap answer?).length = lines.countP isAnswer := by
  rw [List.length_filterMap_eq_countP]
  exact List.countP_congr fun line _ => by rw [isSome_answer?]

namespace Channel

variable {c d b : Channel} {e : Event} {j facts : Journal} {r : List Reply} {i place : Nat}
  {s : Send} {p : Process} {o : Outcome}

/-- What is promised of a process: it answers every request that it reads with one line without an
identifier, in order, it writes nothing else but blank lines, and the end of its output is not
waited for too long. -/
def AnswersInTurn (place : Nat) (c : Channel) (e : Event) : Prop :=
  c.EndsInTime place ∧ ∀ p ∈ c.processes[place]?, ∀ line ∈ e.output place, p.MayWrite false line

instance (place : Nat) (c : Channel) (e : Event) : Decidable (c.AnswersInTurn place e) :=
  inferInstanceAs (Decidable (c.EndsInTime place ∧
    ∀ p ∈ c.processes[place]?, ∀ line ∈ e.output place, p.MayWrite false line))

/-- What a process tells a send: an answer, or the code with which it exited. -/
inductive Told (c : Channel) (place : Nat) : Outcome → Prop
  | answer (r : Response) : Told c place (.ok r)
  | exit {p : Process} {code : Option Int} (process : c.processes[place]? = some p)
      (exited : p.published = some code) : Told c place (.error (.workerExited code))

/-- What every run without a timeout keeps for a process that answers in turn. -/
structure InTurn (place : Nat) (c : Channel) (j : Journal) (r : List Reply) : Prop where
  untimed : c.timeout = none
  orderly : c.Orderly j r
  locked : c.Locked
  written : c.Written j
  unread : c.processes.length ≤ place → j.reads place = []
  aligned : ∀ p, c.processes[place]? = some p → Aligned false j place p
  readOut : c.ReadOut place
  awaited : strays (j.reads place) = 0
  told : ∀ (i : Nat) (s : Send) (o : Outcome), c.sends[i]? = some s →
    Fact.did .admitted i place ∈ j → o ∈ s.inbox → c.Told place o
  ended : ∀ (i : Nat) (s : Send) (o : Outcome), c.sends[i]? = some s →
    Fact.did .admitted i place ∈ j → s.phase = .done o →
    c.Told place o ∨ o = .error (.workerExited none) ∧ Fact.did .wrote i place ∉ j

theorem start_inTurn (place : Nat) (program : String) (capacity : Nat) :
    (start program none capacity).InTurn place [] [] := by
  refine ⟨rfl, start_orderly program none capacity, ?_, ⟨?_, ?_, ?_, ?_⟩, fun _ => rfl, ?_,
    ⟨?_, ?_⟩, rfl, ?_, ?_⟩
  all_goals simp [start, Locked]

/-- Every request that was written is in the table until it is given a line. -/
theorem InTurn.first (inTurn : c.InTurn place j r) : j.sends .wrote place <+: j.kept place := by
  have unremoved : (j.sends .wrote place).filter (· ∉ j.sends .removed place) =
      j.sends .wrote place := by
    rw [List.filter_eq_self]
    intro k wrote
    rw [decide_eq_true_eq, Journal.mem_sends]
    exact inTurn.orderly.fated.unremoved inTurn.orderly.sound.chronicled inTurn.orderly.timed
      inTurn.untimed (Journal.mem_sends.mp wrote)
  rw [← unremoved]
  exact (inTurn.written.first place).filter _

theorem InTurn.length_receivers (inTurn : c.InTurn place j r)
    (process : c.processes[place]? = some p) :
    (receivers (j.reads place)).length = answers (j.reads place) := by
  have aligned := inTurn.aligned p process
  have even := balance aligned.told
  rw [inTurn.awaited, aligned.no_rejections (List.Subset.refl _)] at even
  exact even

/-- An answer that is read finds a request that waits. -/
theorem InTurn.awaiting (inTurn : c.InTurn place j r) (process : c.processes[place]? = some p)
    {bytes : List Nat} (line : p.output[p.consumed]? = some bytes)
    (unended : p.outputEnded = false) (answer : isAnswer bytes) : p.table.entries ≠ [] := by
  intro empty
  have aligned := inTurn.aligned p process
  have unclosed : p.table.closed = none := by
    cases closed : p.table.closed with
    | none => rfl
    | some code =>
        have exited := inTurn.orderly.sound.explained.closed place p process (by rw [closed]; rfl)
        rw [inTurn.readOut.ended p process exited] at unended
        cases unended
  have queue := aligned.queue unclosed
  rw [empty, List.map_nil, List.append_nil] at queue
  have given := inTurn.length_receivers process
  have read : (j.reads place).map Delivery.line ++ [bytes] <+: p.output := by
    refine prefix_next aligned.lines ?_
    rw [List.length_map, ← aligned.consumed]
    exact line
  have most := read.sublist.countP_le (p := isAnswer)
  rw [List.countP_append, List.countP_map, List.countP_singleton, if_pos answer] at most
  have answered := aligned.answered
  have fewer := inTurn.first.length_le
  rw [queue] at fewer
  rw [answers] at given
  simp only [Function.comp_def] at most
  omega

theorem InTurn.awaited_step (inTurn : c.InTurn place j r) (move : c.Move e facts d) :
    strays ((j ++ facts).reads place) = 0 := by
  have now : strays (facts.reads place) = 0 := by
    rw [strays, List.countP_eq_zero]
    intro x member stray
    obtain ⟨p, bytes, process, line, unended, rfl⟩ := move.reads member
    obtain ⟨answer, nobody⟩ := Bool.and_eq_true_iff.mp stray
    have idless := (inTurn.aligned p process).idless bytes (List.mem_of_getElem? line)
    rcases takeLine_oldest idless with ⟨_, idle⟩ | ⟨_, _, _, _, _, given⟩
    · exact inTurn.awaiting process line unended answer (idle answer)
    · rw [given] at nobody
      cases nobody
  rw [Journal.reads_append, strays, List.countP_append]
  exact Nat.add_eq_zero_iff.mpr ⟨inTurn.awaited, now⟩

theorem Told.step (told : c.Told place o) (move : c.Move e facts d) : d.Told place o := by
  cases told with
  | answer r => exact .answer r
  | exit process exited =>
      obtain ⟨q, later, keeps⟩ := move.keeps place _ process
      exact .exit later (by rw [keeps.published (by rw [exited]; rfl), exited])

/-- What is brought to a request of the process is told by the process. -/
theorem InTurn.brings (inTurn : c.InTurn place j r)
    (admitted : Fact.did .admitted i place ∈ j) (brings : c.Brings facts d i o) :
    d.Told place o := by
  have chronicled := inTurn.orderly.sound.chronicled
  cases brings with
  | line process line member caller gave reply =>
      have here := chronicled.alone (caller ▸ chronicled.entries _ _ _ process member) admitted
      subst here
      rcases takeLine_outcome reply with ⟨response, _, same⟩ | ⟨fault, noise, _⟩
      · cases same
        exact .answer response
      · have clear := (inTurn.aligned _ process).quiet _ (List.mem_of_getElem? line)
          (isNoise_iff.mpr ⟨fault, noise⟩)
        cases clear
  | exit process exited member caller failure after =>
      have here := chronicled.alone (caller ▸ chronicled.entries _ _ _ process member) admitted
      subst here failure
      exact .exit after exited

theorem InTurn.told_step (inTurn : c.InTurn place j r) (move : c.Move e facts d) {t : Send}
    (found : d.sends[i]? = some t) (admitted : Fact.did .admitted i place ∈ j ++ facts)
    (member : o ∈ t.inbox) : d.Told place o := by
  cases move.course found with
  | arrives _ _ silent =>
      rw [silent] at member
      cases member
  | rests before same brings quiet =>
      replace admitted := (List.mem_append.mp admitted).resolve_right (quiet _ _)
      rw [same] at member
      rcases Send.mem_hear member with old | now
      · exact (inTurn.told i _ o before admitted old).step move
      · exact inTurn.brings admitted (brings o now)
  | @turns s b before turn same =>
      rw [same] at member
      rcases List.mem_append.mp admitted with old | now
      · exact (inTurn.told i _ o before old member).step move
      · -- A send that is just admitted has heard nothing.
        obtain ⟨_, ahead, _, here⟩ := turn.facts_did now
        have early : s.phase = .queued ∨ ∃ place, s.phase = .entered place := by
          cases phase : s.phase with
          | queued => exact .inl rfl
          | entered place => exact .inr ⟨place, rfl⟩
          | writing | awaiting | expired | killing | done =>
              rw [phase] at ahead
              simp [SendPhase.ahead] at ahead
        rw [show s.inbox = [] from inTurn.orderly.seated.unheard i s before early] at member
        cases member

theorem InTurn.ended_step (inTurn : c.InTurn place j r) (move : c.Move e facts d) {t : Send}
    (found : d.sends[i]? = some t) (admitted : Fact.did .admitted i place ∈ j ++ facts)
    (done : t.phase = .done o) :
    d.Told place o ∨ o = .error (.workerExited none) ∧ Fact.did .wrote i place ∉ j ++ facts := by
  have chronicled := inTurn.orderly.sound.chronicled
  cases move.course found with
  | arrives new quiet =>
      rw [quiet, List.append_nil] at admitted
      have inside := (chronicled.known _ _ _ admitted).1
      omega
  | rests before same brings quiet =>
      replace admitted := (List.mem_append.mp admitted).resolve_right (quiet _ _)
      rw [same, Send.hear_phase] at done
      rcases inTurn.ended i _ o before admitted done with told | ⟨lost, never⟩
      · exact .inl (told.step move)
      · refine .inr ⟨lost, ?_⟩
        rw [List.mem_append, not_or]
        exact ⟨never, quiet _ _⟩
  | @turns s b before turn same =>
      rw [done] at turn
      have early (coming : Deed.admitted ∈ s.phase.ahead)
          (now : Fact.did .admitted i place ∉ facts) : False := by
        rcases List.mem_append.mp admitted with old | new
        · exact chronicled.ahead i s .admitted place before coming old
        · exact now new
      cases turn with
      | useClosed phase | startFails phase | refuse phase =>
          exact (early (by simp [phase, SendPhase.ahead]) (by simp)).elim
      | writeFails phase =>
          refine .inr ⟨rfl, ?_⟩
          rw [List.mem_append, not_or]
          refine ⟨chronicled.ahead i s .wrote place before (by simp [phase, SendPhase.ahead]), ?_⟩
          split
          · simp
          · simp
      | receive phase heard =>
          rw [List.append_nil] at admitted
          exact .inl ((inTurn.told i s o before admitted (by simp [heard])).step move)
      | abandon phase process silent absent =>
          rw [inTurn.orderly.accounted.not_absent chronicled before phase silent process] at absent
          cases absent
      | kill _ limit =>
          rw [inTurn.untimed] at limit
          cases limit

theorem InTurn.step (inTurn : c.InTurn place j r) (rule : c.AnswersInTurn place e)
    (distinct : c.DistinctIds) (happens : c.step e = some d) :
    d.InTurn place (j ++ c.facts e) (r ++ c.replies e) := by
  have move := step_move happens
  have chronicled := inTurn.orderly.sound.chronicled
  exact ⟨move.timeout.trans inTurn.untimed, inTurn.orderly.step distinct happens,
    inTurn.locked.step move, inTurn.written.step inTurn.locked chronicled move,
    move.unread_step inTurn.unread,
    fun _ => Aligned.step inTurn.aligned inTurn.unread (fun p line found => rule.2 p found line)
      inTurn.written chronicled inTurn.orderly.seated distinct move,
    inTurn.readOut.step rule.1 move, inTurn.awaited_step move,
    fun _ _ _ => inTurn.told_step move, fun _ _ _ => inTurn.ended_step move⟩

theorem run_inTurn {events : List Event} (inTurn : c.InTurn place j r)
    (obeys : Obeys (AnswersInTurn place) c events) (run : c.run events = some d)
    (distinct : d.DistinctIds) :
    d.InTurn place (j ++ c.journal events) (r ++ c.repliesOf events) := by
  refine obeys.replies (motive := fun c j r => c.DistinctIds → c.InTurn place j r) ?_ run
    (fun _ => inTurn) distinct
  intro c j r e d kept rule happens distinct
  have before := distinct.back (step_move happens)
  exact (kept before).step rule before happens

/-- The answer that is read after others is as far in the output as there are answers among them. -/
theorem Aligned.answer_at {noisy : Bool} {before after : List Delivery} {x : Delivery}
    {a : Response} (aligned : Aligned noisy j place p)
    (split : j.reads place = before ++ x :: after) (reading : LineKind.ofLine x.line = .answer a) :
    p.answers[answers before]? = some a := by
  obtain ⟨rest, output⟩ := aligned.lines
  have first : answers before = ((before.map Delivery.line).filterMap answer?).length := by
    rw [length_filterMap_answer?, List.countP_map]
    rfl
  have next : answer? x.line = some a := answer?_eq_some.mpr reading
  rw [Process.answers, ← output, split, List.map_append, List.map_cons, List.append_assoc,
    List.filterMap_append, List.cons_append, List.filterMap_cons_some next, first,
    List.getElem?_append_right (Nat.le_refl _), Nat.sub_self]
  rfl

/-- A request that returns an answer returns the one at its own place. -/
theorem InTurn.own {a : Response} (inTurn : c.InTurn place j r)
    (process : c.processes[place]? = some p) (admitted : Fact.did .admitted i place ∈ j)
    (returned : c.outcome? i = some (.ok a)) :
    ∃ n : Nat, (j.sends .wrote place)[n]? = some i ∧ p.answers[n]? = some a := by
  have chronicled := inTurn.orderly.sound.chronicled
  have aligned := inTurn.aligned p process
  obtain ⟨home, wrote, got⟩ := inTurn.orderly.sound.answered (i := i) (r := a)
    (by rw [result?, returned]; rfl)
  have here := chronicled.alone wrote admitted
  subst here
  obtain ⟨x, member, receives, reading⟩ := got
  obtain ⟨before, after, split⟩ := List.append_of_mem member
  obtain ⟨_, account⟩ := aligned.shift (inTurn.written.first home)
    (chronicled.nodup .admitted home) split receives (Journal.mem_sends.mpr wrote)
  have awaited := inTurn.awaited
  rw [split, strays, List.countP_append] at awaited
  rw [inTurn.orderly.fated.withdrawn_eq_zero chronicled inTurn.orderly.timed inTurn.untimed,
    aligned.no_rejections (split ▸ List.subset_append_left _ _), strays,
    (Nat.add_eq_zero_iff.mp awaited).1] at account
  refine ⟨_, getElem?_idxOf_wrote wrote, ?_⟩
  rw [← aligned.answer_at split reading]
  exact congrArg (p.answers[·]?) account.symm

/-- When the exit is published, every answer has been given to the request that it is for. -/
theorem InTurn.given {n : Nat} (inTurn : c.InTurn place j r)
    (process : c.processes[place]? = some p) (exited : p.published.isSome)
    (wrote : (j.sends .wrote place)[n]? = some i) (inside : n < p.answers.length) :
    ∃ x ∈ j.reads place, x.receiver = some i := by
  have aligned := inTurn.aligned p process
  have all : (j.reads place).map Delivery.line = p.output := by
    refine aligned.lines.eq_of_length ?_
    rw [List.length_map, ← aligned.consumed]
    exact (inTurn.readOut.spent p process (inTurn.readOut.ended p process exited)).2
  have length := inTurn.length_receivers process
  have room : n < (receivers (j.reads place)).length := by
    rw [length, answers, ← Function.comp_def isAnswer Delivery.line, ← List.countP_map, all,
      ← length_filterMap_answer?]
    exact inside
  have first := List.prefix_iff_getElem?.mp aligned.passed n room
  have same : (receivers (j.reads place))[n] = i := by
    obtain ⟨within, here⟩ := List.getElem?_eq_some_iff.mp wrote
    have kept := List.prefix_iff_getElem?.mp inTurn.first n within
    rwa [first, here, Option.some.injEq] at kept
  have member : i ∈ receivers (j.reads place) := same ▸ List.getElem_mem room
  exact List.mem_filterMap.mp member

/-- What a request of a process is due: the answer at its own place, or the exit of the process when
none was written there. -/
def Due (j : Journal) (place : Nat) (p : Process) (i : Nat) (o : Outcome) : Prop :=
  (∃ (n : Nat) (a : Response), (j.sends .wrote place)[n]? = some i ∧ p.answers[n]? = some a ∧
    o = .ok a) ∨
  (∃ code, o = .error (.workerExited code)) ∧
    ∀ n : Nat, (j.sends .wrote place)[n]? = some i → p.answers.length ≤ n

theorem InTurn.returns {o : Outcome} (inTurn : c.InTurn place j r)
    (process : c.processes[place]? = some p) (admitted : Fact.did .admitted i place ∈ j)
    (returned : c.outcome? i = some o) : Due j place p i o := by
  obtain ⟨s, found, done⟩ := outcome?_eq_some.mp returned
  rcases inTurn.ended i s o found admitted done with told | ⟨rfl, never⟩
  · cases told with
    | answer a =>
        obtain ⟨n, wrote, written⟩ := inTurn.own process admitted returned
        exact .inl ⟨n, a, wrote, written, rfl⟩
    | @exit q code at_ exited =>
        cases process.symm.trans at_
        refine .inr ⟨⟨code, rfl⟩, fun n wrote => Nat.le_of_not_lt fun inside => ?_⟩
        -- The answer was given to the send, so that it would have returned it.
        obtain ⟨x, member, receives⟩ := inTurn.given process (by rw [exited]; rfl) wrote inside
        obtain ⟨a, reading⟩ := isAnswer_iff.mp
          ((inTurn.aligned p process).readable member (by rw [receives]; rfl))
        cases inTurn.orderly.fated.given i place s a x member receives reading found with
        | holds listens =>
            rw [done] at listens
            cases listens
        | returned phase =>
            rw [done] at phase
            cases phase
        | late late =>
            rw [done] at late
            simp at late
        | unwritten _ _ never =>
            exact never place (Journal.mem_sends.mp (List.mem_of_getElem? wrote))
  · refine .inr ⟨⟨none, rfl⟩, fun n wrote => ?_⟩
    exact absurd (Journal.mem_sends.mp (List.mem_of_getElem? wrote)) never

/-- The steps that conclude a request demand nothing, write nothing and end no line. -/
theorem conclusion_quiet (listed : e ∈ conclusions place i) :
    e.isDemand = false ∧ e.output place = [] ∧ (c.facts e).sends .wrote place = [] := by
  simp only [conclusions, List.mem_cons, List.not_mem_nil, or_false] at listed
  rcases listed with rfl | rfl | rfl | rfl | rfl | rfl | rfl
  · refine ⟨rfl, rfl, ?_⟩
    rw [facts]
    split
    · split
      · exact Journal.sends_gave ..
      · rfl
    · rfl
  · exact ⟨rfl, rfl, rfl⟩
  · exact ⟨rfl, rfl, rfl⟩
  · exact ⟨rfl, rfl, rfl⟩
  · exact ⟨rfl, rfl, rfl⟩
  · refine ⟨rfl, rfl, ?_⟩
    rw [facts]
    split
    · split
      all_goals simp
    · split
      all_goals simp
    · rfl
  · exact ⟨rfl, rfl, rfl⟩

/-- A request of a dead process comes to what it is due. -/
theorem InTurn.concludes (inTurn : c.InTurn place j r) (distinct : c.DistinctIds)
    (inTime : c.EndsInTime place) (process : c.processes[place]? = some p)
    (dead : p.isAlive = false) (admitted : Fact.did .admitted i place ∈ j) :
    ∃ more d o, (∀ e ∈ more, e ∈ conclusions place i) ∧ c.run more = some d ∧
      d.outcome? i = some o ∧ Due j place p i o := by
  induction left : c.stepsLeft place i using Nat.strongRecOn generalizing c j r p with
  | ind left ih =>
    rcases inTurn.orderly.advances inTurn.untimed process dead admitted with ⟨o, returned⟩ | step
    · exact ⟨[], c, o, by simp, rfl, returned, inTurn.returns process admitted returned⟩
    · obtain ⟨e, listed, d, happens, now, less⟩ := step
      have move := step_move happens
      obtain ⟨quiet, silent, unwritten⟩ := conclusion_quiet (c := c) listed
      have rule : c.AnswersInTurn place e := by
        refine ⟨inTime, fun q _ line written => ?_⟩
        rw [silent] at written
        cases written
      have same : d.DistinctIds := by
        rw [DistinctIds, move.ids quiet]
        exact distinct
      obtain ⟨q, after, _⟩ := move.keeps place p process
      obtain ⟨gone, output⟩ := (move.flow process after).dead dead
      obtain ⟨more, b, o, all, run, returned, due⟩ := ih _ (left ▸ less)
        (inTurn.step rule distinct happens) same (inTime.step process move now) after gone
        (List.mem_append_left _ admitted) rfl
      refine ⟨e :: more, b, o, ?_, ?_, returned, ?_⟩
      · rintro f (_ | ⟨_, member⟩)
        · exact listed
        · exact all f member
      · rw [Channel.run, happens, Option.bind_some, run]
      · rwa [Due, Journal.sends_append, unwritten, List.append_nil, Process.answers, output] at due

/-- A process that answers its requests in turn serves them first in, first out, up to its exit. Its
lines are those of the sends that wrote, in order, and it writes no more answers than it was sent
requests. The send whose line was written at a place returns the answer at the same place, no matter
how soon the process exits after it, and every other send whose request it was given returns that it
has exited. After its death every such send has returned or has a step to wait for, and comes to
what it is due by such steps. -/
theorem answers_in_turn {program : String} {capacity place : Nat} {events : List Event}
    {c : Channel} {p : Process} (run : (start program none capacity).run events = some c)
    (promised : Obeys (AnswersInTurn place) (start program none capacity) events)
    (distinct : c.DistinctIds) (process : c.processes[place]? = some p) :
    let j := (start program none capacity).journal events
    let written := j.sends .wrote place
    (written <+: j.sends .admitted place ∧ p.answers.length ≤ written.length ∧
      ∀ (n i : Nat) (s : Send), written[n]? = some i → c.sends[i]? = some s →
        p.lines[n]? = some s.line) ∧
    (∀ (n i : Nat) (a : Response) (o : Outcome), written[n]? = some i → p.answers[n]? = some a →
      c.outcome? i = some o → o = .ok a) ∧
    (∀ i ∈ j.sends .admitted place, (∀ n : Nat, written[n]? = some i → p.answers.length ≤ n) →
      ∀ o, c.outcome? i = some o → ∃ code, o = .error (.workerExited code)) ∧
    (p.isAlive = false → c.EndsInTime place → ∀ i ∈ j.sends .admitted place,
      ((∃ o, c.outcome? i = some o) ∨ ∃ e ∈ conclusions place i, (c.step e).isSome) ∧
        ∃ more d o, (∀ e ∈ more, e ∈ conclusions place i) ∧ c.run more = some d ∧
          d.outcome? i = some o ∧ Due j place p i o) := by
  have inTurn := run_inTurn (start_inTurn place program capacity) promised run distinct
  rw [List.nil_append, List.nil_append] at inTurn
  intro j written
  have nodup : written.Nodup := inTurn.orderly.sound.chronicled.nodup .wrote place
  have first : written <+: j.sends .admitted place := inTurn.written.first place
  refine ⟨⟨first, ?_, fun n i s wrote found => ?_⟩, fun n i a o wrote answer returned => ?_,
    fun i admitted unanswered o returned => ?_, fun dead inTime i admitted => ⟨?_, ?_⟩⟩
  · rw [Process.answers, length_filterMap_answer?]
    exact (inTurn.aligned p process).answered
  · exact inTurn.written.line place n i p s process wrote found
  · have admitted := Journal.mem_sends.mp (first.subset (List.mem_of_getElem? wrote))
    rcases inTurn.returns process admitted returned with ⟨m, b, here, given, rfl⟩ | ⟨_, none_⟩
    · have inside := (List.getElem?_eq_some_iff.mp wrote).1
      have same := (List.getElem?_inj inside nodup).mp (wrote.trans here.symm)
      subst same
      cases answer.symm.trans given
      rfl
    · have inside := (List.getElem?_eq_some_iff.mp answer).1
      exact absurd inside (Nat.not_lt_of_le (none_ n wrote))
  · rcases inTurn.returns process (Journal.mem_sends.mp admitted) returned with
      ⟨n, a, wrote, answer, _⟩ | ⟨exited, _⟩
    · have inside := (List.getElem?_eq_some_iff.mp answer).1
      exact absurd inside (Nat.not_lt_of_le (unanswered n wrote))
    · exact exited
  · rcases inTurn.orderly.advances inTurn.untimed process dead (Journal.mem_sends.mp admitted) with
      returned | ⟨e, listed, d, happens, _⟩
    · exact .inl returned
    · exact .inr ⟨e, listed, by rw [happens]; rfl⟩
  · exact inTurn.concludes distinct inTime process dead (Journal.mem_sends.mp admitted)

/-- The worker answers two requests and exits before the second answer is read, while a third
request is being written. -/
def answeredRun : List Event :=
  [.send 1 ⟨"a", []⟩, .enter 0 none, .insert 0, .write 0 2, .send 2 ⟨"b", []⟩, .enter 1 none,
    .insert 1, .write 1 2, .workerReads 0 4, .workerWrites 0 (plainLine ""),
    .workerWrites 0 successLine, .readLine 0, .readLine 0, .receive 0, .send 3 ⟨"c", []⟩,
    .enter 2 none, .insert 2, .write 2 1, .workerWrites 0 successLine, .workerExits 0 (some 3),
    .reap 0, .writeFails 2, .readLine 0, .endOutput 0, .publish 0, .drain 0]

theorem answeredRun_answers :
    ∃ c p, (start "worker" none pipeCapacity).run answeredRun = some c ∧
      Obeys (AnswersInTurn 0) (start "worker" none pipeCapacity) answeredRun ∧ c.DistinctIds ∧
      c.processes[0]? = some p ∧ p.isAlive = false ∧ c.EndsInTime 0 ∧
      (∃ a, p.answers[0]? = some a ∧ c.outcome? 0 = some (.ok a)) ∧
      (∃ code, c.outcome? 2 = some (.error (.workerExited code))) ∧
      ∃ a more d, p.answers[1]? = some a ∧ c.run more = some d ∧ d.outcome? 1 = some (.ok a) := by
  have checked : ((start "worker" none pipeCapacity).run answeredRun).any (fun c =>
      decide (c.DistinctIds ∧ c.EndsInTime 0 ∧ (c.outcome? 0).isSome ∧ (c.outcome? 2).isSome) &&
        (c.processes[0]?.any fun p => !p.isAlive && p.answers.length == 2)) = true := by
    decide +kernel
  obtain ⟨c, run, rest⟩ := (Option.any_eq_true _ _).mp checked
  rw [Bool.and_eq_true, decide_eq_true_eq] at rest
  obtain ⟨⟨distinct, inTime, first, third⟩, rest⟩ := rest
  obtain ⟨p, process, rest⟩ := (Option.any_eq_true _ _).mp rest
  rw [Bool.and_eq_true, Bool.not_eq_true', beq_iff_eq] at rest
  obtain ⟨dead, two⟩ := rest
  obtain ⟨o, returned⟩ := Option.isSome_iff_exists.mp first
  obtain ⟨lost, failed⟩ := Option.isSome_iff_exists.mp third
  have promised : Obeys (AnswersInTurn 0) (start "worker" none pipeCapacity) answeredRun := by
    decide +kernel
  have wrote : ((start "worker" none pipeCapacity).journal answeredRun).sends .wrote 0 = [0, 1] := by
    decide +kernel
  have admitted : ((start "worker" none pipeCapacity).journal answeredRun).sends .admitted 0 =
      [0, 1, 2] := by decide +kernel
  obtain ⟨a, answer⟩ : ∃ a, p.answers[0]? = some a :=
    ⟨_, List.getElem?_eq_getElem (two ▸ (by decide : 0 < 2))⟩
  obtain ⟨_, own, others, ends⟩ := answers_in_turn run promised distinct process
  rw [wrote] at own others
  rw [admitted] at others ends
  refine ⟨c, p, run, promised, distinct, process, dead, inTime, ⟨a, answer, ?_⟩, ?_, ?_⟩
  · rw [returned, own 0 0 a o rfl answer returned]
  · have unwritten (n : Nat) (here : [0, 1][n]? = some 2) : p.answers.length ≤ n := by
      have member := List.mem_of_getElem? here
      simp at member
    obtain ⟨code, same⟩ := others 2 (by decide) unwritten lost failed
    exact ⟨code, by rw [failed, same]⟩
  · obtain ⟨_, more, d, o, _, later, outcome, due⟩ := ends dead inTime 1 (by decide)
    rw [Due, wrote] at due
    rcases due with ⟨n, b, here, given, rfl⟩ | ⟨_, none_⟩
    · have same : 1 = n := (List.getElem?_inj (by decide) (by decide : [0, 1].Nodup)).mp here.symm
      subst same
      exact ⟨b, more, d, given, later, outcome⟩
    · have few := none_ 1 rfl
      rw [two] at few
      exact absurd few (by decide)

end Channel

end ImageSearch.Worker
