import ImageSearch.Proofs.Channel.Lines
import ImageSearch.Proofs.Channel.Numbering

set_option autoImplicit false

namespace ImageSearch.Worker

open Recognition

def SendPhase.place? : SendPhase → Option Nat
  | .entered place | .writing place _ | .awaiting place _ | .expired place | .killing place =>
    some place
  | .queued | .done _ => none

/-- What a send in progress has done with its process. -/
def SendPhase.deeds : SendPhase → List Deed
  | .entered _ => [.directed]
  | .writing _ _ => [.directed, .admitted]
  | .awaiting _ _ | .expired _ | .killing _ => [.directed, .admitted, .wrote]
  | .queued | .done _ => []

def SendPhase.ahead : SendPhase → List Deed
  | .queued => [.directed, .started, .admitted, .wrote, .removed]
  | .entered _ => [.admitted, .wrote, .removed]
  | .writing _ _ => [.wrote, .removed]
  | .awaiting _ _ | .expired _ => [.removed]
  | .killing _ | .done _ => []

def Fact.about : Fact → Option Nat
  | .did .directed _ _ | .did .started _ _ => none
  | .did _ _ place => some place
  | .gave place _ => some place
theorem SendPhase.directed_mem {phase : SendPhase} {place : Nat}
    (here : phase.place? = some place) : Deed.directed ∈ phase.deeds := by
  cases phase with
  | queued | done => cases here
  | _ => simp [SendPhase.deeds]

namespace Channel

variable {c d b : Channel} {e : Event} {facts : Journal} {i : Nat} {s : Send} {phase : SendPhase}

/-- A send does what is ahead of it, with its process, or with the one that it finds or starts. -/
theorem Turn.facts_did (turn : c.Turn i s facts b phase) {deed : Deed} {k place : Nat}
    (member : Fact.did deed k place ∈ facts) :
    k = i ∧ deed ∈ s.phase.ahead ∧ Fact.did deed i place ∈ facts ∧
      (s.phase.place? = some place ∨
        s.phase = .queued ∧ Fact.did .directed i place ∈ facts ∧ place < b.processes.length ∧
          ∀ q, Fact.did .directed i q ∈ facts → q = place) := by
  cases turn with
  | useOpen phase _ _ process | useClosed phase _ _ process =>
      simp only [List.mem_singleton, Fact.did.injEq] at member
      obtain ⟨rfl, rfl, rfl⟩ := member
      refine ⟨rfl, by simp [phase, SendPhase.ahead], by simp, .inr ⟨phase, by simp, ?_, ?_⟩⟩
      · exact (List.getElem?_eq_some_iff.mp process).1
      · intro q again
        simpa using again
  | starts phase =>
      simp only [List.mem_cons, Fact.did.injEq, List.not_mem_nil, or_false] at member
      rcases member with ⟨rfl, rfl, rfl⟩ | ⟨rfl, rfl, rfl⟩
      all_goals
        refine ⟨rfl, by simp [phase, SendPhase.ahead], by simp, .inr ⟨phase, by simp, ?_, ?_⟩⟩
        · simp
        · intro q again
          simpa using again
  | joins phase | writeAll phase =>
      simp only [List.mem_singleton, Fact.did.injEq] at member
      obtain ⟨rfl, rfl, rfl⟩ := member
      exact ⟨rfl, by simp [phase, SendPhase.ahead], by simp, .inl (by rw [phase]; rfl)⟩
  | writeFails phase | withdraw phase =>
      split at member
      · simp only [List.mem_singleton, Fact.did.injEq] at member
        obtain ⟨rfl, rfl, rfl⟩ := member
        exact ⟨rfl, by simp [phase, SendPhase.ahead], by simp [*], .inl (by rw [phase]; rfl)⟩
      · cases member
  | startFails | refuse | writePart | receive | abandon | expire | kill => cases member

/-- A send that is done has no turn left. -/
theorem Turn.undone (turn : c.Turn i s facts b phase) (o : Outcome) : s.phase ≠ .done o := by
  intro ended
  cases turn with
  | useOpen phase | useClosed phase | startFails phase | starts phase | joins phase
  | refuse phase | writePart phase | writeAll phase | writeFails phase | receive phase
  | abandon phase | expire phase | withdraw phase | kill phase =>
      rw [ended] at phase
      cases phase

theorem Turn.of_expired (turn : c.Turn i s facts b phase) {place : Nat}
    (expired : s.phase = .expired place) : phase = .killing place := by
  cases turn with
  | withdraw before =>
      rw [expired] at before
      cases before
      rfl
  | _ => simp_all

theorem Turn.of_killing (turn : c.Turn i s facts b phase) {place : Nat}
    (killing : s.phase = .killing place) : ∃ limit, phase = .done (.error (.timeout limit)) := by
  cases turn with
  | kill => exact ⟨_, rfl⟩
  | _ => simp_all

theorem Turn.facts_gave (turn : c.Turn i s facts b phase) (place : Nat) (delivery : Delivery) :
    Fact.gave place delivery ∉ facts := by
  cases turn with
  | writeFails | withdraw =>
      split
      · simp
      · simp
  | _ => simp

/-- What a send has done after a step it had done before or does in this step. -/
theorem Turn.deeds (turn : c.Turn i s facts b phase) {deed : Deed} {place : Nat}
    (done : deed ∈ phase.deeds) (here : phase.place? = some place) :
    (deed ∈ s.phase.deeds ∧ s.phase.place? = some place) ∨ Fact.did deed i place ∈ facts := by
  cases turn with
  | useOpen | starts =>
      simp only [SendPhase.deeds, List.mem_singleton] at done
      cases here
      exact .inr (by simp [done])
  | joins phase =>
      cases here
      rw [phase]
      simp only [SendPhase.deeds, List.mem_cons, List.not_mem_nil, or_false] at done ⊢
      rcases done with rfl | rfl
      · exact .inl ⟨rfl, rfl⟩
      · exact .inr (by simp)
  | writeAll phase =>
      cases here
      rw [phase]
      simp only [SendPhase.deeds, List.mem_cons, List.not_mem_nil, or_false] at done ⊢
      rcases done with rfl | rfl | rfl
      · exact .inl ⟨.inl rfl, rfl⟩
      · exact .inl ⟨.inr rfl, rfl⟩
      · exact .inr (by simp)
  | writePart phase | expire phase | withdraw phase =>
      cases here
      exact .inl ⟨by simpa [phase, SendPhase.deeds] using done, by rw [phase]; rfl⟩
  | useClosed | startFails | refuse | writeFails | receive | abandon | kill => cases here

/-- What is ahead of a send after a step was ahead of it before and is not done in this step. -/
theorem Turn.ahead (turn : c.Turn i s facts b phase) {deed : Deed} (ahead : deed ∈ phase.ahead) :
    deed ∈ s.phase.ahead ∧ ∀ place, Fact.did deed i place ∉ facts := by
  cases turn with
  | useOpen phase | starts phase =>
      rw [phase]
      simp only [SendPhase.ahead, List.mem_cons, List.not_mem_nil, or_false] at ahead ⊢
      rcases ahead with rfl | rfl | rfl
      all_goals simp
  | joins phase | writeAll phase =>
      rw [phase]
      revert ahead
      cases deed
      all_goals simp [SendPhase.ahead]
  | writePart phase | expire phase =>
      rw [phase]
      exact ⟨ahead, by simp⟩
  | useClosed | startFails | refuse | writeFails | receive | abandon | kill | withdraw =>
      cases ahead

theorem Turn.facts_once (turn : c.Turn i s facts b phase) (deed : Deed) (place : Nat) :
    (facts.sends deed place).Nodup := by
  cases turn with
  | starts =>
      simp only [Journal.sends_did, Journal.sends_nil, List.append_nil]
      cases deed
      all_goals
        by_cases here : c.processes.length = place
        all_goals simp [here]
  | useOpen | useClosed | joins | writeAll =>
      simp only [Journal.sends_did, Journal.sends_nil, List.append_nil]
      split
      all_goals simp
  | writeFails | withdraw =>
      split
      · simp only [Journal.sends_did, Journal.sends_nil, List.append_nil]
        split
        all_goals simp
      · exact List.nodup_nil
  | startFails | refuse | writePart | receive | abandon | expire | kill => exact List.nodup_nil

/-- How an outcome comes to a send: with a line of the output, or with the exit of the process. -/
inductive Brings (c : Channel) (facts : Journal) (d : Channel) (k : Nat) (outcome : Outcome) :
    Prop
  | line {place : Nat} {p : Process} {x : Entry} {bytes : List Nat}
      (process : c.processes[place]? = some p) (line : p.output[p.consumed]? = some bytes)
      (member : x ∈ p.table.entries) (caller : x.caller = k)
      (gave : facts = [.gave place ⟨bytes, some k⟩])
      (reply : (takeLine p.table bytes).2 = some ⟨k, outcome⟩)
  | exit {place : Nat} {p : Process} {x : Entry} {code : Option Int}
      (process : c.processes[place]? = some p) (exited : p.published = some code)
      (member : x ∈ p.table.entries) (caller : x.caller = k)
      (failure : outcome = .error (.workerExited code))
      (after : d.processes[place]? = some { p with table := (p.table.failAll code).1 })

/-- A send after a step: it is new, or rests while outcomes may come to it, or takes its turn. -/
inductive Course (c : Channel) (facts : Journal) (d : Channel) (k : Nat) (t : Send) : Prop
  | arrives (new : c.sends.length ≤ k) (quiet : facts = []) (silent : t.inbox = [])
      (phase : t.phase = .queued ∨ ∃ fault, t.phase = .done (.error (.protocol fault)))
  | rests {s : Send} {outcomes : List Outcome} (found : c.sends[k]? = some s)
      (same : t = s.hear outcomes) (brings : ∀ o ∈ outcomes, c.Brings facts d k o)
      (quiet : ∀ deed place, Fact.did deed k place ∉ facts)
  | turns {s : Send} {b : Channel} (found : c.sends[k]? = some s)
      (turn : c.Turn k s facts b t.phase) (same : t = { s with phase := t.phase })
      (after : d = b.setPhase k t.phase)

theorem Move.course (move : c.Move e facts d) {k : Nat} {t : Send}
    (found : d.sends[k]? = some t) : c.Course facts d k t := by
  cases move with
  | background same =>
      rw [same.sends] at found
      exact .rests found (Send.hear_nil t).symm (by simp) (by simp)
  | arrive id request same =>
      rw [same.sends, send] at found
      by_cases old : k < c.sends.length
      · rw [List.getElem?_append_left old] at found
        exact .rests found (Send.hear_nil t).symm (by simp) (by simp)
      · rw [List.getElem?_append_right (Nat.le_of_not_lt old), List.getElem?_singleton] at found
        split at found
        · cases found
          refine .arrives (Nat.le_of_not_lt old) rfl ?_ ?_
          · split
            all_goals rfl
          · split
            · exact .inl rfl
            · exact .inr ⟨_, rfl⟩
        · cases found
  | turn before turn =>
      rename_i i s b phase
      rw [lookup_setPhase, turn.sends] at found
      obtain ⟨r, old, rfl⟩ := Option.map_eq_some_iff.mp found
      by_cases same : i = k
      · subst same
        rw [before] at old
        cases old
        rw [if_pos rfl]
        exact .turns before turn rfl rfl
      · rw [if_neg same]
        refine .rests old (Send.hear_nil r).symm (by simp) ?_
        intro deed place did
        exact same (turn.facts_did did).1.symm
  | @readLine place p bytes process line _ =>
      rw [lookup_deliverAll] at found
      obtain ⟨s, old, rfl⟩ := Option.map_eq_some_iff.mp found
      refine .rests old rfl ?_ (by simp)
      intro o brought
      simp only [outcomesFor, List.mem_map, List.mem_filter, beq_iff_eq, Option.mem_toList]
        at brought
      obtain ⟨r, ⟨given, rfl⟩, rfl⟩ := brought
      obtain ⟨x, member, caller⟩ := (takeLine_entries rfl).2.2 r given
      exact .line process line member caller (by rw [given]; rfl) given
  | drain process exited unclosed =>
      rename_i place p code
      rw [lookup_deliverAll] at found
      obtain ⟨s, old, rfl⟩ := Option.map_eq_some_iff.mp found
      refine .rests old rfl ?_ (by simp)
      intro o brought
      simp only [outcomesFor, Table.failAll, List.mem_map, List.mem_filter, beq_iff_eq] at brought
      obtain ⟨_, ⟨⟨x, member, rfl⟩, caller⟩, rfl⟩ := brought
      refine .exit process exited member caller rfl ?_
      rw [deliverAll_processes, lookup_updateProcess, process, Option.map_some, if_pos rfl]

theorem Move.did (move : c.Move e facts d) {deed : Deed} {k place : Nat}
    (member : Fact.did deed k place ∈ facts) :
    ∃ s b phase, c.sends[k]? = some s ∧ c.Turn k s facts b phase ∧ d = b.setPhase k phase := by
  cases move with
  | background | arrive | drain => cases member
  | readLine => simp at member
  | turn found turn =>
      obtain ⟨rfl, _⟩ := turn.facts_did member
      exact ⟨_, _, _, found, turn, rfl⟩

/-- A process after a step: it is new, or stays beside what it writes, or its table or its input
changes as a fact of the step tells. -/
inductive Upkeep (c : Channel) (e : Event) (facts : Journal) (place : Nat) (q : Process) : Prop
  | starts (new : c.processes.length ≤ place) (same : q = Process.start (c.spawns + 1))
      (quiet : ∀ fact ∈ facts, fact.about ≠ some place)
  | stays {p : Process} {more : List (List Nat)} (found : c.processes[place]? = some p)
      (stays : p.Stays more q) (written : more = [] ∨ more = e.output place)
      (quiet : ∀ fact ∈ facts, fact.about ≠ some place)
  | admits {p : Process} {i : Nat} {s : Send} (found : c.processes[place]? = some p)
      (send : c.sends[i]? = some s) (phase : s.phase = .entered place)
      (unclosed : p.table.closed = none) (did : facts = [.did .admitted i place])
      (same : q = { p with
        table := { p.table with entries := p.table.entries ++ [⟨s.id, s.command, i⟩] } })
  | hears {p : Process} {i left : Nat} {s : Send} (found : c.processes[place]? = some p)
      (send : c.sends[i]? = some s) (phase : s.phase = .writing place left)
      (accepts : p.acceptsInput) (did : facts = [.did .wrote i place])
      (same : q = { p with sent := p.sent + left, lines := p.lines ++ [s.line] })
  | removes {p : Process} {i : Nat} {s : Send} (found : c.processes[place]? = some p)
      (send : c.sends[i]? = some s)
      (phase : (∃ left, s.phase = .writing place left) ∧ p.acceptsInput = false ∨
        s.phase = .expired place)
      (did : facts = if holds p i then [.did .removed i place] else [])
      (same : q = { p with table := p.table.remove s.id })
  | takes {p : Process} {bytes : List Nat} (found : c.processes[place]? = some p)
      (line : p.output[p.consumed]? = some bytes)
      (gave : facts = [.gave place ⟨bytes, (takeLine p.table bytes).2.map Reply.caller⟩])
      (same : q = { p with table := (takeLine p.table bytes).1, consumed := p.consumed + 1 })
      (event : e = .readLine place)
  | closes {p : Process} {code : Option Int} (found : c.processes[place]? = some p)
      (exited : p.published = some code) (quiet : facts = [])
      (same : q = { p with table := (p.table.failAll code).1 }) (event : e = .drain place)

theorem Turn.upkeep (turn : c.Turn i s facts b phase) (send : c.sends[i]? = some s) {place : Nat}
    {q : Process} (at_ : b.processes[place]? = some q) : c.Upkeep e facts place q := by
  have rest {r : Process} (quiet : ∀ fact ∈ facts, fact.about ≠ some place)
      (found : c.processes[place]? = some r) : c.Upkeep e facts place r :=
    .stays found (.refl r) (.inl rfl) quiet
  cases turn with
  | useOpen | useClosed | startFails | refuse | receive | abandon | expire =>
      exact rest (by simp [Fact.about]) at_
  | starts =>
      by_cases old : place < c.processes.length
      · rw [List.getElem?_append_left old] at at_
        exact rest (by simp [Fact.about]) at_
      · rw [List.getElem?_append_right (Nat.le_of_not_lt old), List.getElem?_singleton] at at_
        split at at_
        · cases at_
          exact .starts (Nat.le_of_not_lt old) rfl (by simp [Fact.about])
        · cases at_
  | joins entered process unclosed =>
      rename_i home p
      rw [lookup_updateProcess] at at_
      obtain ⟨r, found, rfl⟩ := Option.map_eq_some_iff.mp at_
      by_cases here : home = place
      · subst here
        rw [process] at found
        cases found
        rw [if_pos rfl]
        exact .admits process send entered unclosed rfl rfl
      · rw [if_neg here]
        exact rest (by simp [Fact.about, here]) found
  | writePart writing process accepts part =>
      rename_i home bytes left p
      rw [lookup_updateProcess] at at_
      obtain ⟨r, found, rfl⟩ := Option.map_eq_some_iff.mp at_
      refine .stays found ?_ (.inl rfl) (by simp)
      split
      · exact ⟨rfl, rfl, rfl, rfl, (List.append_nil _).symm, fun _ => rfl, id⟩
      · exact .refl r
  | writeAll writing process accepts =>
      rename_i home left p
      rw [lookup_updateProcess] at at_
      obtain ⟨r, found, rfl⟩ := Option.map_eq_some_iff.mp at_
      by_cases here : home = place
      · subst here
        rw [process] at found
        cases found
        rw [if_pos rfl]
        exact .hears process send writing accepts rfl rfl
      · rw [if_neg here]
        exact rest (by simp [Fact.about, here]) found
  | writeFails writing process broken =>
      rename_i home left p
      rw [lookup_updateProcess] at at_
      obtain ⟨r, found, rfl⟩ := Option.map_eq_some_iff.mp at_
      by_cases here : home = place
      · subst here
        rw [process] at found
        cases found
        rw [if_pos rfl]
        exact .removes process send (.inl ⟨⟨left, writing⟩, broken⟩) rfl rfl
      · rw [if_neg here]
        refine rest ?_ found
        split
        · simp [Fact.about, here]
        · simp
  | withdraw expired =>
      rename_i home
      rw [lookup_updateProcess] at at_
      obtain ⟨r, found, rfl⟩ := Option.map_eq_some_iff.mp at_
      by_cases here : home = place
      · subst here
        rw [if_pos rfl]
        refine .removes found send (.inr expired) ?_ rfl
        simp only [found, Option.map_some, Option.some.injEq]
      · rw [if_neg here]
        refine rest ?_ found
        split
        · simp [Fact.about, here]
        · simp
  | kill _ _ same =>
      have inside : place < c.processes.length :=
        same.size ▸ (List.getElem?_eq_some_iff.mp at_).1
      obtain ⟨r, later, stays, _⟩ := same.process place _ (List.getElem?_eq_getElem inside)
      rw [at_] at later
      cases later
      exact .stays (List.getElem?_eq_getElem inside) stays (.inl rfl) (by simp)

theorem Move.upkeep (move : c.Move e facts d) {place : Nat} {q : Process}
    (at_ : d.processes[place]? = some q) : c.Upkeep e facts place q := by
  cases move with
  | background same =>
      have inside : place < c.processes.length :=
        same.size ▸ (List.getElem?_eq_some_iff.mp at_).1
      obtain ⟨r, later, stays, _⟩ := same.process place _ (List.getElem?_eq_getElem inside)
      rw [at_] at later
      cases later
      exact .stays (List.getElem?_eq_getElem inside) stays (.inr rfl) (by simp)
  | arrive id request same =>
      have inside : place < c.processes.length :=
        same.size ▸ (List.getElem?_eq_some_iff.mp at_).1
      obtain ⟨r, later, stays, _⟩ := same.process place _ (List.getElem?_eq_getElem inside)
      rw [at_] at later
      cases later
      exact .stays (List.getElem?_eq_getElem inside) stays (.inl rfl) (by simp)
  | turn send turn => exact turn.upkeep send at_
  | @readLine home p bytes process line _ =>
      rw [deliverAll_processes, lookup_updateProcess] at at_
      obtain ⟨r, found, rfl⟩ := Option.map_eq_some_iff.mp at_
      by_cases here : home = place
      · subst here
        rw [process] at found
        cases found
        rw [if_pos rfl]
        exact .takes process line rfl rfl rfl
      · rw [if_neg here]
        exact .stays found (.refl r) (.inl rfl) (by simp [Fact.about, here])
  | drain process exited unclosed =>
      rename_i home p code
      rw [deliverAll_processes, lookup_updateProcess] at at_
      obtain ⟨r, found, rfl⟩ := Option.map_eq_some_iff.mp at_
      by_cases here : home = place
      · subst here
        rw [process] at found
        cases found
        rw [if_pos rfl]
        exact .closes process exited rfl rfl rfl
      · rw [if_neg here]
        exact .stays found (.refl r) (.inl rfl) (by simp)

theorem Move.keepsSend (move : c.Move e facts d) {k : Nat} {s : Send}
    (found : c.sends[k]? = some s) :
    ∃ t, d.sends[k]? = some t ∧ t.id = s.id ∧ t.command = s.command ∧ t.line = s.line := by
  have inside : k < c.sends.length := (List.getElem?_eq_some_iff.mp found).1
  cases move with
  | background same => exact ⟨s, by rw [same.sends, found], rfl, rfl, rfl⟩
  | arrive id request same =>
      refine ⟨s, ?_, rfl, rfl, rfl⟩
      rw [same.sends, send, List.getElem?_append_left inside, found]
  | turn before turn =>
      rename_i i r b phase
      rw [lookup_setPhase, turn.sends, found]
      refine ⟨_, rfl, ?_⟩
      by_cases same : i = k
      · simp only [if_pos same, and_self]
      · simp only [if_neg same, and_self]
  | readLine | drain =>
      rw [lookup_deliverAll]
      refine ⟨_, congrArg (Option.map _) found, ?_⟩
      simp

theorem Move.sends_length (move : c.Move e facts d) : c.sends.length ≤ d.sends.length := by
  by_cases some_ : 0 < c.sends.length
  · have last : c.sends.length - 1 < c.sends.length := by omega
    obtain ⟨t, found, _⟩ := move.keepsSend (List.getElem?_eq_getElem last)
    have inside := (List.getElem?_eq_some_iff.mp found).1
    omega
  · omega

theorem Move.processes_length (move : c.Move e facts d) :
    c.processes.length ≤ d.processes.length := by
  cases move.occupies with
  | same _ size => omega
  | vacates _ _ size => omega
  | starts _ _ processes => simp [processes]

end Channel

end ImageSearch.Worker
