import ImageSearch.Proofs.Channel.Fate

set_option autoImplicit false

namespace ImageSearch.Worker

open Recognition

/-- A process has exited, and its table is closed with its exit code and empty. -/
structure Process.IsShut (p : Process) (code : Option Int) : Prop where
  table : p.table = ⟨[], some code⟩
  published : p.published = some code

abbrev callers (r : List Reply) : List Nat := r.map Reply.caller

theorem Table.Gives.left {t u : Table} {reply : Option Reply} (gives : t.Gives (u, reply))
    (nodup : (t.entries.map Entry.caller).Nodup) :
    u.entries.map Entry.caller =
        (t.entries.map Entry.caller).filter (· ∉ callers reply.toList) ∧
      callers reply.toList ⊆ t.entries.map Entry.caller ∧ (callers reply.toList).Nodup := by
  cases gives with
  | nothing =>
      refine ⟨?_, List.nil_subset _, List.nodup_nil⟩
      exact (List.filter_eq_self.mpr fun _ _ => decide_eq_true List.not_mem_nil).symm
  | reply split caller =>
      rename_i before after x y
      have only : callers (some y).toList = [x.caller] := by rw [caller]; rfl
      rw [only, split, List.map_append, List.map_append, List.map_cons]
      rw [split, List.map_append, List.map_cons, List.perm_middle.nodup_iff, List.nodup_cons,
        List.mem_append, not_or] at nodup
      obtain ⟨⟨first, last⟩, _⟩ := nodup
      have others {l : List Nat} (absent : x.caller ∉ l) : l.filter (· ∉ [x.caller]) = l := by
        rw [List.filter_eq_self]
        intro m member
        rw [decide_eq_true_eq, List.mem_singleton]
        exact fun same => absent (same ▸ member)
      refine ⟨?_, fun m mine => ?_, by simp⟩
      · rw [List.filter_append, others first, List.filter_cons_of_neg (by simp), others last]
      · rw [List.mem_singleton.mp mine]
        exact List.mem_append_right _ List.mem_cons_self

theorem Table.Gives.of_empty {t u : Table} {reply : Option Reply} (gives : t.Gives (u, reply))
    (empty : t.entries = []) : u = t := by
  cases gives with
  | nothing => rfl
  | reply split =>
      rw [empty] at split
      simp at split

namespace Channel

/-- The replies that an event brings to their callers. -/
def replies (c : Channel) : Event → List Reply
  | .readLine place =>
    match c.processes[place]? with
    | some p =>
      match p.output[p.consumed]? with
      | some bytes => (takeLine p.table bytes).2.toList
      | none => []
    | none => []
  | .drain place =>
    match c.processes[place]? with
    | some p =>
      match p.published with
      | some code => (p.table.failAll code).2
      | none => []
    | none => []
  | _ => []

def repliesOf (c : Channel) : List Event → List Reply
  | [] => []
  | e :: rest => c.replies e ++ ((c.step e).map (·.repliesOf rest)).getD []

/-- What holds at first and is kept by every event that obeys a rule, with the journal and the
replies, holds at the end. -/
theorem Obeys.replies {rule : Channel → Event → Prop}
    {motive : Channel → Journal → List Reply → Prop}
    (kept : ∀ c j r e d, motive c j r → rule c e → c.step e = some d →
      motive d (j ++ c.facts e) (r ++ c.replies e))
    {c d : Channel} {events : List Event} {j : Journal} {r : List Reply}
    (obeys : Obeys rule c events) (run : c.run events = some d) (holds : motive c j r) :
    motive d (j ++ c.journal events) (r ++ c.repliesOf events) := by
  induction events generalizing c j r with
  | nil =>
      cases run
      simpa only [journal, repliesOf, List.append_nil] using holds
  | cons e rest ih =>
      obtain ⟨next, stepped, later⟩ := Option.bind_eq_some_iff.mp run
      have after := ih (obeys.2 next stepped) later (kept c j r e next holds obeys.1 stepped)
      simpa only [journal, repliesOf, stepped, Option.map_some, Option.getD_some,
        List.append_assoc] using after

/-- What holds at first and is kept by every event, with the journal and the replies, holds at the
end of every run. -/
theorem run_replies {motive : Channel → Journal → List Reply → Prop}
    (kept : ∀ c j r e d, motive c j r → c.step e = some d →
      motive d (j ++ c.facts e) (r ++ c.replies e))
    {c d : Channel} {events : List Event} {j : Journal} {r : List Reply}
    (run : c.run events = some d) (holds : motive c j r) :
    motive d (j ++ c.journal events) (r ++ c.repliesOf events) := by
  have obeys : Obeys (fun _ _ => True) c events := obeys_of_all (fun _ _ _ => trivial) c
  exact obeys.replies (fun c j r e d holds _ stepped => kept c j r e d holds stepped) run holds

theorem outcomesFor_append (r more : List Reply) (k : Nat) :
    outcomesFor (r ++ more) k = outcomesFor r k ++ outcomesFor more k := by
  simp only [outcomesFor, List.filter_append, List.map_append]

theorem outcomesFor_eq_nil {r : List Reply} {k : Nat} :
    outcomesFor r k = [] ↔ k ∉ r.map Reply.caller := by
  simp [outcomesFor, List.filter_eq_nil_iff]

variable {c d b : Channel} {e : Event} {j facts : Journal} {r given : List Reply} {i : Nat}
  {s : Send} {phase : SendPhase}

/-- The tables hold the requests that entered them and were neither taken out by their own sends nor
replied to, and replies go to such requests, once. -/
structure Accounted (c : Channel) (j : Journal) (r : List Reply) : Prop where
  table : ∀ (place : Nat) (p : Process), c.processes[place]? = some p →
    p.table.entries.map Entry.caller = (j.kept place).filter (· ∉ callers r)
  once : (callers r).Nodup
  known : ∀ k ∈ callers r, ∃ place, Fact.did .admitted k place ∈ j
  apart : ∀ k place, Fact.did .removed k place ∈ j → k ∉ callers r
  inbox : ∀ (i : Nat) (s : Send), c.sends[i]? = some s → s.phase.listens →
    s.inbox = outcomesFor r i
  shut : ∀ (place : Nat) (p : Process) (code : Option Int), c.processes[place]? = some p →
    p.table.closed = some code → p.IsShut code

theorem Accounted.fresh (accounted : c.Accounted j r) (chronicled : c.Chronicled j)
    (found : c.sends[i]? = some s) (ahead : .admitted ∈ s.phase.ahead) : i ∉ callers r := by
  intro replied
  obtain ⟨place, admitted⟩ := accounted.known i replied
  exact chronicled.ahead i s .admitted place found ahead admitted

theorem Accounted.quiet_table (accounted : c.Accounted j r) (chronicled : c.Chronicled j)
    (seated : c.Seated) (distinct : c.DistinctIds) (move : c.Move e facts d)
    (calm : ∀ place, e ≠ .readLine place ∧ e ≠ .drain place) {place : Nat} {q : Process}
    (at_ : d.processes[place]? = some q) :
    q.table.entries.map Entry.caller = ((j ++ facts).kept place).filter (· ∉ callers r) := by
  cases move.upkeep at_ with
  | starts new same quiet =>
      have nobody (deed : Deed) : j.sends deed place = [] := by
        rw [List.eq_nil_iff_forall_not_mem]
        intro k member
        have known := (chronicled.known _ _ _ (Journal.mem_sends.mp member)).2
        omega
      rw [same, (SameFor.quiet quiet).kept, Journal.kept, nobody .admitted]
      rfl
  | stays found stays _ quiet =>
      rw [stays.table, (SameFor.quiet quiet).kept]
      exact accounted.table place _ found
  | admits found send entered unclosed did same =>
      have unremoved := chronicled.ahead _ _ .removed place send (by simp [entered, SendPhase.ahead])
      rw [← Journal.mem_sends] at unremoved
      have fresh := accounted.fresh chronicled send (by simp [entered, SendPhase.ahead])
      rw [same, did, Journal.kept_admitted unremoved, List.filter_append, List.map_append,
        accounted.table place _ found, List.filter_cons_of_pos (by simpa using fresh)]
      rfl
  | hears found send writing accepts did same =>
      rename_i p k left s
      rw [same, did, Journal.kept_wrote]
      exact accounted.table place p found
  | removes found send phase did same =>
      rename_i p k s
      have left := accounted.table place p found
      have rest : (p.table.remove s.id).entries.map Entry.caller =
          (p.table.entries.map Entry.caller).filter (· != k) := by
        rw [seated.remove distinct found send, List.filter_map]
        rfl
      rw [same]
      show (p.table.remove s.id).entries.map Entry.caller = _
      rw [rest]
      by_cases held : holds p k = true
      · rw [did, if_pos held, Journal.kept_removed, left, List.filter_filter, List.filter_filter]
        refine List.filter_congr fun m _ => Bool.and_comm _ _
      · rw [did, if_neg held, List.append_nil, ← left]
        refine filter_ne_of_not_mem fun member => held ?_
        obtain ⟨x, there, rfl⟩ := List.mem_map.mp member
        exact List.any_eq_true.mpr ⟨x, there, by simp⟩
  | takes _ _ _ _ event => exact absurd event (calm place).1
  | closes _ _ _ _ event => exact absurd event (calm place).2

theorem Turn.listens (turn : c.Turn i s facts b phase) (listens : phase.listens) :
    s.phase.listens ∨ ∃ place, s.phase = .entered place := by
  cases turn with
  | joins entered => exact .inr ⟨_, entered⟩
  | writePart writing | writeAll writing => exact .inl (by rw [writing]; rfl)
  | _ => cases listens

theorem Accounted.quiet_inbox (accounted : c.Accounted j r) (chronicled : c.Chronicled j)
    (seated : c.Seated) (move : c.Move e facts d)
    (calm : ∀ place, e ≠ .readLine place ∧ e ≠ .drain place) {k : Nat} {t : Send}
    (found : d.sends[k]? = some t) (listens : t.phase.listens) :
    t.inbox = outcomesFor r k := by
  cases move with
  | background same =>
      rw [same.sends] at found
      exact accounted.inbox k t found listens
  | arrive id request same =>
      rw [same.sends, send] at found
      by_cases old : k < c.sends.length
      · rw [List.getElem?_append_left old] at found
        exact accounted.inbox k t found listens
      · rw [List.getElem?_append_right (Nat.le_of_not_lt old), List.getElem?_singleton] at found
        split at found
        · cases found
          split at listens
          all_goals cases listens
        · cases found
  | turn before turn =>
      rename_i i s b phase
      rw [lookup_setPhase, turn.sends] at found
      obtain ⟨u, old, rfl⟩ := Option.map_eq_some_iff.mp found
      by_cases same : i = k
      · subst same
        rw [before] at old
        cases old
        rw [if_pos rfl] at listens ⊢
        rcases turn.listens listens with going | ⟨place, entered⟩
        · exact accounted.inbox i s before going
        · have fresh := accounted.fresh chronicled before (by simp [entered, SendPhase.ahead])
          rw [outcomesFor_eq_nil.mpr fresh]
          exact seated.unheard i s before (.inr ⟨place, entered⟩)
      · rw [if_neg same] at listens ⊢
        exact accounted.inbox k u old listens
  | readLine => exact absurd rfl (calm _).1
  | drain => exact absurd rfl (calm _).2

theorem Move.shut (move : c.Move e facts d) {place : Nat} {p : Process} {code : Option Int}
    (found : c.processes[place]? = some p) (shut : p.IsShut code) :
    ∃ q, d.processes[place]? = some q ∧ q.IsShut code := by
  obtain ⟨q, at_, keeps⟩ := move.keeps place p found
  obtain ⟨empty, exited⟩ := shut
  refine ⟨q, at_, ?_, by rw [keeps.published (by rw [exited]; rfl), exited]⟩
  cases move.upkeep at_ with
  | starts new =>
      have inside := (List.getElem?_eq_some_iff.mp found).1
      omega
  | stays found' stays =>
      cases found.symm.trans found'
      rw [stays.table, empty]
  | admits found' _ _ unclosed =>
      cases found.symm.trans found'
      rw [empty] at unclosed
      cases unclosed
  | hears found' _ _ _ _ same =>
      cases found.symm.trans found'
      rw [same]
      exact empty
  | removes found' _ _ _ same =>
      cases found.symm.trans found'
      rw [same, empty]
      rfl
  | takes found' line gave same event =>
      rename_i p' bytes
      cases found.symm.trans found'
      rw [same]
      exact ((takeLine_gives p.table bytes).of_empty (by rw [empty])).trans empty
  | closes found' exited' _ same =>
      cases found.symm.trans found'
      cases exited.symm.trans exited'
      rw [same]
      rfl

/-- A table that is closed is shut. -/
theorem Accounted.step_shut (accounted : c.Accounted j r) (move : c.Move e facts d) {place : Nat}
    {q : Process} {code : Option Int} (at_ : d.processes[place]? = some q)
    (closed : q.table.closed = some code) : q.IsShut code := by
  have stays {p : Process} (found : c.processes[place]? = some p)
      (before : p.table.closed = some code) : q.IsShut code := by
    obtain ⟨q', later, shut⟩ := move.shut found (accounted.shut place p code found before)
    cases at_.symm.trans later
    exact shut
  cases move.upkeep at_ with
  | starts _ same =>
      rw [same] at closed
      cases closed
  | stays found same => exact stays found (same.table ▸ closed)
  | admits found _ _ unclosed _ same | hears found _ _ _ _ same | removes found _ _ _ same =>
      exact stays found (by rwa [same] at closed)
  | takes found line gave same event =>
      rename_i p bytes
      rw [same] at closed
      exact stays found ((@takeLine_entries p.table _ bytes _ rfl).1.symm.trans closed)
  | closes found exited _ same =>
      rw [same] at closed ⊢
      cases closed
      exact ⟨rfl, exited⟩

/-- A send that is taken out of a table was in it. -/
theorem Turn.held (turn : c.Turn i s facts b phase) {k place : Nat}
    (removed : Fact.did .removed k place ∈ facts) :
    ∃ p, c.processes[place]? = some p ∧ k ∈ p.table.entries.map Entry.caller := by
  have entry {p : Process} {m : Nat} (held : holds p m = true) :
      m ∈ p.table.entries.map Entry.caller := by
    obtain ⟨x, member, mine⟩ := List.any_eq_true.mp held
    rw [beq_iff_eq] at mine
    exact mine ▸ List.mem_map_of_mem member
  cases turn with
  | writeFails _ process =>
      split at removed
      · rename_i held
        simp only [List.mem_singleton, Fact.did.injEq, true_and] at removed
        obtain ⟨rfl, rfl⟩ := removed
        exact ⟨_, process, entry held⟩
      · cases removed
  | withdraw =>
      split at removed
      · rename_i held
        simp only [List.mem_singleton, Fact.did.injEq, true_and] at removed
        obtain ⟨rfl, rfl⟩ := removed
        obtain ⟨p, process, held⟩ := Option.map_eq_some_iff.mp held
        exact ⟨p, process, entry held⟩
      · cases removed
  | _ => simp at removed

theorem Accounted.quiet_step (accounted : c.Accounted j r) (chronicled : c.Chronicled j)
    (seated : c.Seated) (distinct : c.DistinctIds) (move : c.Move e facts d)
    (calm : ∀ place, e ≠ .readLine place ∧ e ≠ .drain place) : d.Accounted (j ++ facts) r where
  table place q at_ := accounted.quiet_table chronicled seated distinct move calm at_
  once := accounted.once
  known k replied := by
    obtain ⟨place, admitted⟩ := accounted.known k replied
    exact ⟨place, List.mem_append_left _ admitted⟩
  apart k place removed := by
    rcases List.mem_append.mp removed with old | now
    · exact accounted.apart k place old
    · obtain ⟨s, b, phase, _, turn, _⟩ := move.did now
      obtain ⟨p, process, waiting⟩ := turn.held now
      rw [accounted.table place p process] at waiting
      simpa using (List.mem_filter.mp waiting).2
  inbox i s found listens := accounted.quiet_inbox chronicled seated move calm found listens
  shut place q code at_ closed := accounted.step_shut move at_ closed

/-- A request in a table was admitted to it and neither taken out nor replied to. -/
theorem Accounted.awaited {place k : Nat} {p : Process} (accounted : c.Accounted j r)
    (process : c.processes[place]? = some p) (waits : k ∈ p.table.entries.map Entry.caller) :
    Fact.did .admitted k place ∈ j ∧ Fact.did .removed k place ∉ j ∧ k ∉ callers r := by
  rw [accounted.table place p process, List.mem_filter, decide_eq_true_eq] at waits
  obtain ⟨admitted, unremoved⟩ := List.mem_filter.mp waits.1
  rw [decide_eq_true_eq, Journal.mem_sends] at unremoved
  exact ⟨Journal.mem_sends.mp admitted, unremoved, waits.2⟩

theorem Accounted.reply_table {place home : Nat} {p q : Process} {f : Process → Process}
    (accounted : c.Accounted j r) (chronicled : c.Chronicled j)
    (process : c.processes[place]? = some p)
    (left : (f p).table.entries.map Entry.caller =
      (p.table.entries.map Entry.caller).filter (· ∉ callers given))
    (part : callers given ⊆ p.table.entries.map Entry.caller)
    (at_ : (c.updateProcess place f).processes[home]? = some q) :
    q.table.entries.map Entry.caller = (j.kept home).filter (· ∉ callers (r ++ given)) := by
  rw [lookup_updateProcess] at at_
  obtain ⟨q', found, rfl⟩ := Option.map_eq_some_iff.mp at_
  have split : (j.kept home).filter (· ∉ callers (r ++ given)) =
      (q'.table.entries.map Entry.caller).filter (· ∉ callers given) := by
    rw [accounted.table home q' found, List.filter_filter, callers, List.map_append]
    refine List.filter_congr fun m _ => ?_
    simp only [List.mem_append, not_or, Bool.decide_and, Bool.and_comm]
  rw [split]
  by_cases here : place = home
  · subst here
    rw [process] at found
    cases found
    rw [if_pos rfl, left]
  · rw [if_neg here, eq_comm, List.filter_eq_self]
    intro m member
    rw [decide_eq_true_eq]
    intro replied
    obtain ⟨x, there, rfl⟩ := List.mem_map.mp member
    exact here (chronicled.alone (accounted.awaited process (part replied)).1
      (chronicled.entries home q' x found there))

/-- A step that replies to sends in the table of one process, which it takes out. -/
theorem Accounted.reply_step {place : Nat} {p : Process} {f : Process → Process}
    (accounted : c.Accounted j r) (chronicled : c.Chronicled j) (move : c.Move e facts d)
    (process : c.processes[place]? = some p)
    (still : ∀ deed home, facts.sends deed home = [])
    (same : d = (c.updateProcess place f).deliverAll given)
    (left : (f p).table.entries.map Entry.caller =
      (p.table.entries.map Entry.caller).filter (· ∉ callers given))
    (part : callers given ⊆ p.table.entries.map Entry.caller) (once : (callers given).Nodup) :
    d.Accounted (j ++ facts) (r ++ given) := by
  have sends (deed : Deed) (home : Nat) : (j ++ facts).sends deed home = j.sends deed home := by
    rw [Journal.sends_append, still, List.append_nil]
  have old (deed : Deed) (k home : Nat) : Fact.did deed k home ∈ j ++ facts ↔
      Fact.did deed k home ∈ j := by
    rw [← Journal.mem_sends, ← Journal.mem_sends, sends]
  have all : callers (r ++ given) = callers r ++ callers given := List.map_append
  refine ⟨?_, ?_, ?_, ?_, ?_, fun _ _ _ => accounted.step_shut move⟩
  · intro home q at_
    rw [same, deliverAll_processes] at at_
    rw [Journal.kept, sends, sends]
    exact accounted.reply_table chronicled process left part at_
  · rw [all, List.nodup_append]
    exact ⟨accounted.once, once, fun k before m after same =>
      (accounted.awaited process (part after)).2.2 (same ▸ before)⟩
  · intro k replied
    rw [all, List.mem_append] at replied
    rcases replied with before | now
    · obtain ⟨home, admitted⟩ := accounted.known k before
      exact ⟨home, (old _ _ _).mpr admitted⟩
    · exact ⟨place, (old _ _ _).mpr (accounted.awaited process (part now)).1⟩
  · intro k home removed
    rw [old] at removed
    rw [all, List.mem_append, not_or]
    refine ⟨accounted.apart k home removed, fun now => ?_⟩
    obtain ⟨admitted, unremoved, _⟩ := accounted.awaited process (part now)
    have here := chronicled.alone admitted removed
    subst here
    exact unremoved removed
  · intro k t found listens
    rw [same, lookup_deliverAll] at found
    obtain ⟨s, before, rfl⟩ := Option.map_eq_some_iff.mp found
    rw [Send.hear_phase] at listens
    rw [Send.hear, if_pos listens, outcomesFor_append]
    show s.inbox ++ _ = _
    rw [accounted.inbox k s before listens]

theorem Accounted.step (accounted : c.Accounted j r) (chronicled : c.Chronicled j)
    (seated : c.Seated) (distinct : c.DistinctIds) (happens : c.step e = some d) :
    d.Accounted (j ++ c.facts e) (r ++ c.replies e) := by
  have move := step_move happens
  cases e with
  | readLine place =>
      obtain ⟨p, bytes, process, line, _, same⟩ := readLine_eq_some happens
      have brought : c.replies (.readLine place) = (takeLine p.table bytes).2.toList := by
        simp only [replies, process, line]
      have gave : c.facts (.readLine place) =
          [.gave place ⟨bytes, (takeLine p.table bytes).2.map Reply.caller⟩] := by
        simp only [facts, process, line]
      obtain ⟨left, part, once⟩ :=
        (takeLine_gives p.table bytes).left (seated.callers place p process)
      rw [brought]
      exact accounted.reply_step chronicled move process (by simp [gave]) same left part once
  | drain place =>
      obtain ⟨p, code, process, exited, _, same⟩ := drain_eq_some happens
      have brought : c.replies (.drain place) = (p.table.failAll code).2 := by
        simp only [replies, process, exited]
      have all : callers (p.table.failAll code).2 = p.table.entries.map Entry.caller := by
        rw [callers, Table.failAll, List.map_map]
        rfl
      rw [brought]
      refine accounted.reply_step chronicled move process (fun _ _ => rfl) same ?_ ?_ ?_
      · rw [all, eq_comm]
        exact List.filter_eq_nil_iff.mpr fun k member => by simpa using member
      · rw [all]
        exact List.Subset.refl _
      · rw [all]
        exact seated.callers place p process
  | send | enter | insert | write | writeFails | receive | abandon | expire | withdraw | kill
  | close | probe | acknowledge | endInput | overrun | killCurrent | finish | workerReads
  | workerWrites | workerEndsInput | workerExits | endOutput | obeyKill | reap | publish | tick =>
      rw [show c.replies _ = [] from rfl, List.append_nil]
      exact accounted.quiet_step chronicled seated distinct move fun _ => by simp

end Channel

end ImageSearch.Worker
