import ImageSearch.Proofs.Channel.Chronicle

set_option autoImplicit false

namespace ImageSearch.Worker

open Recognition

def SendPhase.locks : SendPhase → Bool
  | .entered _ | .writing _ _ => true
  | _ => false

theorem Journal.sends_quiet {facts : Journal} {place : Nat}
    (quiet : ∀ fact ∈ facts, fact.about ≠ some place) {deed : Deed}
    (pipe : deed ≠ .directed ∧ deed ≠ .started) : facts.sends deed place = [] := by
  rw [List.eq_nil_iff_forall_not_mem]
  intro i member
  have away := quiet _ (Journal.mem_sends.mp member)
  cases deed with
  | directed => exact pipe.1 rfl
  | started => exact pipe.2 rfl
  | _ => exact away rfl

theorem Journal.reads_quiet {facts : Journal} {place : Nat}
    (quiet : ∀ fact ∈ facts, fact.about ≠ some place) : facts.reads place = [] := by
  rw [Journal.reads, List.filterMap_eq_nil_iff]
  intro fact member
  cases fact with
  | did => rfl
  | gave at_ delivery =>
      have away : at_ ≠ place := fun same => quiet _ member (congrArg some same)
      simp only [if_neg away]

namespace Channel

variable {c d b : Channel} {e : Event} {j facts : Journal} {i : Nat} {s : Send}
  {phase : SendPhase}

/-- The lock is free for a send that takes it, and is kept or given back by the one with it. -/
theorem Turn.lock (turn : c.Turn i s facts b phase) :
    (s.phase.locks ∧ b.lock = c.lock ∧ phase.locks) ∨
      (s.phase.locks ∧ b.lock = none ∧ phase.locks = false) ∨
      (c.lock = none ∧ b.lock = some i ∧ phase.locks) ∨
      (s.phase.locks = false ∧ b.lock = c.lock ∧ phase.locks = false) := by
  cases turn with
  | useOpen _ free | starts _ free => exact .inr (.inr (.inl ⟨free, rfl, rfl⟩))
  | useClosed before | startFails before | receive before | abandon before | expire before
  | withdraw before => exact .inr (.inr (.inr ⟨by rw [before]; rfl, rfl, rfl⟩))
  | kill before _ same => exact .inr (.inr (.inr ⟨by rw [before]; rfl, same.lock, rfl⟩))
  | joins before | writePart before => exact .inl ⟨by rw [before]; rfl, rfl, rfl⟩
  | refuse before | writeAll before | writeFails before =>
      exact .inr (.inl ⟨by rw [before]; rfl, rfl, rfl⟩)

/-- A send that is about to insert its request or to write its line holds the lock. -/
def Locked (c : Channel) : Prop :=
  ∀ (i : Nat) (s : Send), c.sends[i]? = some s → s.phase.locks → c.lock = some i

theorem Locked.step (locked : c.Locked) (move : c.Move e facts d) : d.Locked := by
  intro k t found holds
  cases move with
  | background same =>
      rw [same.lock]
      rw [same.sends] at found
      exact locked k t found holds
  | arrive id request same =>
      rw [same.lock]
      rw [same.sends, send] at found
      by_cases old : k < c.sends.length
      · rw [List.getElem?_append_left old] at found
        exact locked k t found holds
      · rw [List.getElem?_append_right (Nat.le_of_not_lt old), List.getElem?_singleton] at found
        split at found
        · cases found
          split at holds
          all_goals cases holds
        · cases found
  | turn before turn =>
      rename_i i r b phase
      rw [lookup_setPhase, turn.sends] at found
      obtain ⟨s, old, rfl⟩ := Option.map_eq_some_iff.mp found
      show b.lock = some k
      by_cases same : i = k
      · subst same
        rw [before] at old
        cases old
        rw [if_pos rfl] at holds
        rcases turn.lock with ⟨taken, kept, _⟩ | ⟨_, _, free⟩ | ⟨_, taken, _⟩ | ⟨_, _, free⟩
        · rw [kept, locked i r before taken]
        · rw [free] at holds
          cases holds
        · exact taken
        · rw [free] at holds
          cases holds
      · rw [if_neg same] at holds
        have mine := locked k s old holds
        have others (taken : r.phase.locks) : False := by
          have theirs := locked i r before taken
          rw [mine, Option.some.injEq] at theirs
          exact same theirs.symm
        rcases turn.lock with ⟨taken, _⟩ | ⟨taken, _⟩ | ⟨free, _⟩ | ⟨_, kept, _⟩
        · exact absurd taken others
        · exact absurd taken others
        · rw [mine] at free
          cases free
        · exact kept.trans mine
  | readLine | drain =>
      rw [deliverAll_frame]
      rw [lookup_deliverAll] at found
      obtain ⟨s, old, rfl⟩ := Option.map_eq_some_iff.mp found
      rw [Send.hear_phase] at holds
      exact locked k s old holds

/-- The lock is held only by a send that is about to insert its request or to write its line. -/
def Held (c : Channel) : Prop :=
  ∀ i, c.lock = some i → ∃ s, c.sends[i]? = some s ∧ s.phase.locks

theorem Held.step (held : c.Held) (move : c.Move e facts d) : d.Held := by
  intro k taken
  cases move with
  | background same =>
      rw [same.sends]
      exact held k (same.lock ▸ taken)
  | arrive id request same =>
      obtain ⟨s, found, locks⟩ := held k (same.lock ▸ taken)
      refine ⟨s, ?_, locks⟩
      rw [same.sends, send, List.getElem?_append_left (List.getElem?_eq_some_iff.mp found).1, found]
  | turn before turn =>
      rename_i i r b phase
      have kept (taken : c.lock = some k) (locks : i = k → phase.locks) :
          ∃ t, (b.setPhase i phase).sends[k]? = some t ∧ t.phase.locks := by
        obtain ⟨s, found, holds⟩ := held k taken
        rw [lookup_setPhase, turn.sends, found]
        refine ⟨_, rfl, ?_⟩
        by_cases same : i = k
        · simpa only [if_pos same] using locks same
        · simpa only [if_neg same] using holds
      have lock : b.lock = some k := taken
      rcases turn.lock with ⟨_, same, locks⟩ | ⟨_, free, _⟩ | ⟨_, mine, locks⟩ | ⟨apart, same, _⟩
      · exact kept (same ▸ lock) fun _ => locks
      · rw [free] at lock
        cases lock
      · cases mine.symm.trans lock
        rw [lookup_setPhase, turn.sends, before, Option.map_some, if_pos rfl]
        exact ⟨_, rfl, locks⟩
      · refine kept (same ▸ lock) fun here => ?_
        subst here
        obtain ⟨s, found, holds⟩ := held i (same ▸ lock)
        cases before.symm.trans found
        rw [apart] at holds
        cases holds
  | readLine | drain =>
      rw [deliverAll_frame] at taken
      obtain ⟨s, found, locks⟩ := held k taken
      rw [lookup_deliverAll]
      exact ⟨_, congrArg (Option.map _) found, by rwa [Send.hear_phase]⟩

/-- The lines that are written to a process are those of the sends that wrote, in order, which come
first among the admitted ones. While the process takes input, at most one admitted request is yet
to be written. -/
structure Written (c : Channel) (j : Journal) : Prop where
  first : ∀ place, j.sends .wrote place <+: j.sends .admitted place
  unwritten : ∀ (place i : Nat) (p : Process), c.processes[place]? = some p → p.acceptsInput →
    Fact.did .admitted i place ∈ j → Fact.did .wrote i place ∈ j ∨
      ∃ s left, c.sends[i]? = some s ∧ s.phase = .writing place left
  count : ∀ (place : Nat) (p : Process), c.processes[place]? = some p →
    p.lines.length = (j.sends .wrote place).length
  line : ∀ (place n i : Nat) (p : Process) (s : Send), c.processes[place]? = some p →
    (j.sends .wrote place)[n]? = some i → c.sends[i]? = some s → p.lines[n]? = some s.line

/-- The send that ends a line is the next one in the order of admission. -/
theorem Written.next {place left : Nat} {p : Process} (written : c.Written j) (locked : c.Locked)
    (chronicled : c.Chronicled j) (found : c.sends[i]? = some s)
    (writing : s.phase = .writing place left) (process : c.processes[place]? = some p)
    (accepts : p.acceptsInput) :
    j.sends .admitted place = j.sends .wrote place ++ [i] := by
  obtain ⟨rest, split⟩ := written.first place
  have nodup := chronicled.nodup .admitted place
  rw [← split, List.nodup_append] at nodup
  have only (k : Nat) (member : k ∈ rest) : k = i := by
    have admitted : Fact.did .admitted k place ∈ j := by
      rw [← Journal.mem_sends, ← split]
      exact List.mem_append_right _ member
    rcases written.unwritten place k p process accepts admitted with wrote | ⟨r, _, other, same⟩
    · exact absurd rfl (nodup.2.2 k (Journal.mem_sends.mpr wrote) k member)
    · have theirs := locked k r other (by rw [same]; rfl)
      have mine := locked i s found (by rw [writing]; rfl)
      rw [mine, Option.some.injEq] at theirs
      exact theirs.symm
  have here : i ∈ rest := by
    have admitted := chronicled.deeds i s .admitted place found
      (by simp [writing, SendPhase.deeds]) (by rw [writing]; rfl)
    rw [← Journal.mem_sends, ← split] at admitted
    refine (List.mem_append.mp admitted).resolve_left ?_
    intro wrote
    refine chronicled.ahead i s .wrote place found ?_ (Journal.mem_sends.mp wrote)
    simp [writing, SendPhase.ahead]
  have single : rest = [i] := by
    cases rest with
    | nil => cases here
    | cons k others =>
        rw [only k List.mem_cons_self] at nodup ⊢
        cases others with
        | nil => rfl
        | cons l more =>
            rw [only l (List.mem_cons_of_mem _ List.mem_cons_self)] at nodup
            have twice := nodup.2.1
            simp at twice
  rw [← split, single]

theorem Turn.admitted (turn : c.Turn i s facts b phase) {k place : Nat}
    (member : Fact.did .admitted k place ∈ facts) :
    k = i ∧ ∃ left, phase = .writing place left := by
  refine ⟨(turn.facts_did member).1, ?_⟩
  cases turn with
  | joins =>
      simp only [List.mem_singleton, Fact.did.injEq, true_and] at member
      rw [member.2]
      exact ⟨_, rfl⟩
  | writeFails | withdraw =>
      split at member
      · simp at member
      · cases member
  | _ => simp at member

theorem Turn.wrote (turn : c.Turn i s facts b phase) {k place : Nat}
    (member : Fact.did .wrote k place ∈ facts) :
    facts = [.did .wrote i place] ∧ (∃ left, s.phase = .writing place left) ∧
      ∃ p, c.processes[place]? = some p ∧ p.acceptsInput := by
  cases turn with
  | writeAll writing process accepts =>
      simp only [List.mem_singleton, Fact.did.injEq, true_and] at member
      rw [member.2]
      exact ⟨rfl, ⟨_, writing⟩, _, process, accepts⟩
  | writeFails | withdraw =>
      split at member
      · simp at member
      · cases member
  | _ => simp at member

/-- A send that writes goes on, or ends its line, or finds the input broken. -/
theorem Turn.of_writing (turn : c.Turn i s facts b phase) {place left : Nat}
    (writing : s.phase = .writing place left) :
    (∃ rest, phase = .writing place rest) ∨ Fact.did .wrote i place ∈ facts ∨
      ∃ p, c.processes[place]? = some p ∧ p.acceptsInput = false := by
  cases turn with
  | writePart before =>
      rw [writing] at before
      cases before
      exact .inl ⟨_, rfl⟩
  | writeAll before =>
      rw [writing] at before
      cases before
      exact .inr (.inl (by simp))
  | writeFails before process broken =>
      rw [writing] at before
      cases before
      exact .inr (.inr ⟨_, process, broken⟩)
  | useOpen before | useClosed before | startFails before | starts before | joins before
  | refuse before | receive before | abandon before | expire before | withdraw before
  | kill before =>
      rw [writing] at before
      cases before

theorem Written.step_first (written : c.Written j) (locked : c.Locked)
    (chronicled : c.Chronicled j) (move : c.Move e facts d) (place : Nat) :
    (j ++ facts).sends .wrote place <+: (j ++ facts).sends .admitted place := by
  rw [Journal.sends_append, Journal.sends_append]
  cases now : facts.sends .wrote place with
  | nil =>
      rw [List.append_nil]
      exact (written.first place).trans (List.prefix_append _ _)
  | cons k rest =>
      have member : Fact.did .wrote k place ∈ facts := by
        rw [← Journal.mem_sends, now]
        exact List.mem_cons_self
      obtain ⟨s, b, phase, found, turn, _⟩ := move.did member
      obtain ⟨single, ⟨left, writing⟩, p, process, accepts⟩ := turn.wrote member
      subst single
      have same := written.next locked chronicled found writing process accepts
      simp only [Journal.sends_did, Journal.sends_nil, and_self, if_true, List.append_nil,
        List.cons.injEq, true_and] at now
      rw [same, ← now]
      exact List.prefix_append _ _

theorem Written.step_unwritten (written : c.Written j) (chronicled : c.Chronicled j)
    (move : c.Move e facts d) {place k : Nat} {q : Process} (at_ : d.processes[place]? = some q)
    (accepts : q.acceptsInput) (admitted : Fact.did .admitted k place ∈ j ++ facts) :
    Fact.did .wrote k place ∈ j ++ facts ∨
      ∃ t left, d.sends[k]? = some t ∧ t.phase = .writing place left := by
  rcases List.mem_append.mp admitted with old | now
  · have inside := (chronicled.known _ _ _ old).2
    obtain ⟨r, later, keeps⟩ := move.keeps place _ (List.getElem?_eq_getElem inside)
    rw [at_] at later
    cases later
    have before := keeps.acceptsInput accepts
    rcases written.unwritten place k _ (List.getElem?_eq_getElem inside) before old with
      wrote | ⟨s, left, found, writing⟩
    · exact .inl (List.mem_append_left _ wrote)
    · obtain ⟨t, after, _⟩ := move.keepsSend found
      cases move.course after with
      | arrives new =>
          have room := (List.getElem?_eq_some_iff.mp found).1
          omega
      | rests same kept =>
          rw [found] at same
          cases same
          exact .inr ⟨t, left, after, by rw [kept, Send.hear_phase, writing]⟩
      | turns same turn =>
          rw [found] at same
          cases same
          rcases turn.of_writing writing with ⟨rest, going⟩ | wrote | ⟨p, process, broken⟩
          · exact .inr ⟨t, rest, after, going⟩
          · exact .inl (List.mem_append_right _ wrote)
          · rw [List.getElem?_eq_getElem inside] at process
            cases process
            rw [broken] at before
            cases before
  · obtain ⟨s, b, phase, found, turn, rfl⟩ := move.did now
    obtain ⟨_, left, writing⟩ := turn.admitted now
    refine .inr ⟨{ s with phase := phase }, left, ?_, writing⟩
    rw [lookup_setPhase, turn.sends, found, Option.map_some, if_pos rfl]

theorem Move.lines (move : c.Move e facts d) {place : Nat} {q : Process}
    (at_ : d.processes[place]? = some q) :
    (facts.sends .wrote place = [] ∧
      ((c.processes.length ≤ place ∧ q.lines = []) ∨
        ∃ p, c.processes[place]? = some p ∧ q.lines = p.lines)) ∨
      ∃ i s p, c.sends[i]? = some s ∧ c.processes[place]? = some p ∧
        facts.sends .wrote place = [i] ∧ q.lines = p.lines ++ [s.line] := by
  have away : Deed.wrote ≠ .directed ∧ Deed.wrote ≠ .started := by decide
  cases move.upkeep at_ with
  | starts new same quiet =>
      exact .inl ⟨Journal.sends_quiet quiet away, .inl ⟨new, by rw [same]; rfl⟩⟩
  | stays found stays _ quiet =>
      exact .inl ⟨Journal.sends_quiet quiet away, .inr ⟨_, found, stays.lines⟩⟩
  | admits found _ _ _ did same =>
      exact .inl ⟨by simp [did], .inr ⟨_, found, by rw [same]⟩⟩
  | hears found send _ _ did same =>
      exact .inr ⟨_, _, _, send, found, by simp [did], by rw [same]⟩
  | removes found _ _ did same =>
      refine .inl ⟨?_, .inr ⟨_, found, by rw [same]⟩⟩
      rw [did]
      split
      · simp
      · rfl
  | takes found _ gave same => exact .inl ⟨by simp [gave], .inr ⟨_, found, by rw [same]⟩⟩
  | closes found _ quiet same => exact .inl ⟨by rw [quiet]; rfl, .inr ⟨_, found, by rw [same]⟩⟩

theorem Written.step_count (written : c.Written j) (chronicled : c.Chronicled j)
    (move : c.Move e facts d) {place : Nat} {q : Process} (at_ : d.processes[place]? = some q) :
    q.lines.length = ((j ++ facts).sends .wrote place).length := by
  rw [Journal.sends_append, List.length_append]
  rcases move.lines at_ with ⟨none_, ⟨new, empty⟩ | ⟨p, found, same⟩⟩ |
    ⟨i, s, p, _, found, one, same⟩
  · have nobody : j.sends .wrote place = [] := by
      rw [List.eq_nil_iff_forall_not_mem]
      intro k member
      have known := (chronicled.known _ _ _ (Journal.mem_sends.mp member)).2
      omega
    rw [none_, empty, nobody]
    rfl
  · rw [none_, same, written.count place p found]
    rfl
  · rw [one, same, List.length_append, written.count place p found]
    rfl

/-- A line that was written stays the line of the send that wrote it. -/
theorem Written.kept_line (written : c.Written j) (chronicled : c.Chronicled j)
    (move : c.Move e facts d) {place n k : Nat} {p : Process} {t : Send}
    (found : c.processes[place]? = some p) (which : (j.sends .wrote place)[n]? = some k)
    (after : d.sends[k]? = some t) : p.lines[n]? = some t.line := by
  have member := Journal.mem_sends.mp (List.mem_of_getElem? which)
  have inside := (chronicled.known _ _ _ member).1
  obtain ⟨u, later, _, _, line⟩ := move.keepsSend (List.getElem?_eq_getElem inside)
  rw [after] at later
  cases later
  rw [line]
  exact written.line place n k p _ found which (List.getElem?_eq_getElem inside)

theorem Written.step_line (written : c.Written j) (chronicled : c.Chronicled j)
    (move : c.Move e facts d) {place n k : Nat} {q : Process} {t : Send}
    (at_ : d.processes[place]? = some q)
    (which : ((j ++ facts).sends .wrote place)[n]? = some k) (after : d.sends[k]? = some t) :
    q.lines[n]? = some t.line := by
  rw [Journal.sends_append] at which
  rcases move.lines at_ with ⟨none_, ⟨new, empty⟩ | ⟨p, found, same⟩⟩ |
    ⟨i, s, p, send, found, one, same⟩
  · rw [none_, List.append_nil] at which
    have member := Journal.mem_sends.mp (List.mem_of_getElem? which)
    have known := (chronicled.known _ _ _ member).2
    omega
  · rw [none_, List.append_nil] at which
    rw [same]
    exact written.kept_line chronicled move found which after
  · rw [one] at which
    rw [same]
    have count := written.count place p found
    by_cases old : n < (j.sends .wrote place).length
    · rw [List.getElem?_append_left old] at which
      rw [List.getElem?_append_left (by omega)]
      exact written.kept_line chronicled move found which after
    · rw [List.getElem?_append_right (Nat.le_of_not_lt old), List.getElem?_singleton] at which
      rw [List.getElem?_append_right (by omega), List.getElem?_singleton]
      split at which
      · rename_i last
        cases which
        obtain ⟨u, later, _, _, line⟩ := move.keepsSend send
        rw [after] at later
        cases later
        rw [if_pos (by omega), line]
      · cases which

theorem Written.step (written : c.Written j) (locked : c.Locked) (chronicled : c.Chronicled j)
    (move : c.Move e facts d) : d.Written (j ++ facts) where
  first := written.step_first locked chronicled move
  unwritten := fun _ _ _ at_ accepts admitted =>
    written.step_unwritten chronicled move at_ accepts admitted
  count := fun _ _ at_ => written.step_count chronicled move at_
  line := fun _ _ _ _ _ at_ which after => written.step_line chronicled move at_ which after

end Channel

end ImageSearch.Worker
