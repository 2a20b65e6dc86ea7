import ImageSearch.Proofs.Channel.Writing

set_option autoImplicit false

namespace ImageSearch.Worker

open Recognition

/-- A send that waits in the table of a process has its entry there and has heard nothing. -/
def Send.Waits (s : Send) (place : Nat) : Prop :=
  s.phase.place? = some place ∧ (s.phase.listens ∧ s.inbox = [] ∨ s.phase = .expired place)

namespace Channel

variable {c d b : Channel} {e : Event} {j facts : Journal} {i : Nat} {s : Send}
  {phase : SendPhase}

def DistinctIds (c : Channel) : Prop := (c.sends.map Send.id).Nodup

instance (c : Channel) : Decidable c.DistinctIds := inferInstanceAs (Decidable (List.Nodup _))

theorem DistinctIds.same {k : Nat} {t : Send} (distinct : c.DistinctIds)
    (first : c.sends[i]? = some s) (second : c.sends[k]? = some t) (same : s.id = t.id) :
    i = k := by
  have inside : i < (c.sends.map Send.id).length := by
    rw [List.length_map]
    exact (List.getElem?_eq_some_iff.mp first).1
  have first' : (c.sends.map Send.id)[i]? = some s.id := by rw [List.getElem?_map, first]; rfl
  have second' : (c.sends.map Send.id)[k]? = some t.id := by rw [List.getElem?_map, second]; rfl
  exact (List.getElem?_inj inside distinct).mp (first'.trans (same ▸ second'.symm))

theorem DistinctIds.back (distinct : d.DistinctIds) (move : c.Move e facts d) :
    c.DistinctIds := by
  have kept : c.sends.map Send.id <+: d.sends.map Send.id := by
    rw [List.prefix_iff_getElem?]
    intro k inside
    rw [List.length_map] at inside
    obtain ⟨t, later, id, _⟩ := move.keepsSend (List.getElem?_eq_getElem inside)
    rw [List.getElem?_map, later, List.getElem_map, Option.map_some, id]
  exact distinct.sublist kept.sublist

/-- Every entry belongs to a send that waits, and no send has two entries in a table. -/
structure Seated (c : Channel) : Prop where
  seat : ∀ (place : Nat) (p : Process) (x : Entry), c.processes[place]? = some p →
    x ∈ p.table.entries → ∃ s, c.sends[x.caller]? = some s ∧ s.id = x.id ∧ Send.Waits s place
  callers : ∀ (place : Nat) (p : Process), c.processes[place]? = some p →
    (p.table.entries.map Entry.caller).Nodup
  unheard : ∀ (i : Nat) (s : Send), c.sends[i]? = some s →
    s.phase = .queued ∨ (∃ place, s.phase = .entered place) → s.inbox = []

/-- To take out the entry of an identifier is to take out the entry of the send that has it. -/
theorem Seated.remove {place : Nat} {p : Process} (seated : c.Seated) (distinct : c.DistinctIds)
    (process : c.processes[place]? = some p) (found : c.sends[i]? = some s) :
    (p.table.remove s.id).entries = p.table.entries.filter (·.caller != i) := by
  have owner {x : Entry} (member : x ∈ p.table.entries) : x.id = s.id ↔ x.caller = i := by
    obtain ⟨r, at_, id, _⟩ := seated.seat place p x process member
    constructor
    · intro same
      exact distinct.same at_ found (id.trans same)
    · intro same
      rw [same, found] at at_
      cases at_
      exact id.symm
  have nodup : (p.table.entries.map Entry.id).Nodup := by
    have callers := seated.callers place p process
    rw [List.Nodup, List.pairwise_map] at callers ⊢
    refine callers.imp_of_mem ?_
    intro x y first second other same
    obtain ⟨r, at_, id, _⟩ := seated.seat place p x process first
    obtain ⟨t, there, id', _⟩ := seated.seat place p y process second
    exact other (distinct.same at_ there (by rw [id, id', same]))
  rw [Table.remove, Table.eraseP_eq_filter nodup]
  refine List.filter_congr ?_
  intro x member
  rw [Bool.eq_iff_iff, bne_iff_ne, bne_iff_ne]
  exact not_congr (owner member)

/-- To take out the entry of the identifier of a send in progress is to take out its own entry. -/
def TakesOwn (c : Channel) : Prop :=
  ∀ (place i : Nat) (p : Process) (s : Send), c.processes[place]? = some p →
    c.sends[i]? = some s → s.phase.place? = some place →
    (p.table.remove s.id).entries = p.table.entries.filter (·.caller != i)

theorem Seated.takesOwn (seated : c.Seated) (distinct : c.DistinctIds) : c.TakesOwn :=
  fun _ _ _ _ process found _ => seated.remove distinct process found

/-- No outcome is brought to a send whose entry stays in a table. -/
theorem Seated.unbrought {place : Nat} {p q : Process} {x : Entry} {o : Outcome}
    (seated : c.Seated) (chronicled : c.Chronicled j) (upkeep : c.Upkeep e facts place q)
    (process : c.processes[place]? = some p) (old : x ∈ p.table.entries)
    (at_ : d.processes[place]? = some q) (member : x ∈ q.table.entries)
    (brings : c.Brings facts d x.caller o) : False := by
  have mine := chronicled.entries place p x process old
  cases brings with
  | exit process' _ member' caller _ after =>
      have theirs := chronicled.entries _ _ _ process' member'
      rw [caller] at theirs
      have same := chronicled.alone mine theirs
      subst same
      rw [at_] at after
      cases after
      cases member
  | line process' _ member' caller gave =>
      have theirs := chronicled.entries _ _ _ process' member'
      rw [caller] at theirs
      have same := chronicled.alone mine theirs
      subst same
      cases upkeep with
      | starts _ _ quiet | stays _ _ _ quiet => exact quiet _ (gave ▸ List.mem_singleton_self _) rfl
      | admits _ _ _ _ did | hears _ _ _ _ did =>
          rw [gave] at did
          cases did
      | removes _ _ _ did =>
          rw [gave] at did
          split at did
          · cases did
          · cases did
      | closes _ _ quiet =>
          rw [gave] at quiet
          cases quiet
      | takes found _ gave' same =>
          rw [process] at found
          cases found
          rw [gave] at gave'
          simp only [List.cons.injEq, Fact.gave.injEq, Delivery.mk.injEq, and_true, true_and]
            at gave'
          obtain ⟨rfl, given⟩ := gave'
          subst same
          have callers := seated.callers place p process
          generalize taken : takeLine p.table _ = result at given member
          have gives := taken ▸ takeLine_gives p.table _
          cases gives with
          | nothing => cases given
          | reply split caller =>
              have name := given
              simp only [Option.map_some, Option.some.injEq] at name
              rw [split, List.map_append, List.map_cons, List.perm_middle.nodup_iff,
                List.nodup_cons] at callers
              refine callers.1 ?_
              rw [caller, ← name, ← List.map_append]
              exact List.mem_map_of_mem member

/-- A send whose request enters a table has not waited in one. -/
theorem Seated.not_waiting {place home : Nat} {p : Process} (seated : c.Seated)
    (process : c.processes[place]? = some p) (found : c.sends[i]? = some s)
    (entered : s.phase = .entered home) : i ∉ p.table.entries.map Entry.caller := by
  intro member
  obtain ⟨x, there, rfl⟩ := List.mem_map.mp member
  obtain ⟨r, same, _, _, waits⟩ := seated.seat place p x process there
  rw [found] at same
  cases same
  rw [entered] at waits
  rcases waits with ⟨listens, _⟩ | expired
  · cases listens
  · cases expired

theorem Seated.admitted {place : Nat} (seated : c.Seated) (move : c.Move e facts d)
    (found : c.sends[i]? = some s) (entered : s.phase = .entered place)
    (now : Fact.did .admitted i place ∈ facts) :
    ∃ t, d.sends[i]? = some t ∧ t.id = s.id ∧ t.Waits place := by
  obtain ⟨t, after, id, _⟩ := move.keepsSend found
  refine ⟨t, after, id, ?_⟩
  obtain ⟨r, b, phase, found', turn, last⟩ := move.did now
  obtain ⟨_, left, writing⟩ := turn.admitted now
  subst last
  cases found.symm.trans found'
  rw [lookup_setPhase, turn.sends, found, Option.map_some, if_pos rfl] at after
  cases after
  have silent := seated.unheard i s found (.inr ⟨place, entered⟩)
  exact ⟨by rw [writing]; rfl, .inl ⟨by rw [writing]; rfl, silent⟩⟩

/-- A send that waits goes on waiting through its turn, unless it takes out its own entry. -/
theorem Turn.waits {place : Nat} {p q : Process} (turn : c.Turn i s facts b phase)
    (process : c.processes[place]? = some p) (at_ : b.processes[place]? = some q)
    (kept : q.table ≠ p.table.remove s.id) (present : i ∈ p.table.entries.map Entry.caller)
    (waits : s.Waits place) : ({ s with phase := phase } : Send).Waits place := by
  obtain ⟨here, waits⟩ := waits
  have silent (listens : s.phase.listens) : s.inbox = [] := by
    rcases waits with ⟨_, silent⟩ | expired
    · exact silent
    · rw [expired] at listens
      cases listens
  have sits {home : Nat} (there : s.phase.place? = some home) : home = place := by
    rw [here] at there
    cases there
    rfl
  cases turn with
  | writePart before | writeAll before =>
      have same := sits (by rw [before]; rfl)
      subst same
      exact ⟨rfl, .inl ⟨rfl, silent (by rw [before]; rfl)⟩⟩
  | expire before =>
      have same := sits (by rw [before]; rfl)
      subst same
      exact ⟨rfl, .inr rfl⟩
  | writeFails before process' | withdraw before =>
      have same := sits (by rw [before]; rfl)
      subst same
      rw [lookup_updateProcess, process, Option.map_some, if_pos rfl] at at_
      cases at_
      exact absurd rfl kept
  | receive before heard =>
      rw [silent (by rw [before]; rfl)] at heard
      cases heard
  | abandon before process' _ absent =>
      have same := sits (by rw [before]; rfl)
      subst same
      rw [process] at process'
      cases process'
      obtain ⟨x, member, mine⟩ := List.mem_map.mp present
      have other := List.all_eq_true.mp absent x member
      simp [mine] at other
  | useOpen before | useClosed before | startFails before | starts before | joins before
  | refuse before | kill before =>
      rcases waits with ⟨listens, _⟩ | expired
      · rw [before] at listens
        cases listens
      · rw [before] at expired
        cases expired

section Step

variable (seated : c.Seated) (own : c.TakesOwn) (chronicled : c.Chronicled j)
  (move : c.Move e facts d)

include seated move

include own chronicled in
/-- An entry that stays in a table belongs to a send that goes on waiting. -/
theorem Seated.stays {place : Nat} {p q : Process} {x : Entry}
    (at_ : d.processes[place]? = some q) (member : x ∈ q.table.entries)
    (process : c.processes[place]? = some p) (old : x ∈ p.table.entries) :
    ∃ t, d.sends[x.caller]? = some t ∧ t.id = x.id ∧ t.Waits place := by
  obtain ⟨s, found, id, here, waits⟩ := seated.seat place p x process old
  obtain ⟨t, after, id', _⟩ := move.keepsSend found
  refine ⟨t, after, id'.trans id, ?_⟩
  cases move.course after with
  | arrives new =>
      have inside := (List.getElem?_eq_some_iff.mp found).1
      omega
  | rests same kept brings quiet =>
      rename_i r outcomes
      rw [found] at same
      cases same
      have silent : outcomes = [] := by
        rw [List.eq_nil_iff_forall_not_mem]
        intro o brought
        exact seated.unbrought chronicled (move.upkeep at_) process old at_ member
          (brings o brought)
      rw [kept, silent, Send.hear_nil]
      exact ⟨here, waits⟩
  | turns same turn kept after' =>
      rw [found] at same
      cases same
      subst after'
      rw [kept]
      refine turn.waits process at_ ?_ (List.mem_map_of_mem old) ⟨here, waits⟩
      -- An entry that is taken out by its own send does not stay.
      intro removed
      rw [removed, own place x.caller p s process found here] at member
      simp at member

include own chronicled in
theorem Seated.step_seat {place : Nat} {q : Process} {x : Entry}
    (at_ : d.processes[place]? = some q) (member : x ∈ q.table.entries) :
    ∃ t, d.sends[x.caller]? = some t ∧ t.id = x.id ∧ t.Waits place := by
  have stays {p : Process} := seated.stays own chronicled move (p := p) at_ member
  cases move.upkeep at_ with
  | starts _ same =>
      subst same
      cases member
  | stays found same => exact stays found (same.table ▸ member)
  | hears found _ _ _ _ same => exact stays found (by rwa [same] at member)
  | removes found _ _ _ same =>
      refine stays found ?_
      rw [same] at member
      exact Table.mem_remove member
  | takes found _ _ same =>
      refine stays found ?_
      rw [same] at member
      exact (takeLine_entries rfl).2.1 x member
  | closes _ _ _ same =>
      rw [same] at member
      cases member
  | admits found send entered _ did same =>
      have inside := member
      rw [same] at inside
      rcases List.mem_append.mp inside with old | new
      · exact stays found old
      · rw [List.mem_singleton.mp new]
        exact seated.admitted move send entered (did ▸ List.mem_singleton_self _)

theorem Seated.step_callers {place : Nat} {q : Process} (at_ : d.processes[place]? = some q) :
    (q.table.entries.map Entry.caller).Nodup := by
  cases move.upkeep at_ with
  | starts _ same | closes _ _ _ same =>
      rw [same]
      exact List.nodup_nil
  | stays found same => exact same.table ▸ seated.callers place _ found
  | hears found _ _ _ _ same =>
      have callers := seated.callers place _ found
      subst same
      exact callers
  | removes found _ _ _ same =>
      rw [same]
      exact (seated.callers place _ found).sublist (List.eraseP_sublist.map _)
  | takes found _ _ same =>
      rw [same]
      exact (seated.callers place _ found).sublist ((takeLine_gives _ _).sublist.map _)
  | admits found send entered _ _ same =>
      rw [same, List.map_append, List.nodup_append]
      refine ⟨seated.callers place _ found, by simp, ?_⟩
      intro k old l new also
      rw [List.map_singleton, List.mem_singleton] at new
      rw [also, new] at old
      exact seated.not_waiting found send entered old

theorem Seated.step_unheard {t : Send} (found : d.sends[i]? = some t)
    (early : t.phase = .queued ∨ ∃ place, t.phase = .entered place) : t.inbox = [] := by
  cases move.course found with
  | arrives _ _ silent => exact silent
  | rests old same brings quiet =>
      rename_i s outcomes
      rw [same, Send.hear_phase] at early
      have unheard := seated.unheard i s old early
      have deaf : s.phase.listens = false := by
        rcases early with queued | ⟨place, entered⟩
        · rw [queued]
          rfl
        · rw [entered]
          rfl
      rw [same, Send.hear, if_neg (by simp [deaf]), unheard]
  | turns old turn same after =>
      rename_i s b
      rw [same]
      refine seated.unheard i s old ?_
      generalize t.phase = next at turn early
      cases turn with
      | useOpen before | starts before => exact .inl before
      | _ => simp at early

include own chronicled in
theorem Seated.step : d.Seated where
  seat _ _ _ := seated.step_seat own chronicled move
  callers _ _ := seated.step_callers move
  unheard _ _ := seated.step_unheard move

end Step

end Channel

end ImageSearch.Worker
