import ImageSearch.Proofs.Channel.Course

set_option autoImplicit false

namespace ImageSearch.Worker.Channel

variable {c d : Channel} {e : Event} {facts : Journal}

/-- The journal agrees with the phases of the sends and with the tables. -/
structure Chronicled (c : Channel) (j : Journal) : Prop where
  deeds : ∀ (i : Nat) (s : Send) (deed : Deed) (place : Nat), c.sends[i]? = some s →
    deed ∈ s.phase.deeds → s.phase.place? = some place → Fact.did deed i place ∈ j
  ahead : ∀ (i : Nat) (s : Send) (deed : Deed) (place : Nat), c.sends[i]? = some s →
    deed ∈ s.phase.ahead → Fact.did deed i place ∉ j
  known : ∀ (deed : Deed) (i place : Nat), Fact.did deed i place ∈ j →
    i < c.sends.length ∧ place < c.processes.length
  directed : ∀ (deed : Deed) (i place : Nat), Fact.did deed i place ∈ j →
    Fact.did .directed i place ∈ j
  once : ∀ (i place q : Nat), Fact.did .directed i place ∈ j → Fact.did .directed i q ∈ j →
    place = q
  nodup : ∀ (deed : Deed) (place : Nat), (j.sends deed place).Nodup
  entries : ∀ (place : Nat) (p : Process) (x : Entry), c.processes[place]? = some p →
    x ∈ p.table.entries → Fact.did .admitted x.caller place ∈ j
  receivers : ∀ (place i : Nat) (x : Delivery), x ∈ j.reads place → x.receiver = some i →
    Fact.did .admitted i place ∈ j

theorem Chronicled.alone {j : Journal} (chronicled : c.Chronicled j) {one other : Deed}
    {i place q : Nat} (first : Fact.did one i place ∈ j) (second : Fact.did other i q ∈ j) :
    place = q :=
  chronicled.once i place q (chronicled.directed one i place first)
    (chronicled.directed other i q second)

theorem Move.reads (move : c.Move e facts d) {place : Nat} {x : Delivery}
    (member : x ∈ facts.reads place) :
    ∃ p bytes, c.processes[place]? = some p ∧ p.output[p.consumed]? = some bytes ∧
      p.outputEnded = false ∧ x = ⟨bytes, (takeLine p.table bytes).2.map Reply.caller⟩ := by
  cases move with
  | background | arrive | drain => cases member
  | turn _ turn => exact absurd (Journal.mem_reads.mp member) (turn.facts_gave place x)
  | readLine process line unended =>
      rw [Journal.reads_gave, Journal.reads_nil, List.append_nil] at member
      split at member
      case isFalse => cases member
      rename_i here
      subst here
      exact ⟨_, _, process, line, unended, List.mem_singleton.mp member⟩

section Step

variable {j : Journal} (chronicled : c.Chronicled j) (move : c.Move e facts d)

include chronicled move

/-- What a send does in a step was ahead of it, and is done with the process to which it has been
directed, or is directed in this step. -/
theorem Chronicled.of_did {deed : Deed} {i place : Nat} (member : Fact.did deed i place ∈ facts) :
    ∃ s, c.sends[i]? = some s ∧ deed ∈ s.phase.ahead ∧
      (Fact.did .directed i place ∈ j ∨ s.phase = .queued ∧
        Fact.did .directed i place ∈ facts ∧ place < d.processes.length ∧
        ∀ q, Fact.did .directed i q ∈ facts → q = place) := by
  obtain ⟨s, b, phase, found, turn, rfl⟩ := move.did member
  obtain ⟨_, ahead, _, here⟩ := turn.facts_did member
  refine ⟨s, found, ahead, ?_⟩
  rcases here with here | here
  · exact .inl (chronicled.deeds i s _ place found (SendPhase.directed_mem here) here)
  · exact .inr here

theorem Chronicled.step_deeds {i place : Nat} {t : Send} {deed : Deed}
    (found : d.sends[i]? = some t) (done : deed ∈ t.phase.deeds)
    (here : t.phase.place? = some place) : Fact.did deed i place ∈ j ++ facts := by
  rw [List.mem_append]
  cases move.course found with
  | arrives _ _ _ phase =>
      rcases phase with phase | ⟨_, phase⟩
      all_goals
        rw [phase] at here
        cases here
  | rests old same =>
      rw [same, Send.hear_phase] at done here
      exact .inl (chronicled.deeds i _ deed place old done here)
  | turns old turn =>
      rcases turn.deeds done here with ⟨before, at_⟩ | now
      · exact .inl (chronicled.deeds i _ deed place old before at_)
      · exact .inr now

theorem Chronicled.step_ahead {i place : Nat} {t : Send} {deed : Deed}
    (found : d.sends[i]? = some t) (ahead : deed ∈ t.phase.ahead) :
    Fact.did deed i place ∉ j ++ facts := by
  rw [List.mem_append, not_or]
  cases move.course found with
  | arrives new quiet =>
      subst quiet
      refine ⟨?_, by simp⟩
      intro member
      have inside := (chronicled.known deed i place member).1
      omega
  | rests old same _ quiet =>
      rw [same, Send.hear_phase] at ahead
      exact ⟨chronicled.ahead i _ deed place old ahead, quiet deed place⟩
  | turns old turn =>
      obtain ⟨before, now⟩ := turn.ahead ahead
      exact ⟨chronicled.ahead i _ deed place old before, now place⟩

theorem Chronicled.step_known {i place : Nat} {deed : Deed}
    (member : Fact.did deed i place ∈ j ++ facts) :
    i < d.sends.length ∧ place < d.processes.length := by
  have more := move.sends_length
  have grown := move.processes_length
  rcases List.mem_append.mp member with old | now
  · have inside := chronicled.known deed i place old
    omega
  · obtain ⟨s, found, _, here⟩ := chronicled.of_did move now
    have inside := (List.getElem?_eq_some_iff.mp found).1
    rcases here with before | ⟨_, _, room, _⟩
    · have known := chronicled.known .directed i place before
      omega
    · omega

theorem Chronicled.step_directed {i place : Nat} {deed : Deed}
    (member : Fact.did deed i place ∈ j ++ facts) : Fact.did .directed i place ∈ j ++ facts := by
  rw [List.mem_append]
  rcases List.mem_append.mp member with old | now
  · exact .inl (chronicled.directed deed i place old)
  · obtain ⟨s, _, _, before | ⟨_, at_, _⟩⟩ := chronicled.of_did move now
    · exact .inl before
    · exact .inr at_

theorem Chronicled.step_once {i place q : Nat} (first : Fact.did .directed i place ∈ j ++ facts)
    (second : Fact.did .directed i q ∈ j ++ facts) : place = q := by
  rcases List.mem_append.mp first with old | now
  · rcases List.mem_append.mp second with also | new
    · exact chronicled.once i place q old also
    · obtain ⟨s, found, ahead, _⟩ := chronicled.of_did move new
      exact absurd old (chronicled.ahead i s .directed place found ahead)
  · obtain ⟨s, found, ahead, here⟩ := chronicled.of_did move now
    rcases List.mem_append.mp second with also | new
    · exact absurd also (chronicled.ahead i s .directed q found ahead)
    · rcases here with before | ⟨_, _, _, only⟩
      · exact absurd before (chronicled.ahead i s .directed place found ahead)
      · exact (only q new).symm

theorem Chronicled.step_nodup (deed : Deed) (place : Nat) :
    ((j ++ facts).sends deed place).Nodup := by
  rw [Journal.sends_append, List.nodup_append]
  refine ⟨chronicled.nodup deed place, ?_, ?_⟩
  · cases move with
    | background | arrive | drain => exact List.nodup_nil
    | readLine => simp
    | turn _ turn => exact turn.facts_once deed place
  · intro i old k now same
    subst same
    rw [Journal.mem_sends] at old now
    obtain ⟨s, found, ahead, _⟩ := chronicled.of_did move now
    exact chronicled.ahead i s deed place found ahead old

theorem Chronicled.step_entries {place : Nat} {q : Process} {x : Entry}
    (at_ : d.processes[place]? = some q) (member : x ∈ q.table.entries) :
    Fact.did .admitted x.caller place ∈ j ++ facts := by
  rw [List.mem_append]
  cases move.upkeep at_ with
  | starts _ same =>
      subst same
      cases member
  | stays found stays =>
      rw [stays.table] at member
      exact .inl (chronicled.entries place _ x found member)
  | admits found send _ _ did same =>
      subst same
      rcases List.mem_append.mp member with old | new
      · exact .inl (chronicled.entries place _ x found old)
      · rw [List.mem_singleton.mp new, did]
        exact .inr (List.mem_singleton_self _)
  | hears found _ _ _ _ same =>
      subst same
      exact .inl (chronicled.entries place _ x found member)
  | removes found _ _ _ same =>
      subst same
      exact .inl (chronicled.entries place _ x found (Table.mem_remove member))
  | takes found _ _ same =>
      subst same
      exact .inl (chronicled.entries place _ x found ((takeLine_entries rfl).2.1 x member))
  | closes _ _ _ same =>
      subst same
      cases member

theorem Chronicled.step_receivers {place i : Nat} {x : Delivery}
    (member : x ∈ (j ++ facts).reads place) (receives : x.receiver = some i) :
    Fact.did .admitted i place ∈ j ++ facts := by
  rw [List.mem_append]
  rw [Journal.reads_append] at member
  rcases List.mem_append.mp member with old | now
  · exact .inl (chronicled.receivers place i x old receives)
  · obtain ⟨p, bytes, process, _, _, rfl⟩ := move.reads now
    obtain ⟨reply, gave, rfl⟩ := Option.map_eq_some_iff.mp receives
    obtain ⟨entry, waiting, caller⟩ := (takeLine_entries rfl).2.2 reply gave
    exact .inl (caller ▸ chronicled.entries place p entry process waiting)

theorem Chronicled.step : d.Chronicled (j ++ facts) where
  deeds _ _ _ _ := chronicled.step_deeds move
  ahead _ _ _ _ := chronicled.step_ahead move
  known _ _ _ := chronicled.step_known move
  directed _ _ _ := chronicled.step_directed move
  once _ _ _ := chronicled.step_once move
  nodup := chronicled.step_nodup move
  entries _ _ _ := chronicled.step_entries move
  receivers _ _ _ := chronicled.step_receivers move

end Step

end ImageSearch.Worker.Channel
