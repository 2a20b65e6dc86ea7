import ImageSearch.Proofs.Channel.Course

set_option autoImplicit false

namespace ImageSearch.Worker

def Process.Spent (p : Process) : Prop := p.isAlive = false ∧ p.consumed = p.output.length

namespace Channel

variable {c d b : Channel} {e : Event} {facts : Journal} {i place : Nat} {s : Send}
  {phase : SendPhase} {p q : Process}

theorem Turn.flow (turn : c.Turn i s facts b phase) (before : c.processes[place]? = some p)
    (after : b.processes[place]? = some q) : c.Flow p q := by
  cases turn with
  | useOpen | useClosed | startFails | refuse | receive | abandon | expire =>
      cases before.symm.trans after
      exact .refl c p
  | starts =>
      have inside := (List.getElem?_eq_some_iff.mp before).1
      rw [List.getElem?_append_left inside, before] at after
      cases after
      exact .refl c p
  | joins | writePart | writeAll | writeFails | withdraw =>
      rw [lookup_updateProcess, before, Option.map_some, Option.some.injEq] at after
      subst after
      split
      · exact .same rfl rfl rfl rfl rfl rfl
      · exact .refl c p
  | kill _ _ same =>
      obtain ⟨r, at_, _, flow⟩ := same.process place p before
      cases at_.symm.trans after
      exact flow

theorem Move.flow (move : c.Move e facts d) (before : c.processes[place]? = some p)
    (after : d.processes[place]? = some q) : c.Flow p q := by
  cases move with
  | background same =>
      obtain ⟨r, at_, _, flow⟩ := same.process place p before
      cases at_.symm.trans after
      exact flow
  | arrive id request same =>
      obtain ⟨r, at_, _, flow⟩ := same.process place p before
      cases at_.symm.trans after
      exact ⟨flow.dead, flow.ended, flow.ends, flow.publishes, flow.reaped⟩
  | turn _ turn => exact turn.flow before after
  | @readLine home r _ process _ unended =>
      rw [deliverAll_processes, lookup_updateProcess, before, Option.map_some,
        Option.some.injEq] at after
      subst after
      by_cases here : home = place
      · subst here
        cases process.symm.trans before
        rw [if_pos rfl]
        -- The output that is read has not ended.
        refine ⟨fun gone => ⟨gone, rfl⟩, fun past => ?_, .inl, .inl, .inl rfl⟩
        rw [unended] at past
        cases past
      · rw [if_neg here]
        exact .refl c p
  | drain =>
      rw [deliverAll_processes, lookup_updateProcess, before, Option.map_some,
        Option.some.injEq] at after
      subst after
      split
      · exact .same rfl rfl rfl rfl rfl rfl
      · exact .refl c p

theorem Move.origin (move : c.Move e facts d) (at_ : d.processes[place]? = some q) :
    (∃ p, c.processes[place]? = some p ∧ c.Flow p q) ∨ q = Process.start (c.spawns + 1) := by
  cases before : c.processes[place]? with
  | some p => exact .inl ⟨p, rfl, move.flow before at_⟩
  | none =>
      cases move.upkeep at_ with
      | starts _ same => exact .inr same
      | stays found | admits found | hears found | removes found | takes found | closes found =>
          rw [before] at found
          cases found

/-- No more is read than was written. -/
def Behind (c : Channel) : Prop :=
  ∀ (place : Nat) (p : Process), c.processes[place]? = some p → p.consumed ≤ p.output.length

theorem Behind.step (behind : c.Behind) (move : c.Move e facts d) : d.Behind := by
  intro place q at_
  cases move.upkeep at_ with
  | starts _ same =>
      rw [same]
      exact Nat.le_refl 0
  | stays found stays =>
      rw [stays.consumed, stays.output, List.length_append]
      exact Nat.le_add_right_of_le (behind place _ found)
  | admits found _ _ _ _ same | hears found _ _ _ _ same | removes found _ _ _ same
  | closes found _ _ same =>
      have before := behind place _ found
      rwa [same]
  | takes _ line _ same =>
      rw [same]
      exact (List.getElem?_eq_some_iff.mp line).1

/-- The end of the output comes before it is overdue. -/
def EndsInTime (c : Channel) (place : Nat) : Prop :=
  ∀ p ∈ c.processes[place]?, c.isOverdue p → p.outputEnded

instance (c : Channel) (place : Nat) : Decidable (c.EndsInTime place) :=
  inferInstanceAs (Decidable (∀ p ∈ c.processes[place]?, c.isOverdue p → p.outputEnded))

theorem EndsInTime.of_canPublish (inTime : c.EndsInTime place)
    (process : c.processes[place]? = some p) (can : c.canPublish p) : p.outputEnded := by
  rcases Bool.or_eq_true_iff.mp (Bool.and_eq_true_iff.mp can).2 with ended | overdue
  · exact ended
  · exact inTime p process overdue

/-- As long as no time passes the end of the output is not late. -/
theorem EndsInTime.step (inTime : c.EndsInTime place) (process : c.processes[place]? = some p)
    (move : c.Move e facts d) (now : d.now = c.now) : d.EndsInTime place := by
  obtain ⟨r, after, _⟩ := move.keeps place p process
  have flow := move.flow process after
  intro q at_ overdue
  cases after.symm.trans at_
  rw [isOverdue, now] at overdue
  rcases flow.reaped with same | noticed
  · rw [same] at overdue
    exact (flow.ended (inTime p process overdue)).1
  · have grace : 0 < drainGrace := by decide
    rw [noticed, decide_eq_true_eq] at overdue
    omega

/-- The output of a process ends when it is dead and all is read, and its exit is published when its
output has ended. -/
structure ReadOut (c : Channel) (place : Nat) : Prop where
  spent : ∀ p, c.processes[place]? = some p → p.outputEnded → p.Spent
  ended : ∀ p, c.processes[place]? = some p → p.published.isSome → p.outputEnded

theorem ReadOut.step (readOut : c.ReadOut place) (inTime : c.EndsInTime place)
    (move : c.Move e facts d) : d.ReadOut place := by
  refine ⟨fun q at_ past => ?_, fun q at_ exited => ?_⟩
  · rcases move.origin at_ with ⟨p, before, flow⟩ | new
    · have kept (past : p.outputEnded) : q.Spent := by
        obtain ⟨gone, all⟩ := readOut.spent p before past
        obtain ⟨still, same⟩ := flow.dead gone
        exact ⟨still, by rw [(flow.ended past).2, same, all]⟩
      rcases flow.ends past with past | overdue | spent
      · exact kept past
      · exact kept (inTime p before overdue)
      · exact spent
    · rw [new] at past
      cases past
  · rcases move.origin at_ with ⟨p, before, flow⟩ | new
    · rcases flow.publishes exited with exited | can
      · exact (flow.ended (readOut.ended p before exited)).1
      · exact (flow.ended (inTime.of_canPublish before can)).1
    · rw [new] at exited
      cases exited

end Channel

end ImageSearch.Worker
