import ImageSearch.Proofs.Channel.Alignment
import ImageSearch.Proofs.Channel.Recovery

set_option autoImplicit false

namespace ImageSearch.Worker

open Recognition

namespace Channel

variable {c d b : Channel} {e : Event} {j facts : Journal} {i : Nat} {s : Send}
  {phase : SendPhase}

/-- A send that is given an answer holds or returns it, unless its deadline has passed or its own
line was never written to the end. -/
inductive Fate (j : Journal) (i : Nat) (r : Response) (s : Send) : Prop
  | holds (listens : s.phase.listens) (first : s.inbox.head? = some (.ok r))
  | returned (phase : s.phase = .done (.ok r))
  | late (phase : (∃ place, s.phase = .expired place) ∨ (∃ place, s.phase = .killing place) ∨
      ∃ limit, s.phase = .done (.error (.timeout limit)))
  | unwritten (o : Outcome) (phase : s.phase = .done o) (never : ∀ q, Fact.did .wrote i q ∉ j)

/-- A send that is out of its table was late, or its line was never written to the end. -/
inductive Withdrawn (j : Journal) (i : Nat) (s : Send) : Prop
  | late (phase : (∃ place, s.phase = .killing place) ∨
      ∃ limit, s.phase = .done (.error (.timeout limit)))
  | unwritten (o : Outcome) (phase : s.phase = .done o) (never : ∀ q, Fact.did .wrote i q ∉ j)

structure Fated (c : Channel) (j : Journal) : Prop where
  removed : ∀ (i place : Nat) (s : Send), Fact.did .removed i place ∈ j →
    c.sends[i]? = some s → Withdrawn j i s
  given : ∀ (i place : Nat) (s : Send) (r : Response) (x : Delivery), x ∈ j.reads place →
    x.receiver = some i → LineKind.ofLine x.line = .answer r → c.sends[i]? = some s → Fate j i r s

theorem Withdrawn.step (withdrawn : Withdrawn j i s) (turn : c.Turn i s facts b phase) :
    Withdrawn (j ++ facts) i { s with phase := phase } := by
  cases withdrawn with
  | unwritten o ended => exact absurd ended (turn.undone o)
  | late late =>
      rcases late with ⟨place, killing⟩ | ⟨limit, ended⟩
      · exact .late (.inr (turn.of_killing killing))
      · exact absurd ended (turn.undone _)

theorem Fate.step {r : Response} (fate : Fate j i r s) (turn : c.Turn i s facts b phase)
    (unwritten : ∀ place left, s.phase = .writing place left → ∀ q, Fact.did .wrote i q ∉ j) :
    Fate (j ++ facts) i r { s with phase := phase } := by
  cases fate with
  | returned ended => exact absurd ended (turn.undone _)
  | unwritten o ended => exact absurd ended (turn.undone o)
  | late late =>
      rcases late with ⟨place, expired⟩ | ⟨place, killing⟩ | ⟨limit, ended⟩
      · exact .late (.inr (.inl ⟨place, turn.of_expired expired⟩))
      · exact .late (.inr (.inr (turn.of_killing killing)))
      · exact absurd ended (turn.undone _)
  | holds listens first =>
      cases turn with
      | writePart | writeAll => exact .holds rfl first
      | writeFails before =>
          refine .unwritten _ rfl ?_
          intro q
          rw [List.mem_append, not_or]
          refine ⟨unwritten _ _ before q, ?_⟩
          split
          · simp
          · simp
      | receive before heard =>
          rw [heard, List.head?_cons, Option.some.injEq] at first
          rw [first]
          exact .returned rfl
      | abandon _ _ silent =>
          rw [silent] at first
          cases first
      | expire _ silent =>
          rw [silent] at first
          cases first
      | useOpen before | useClosed before | startFails before | starts before | joins before
      | refuse before | withdraw before | kill before =>
          rw [before] at listens
          cases listens

theorem Fate.hear {r : Response} (fate : Fate j i r s) (outcomes : List Outcome)
    (quiet : ∀ deed place, Fact.did deed i place ∉ facts) :
    Fate (j ++ facts) i r (s.hear outcomes) := by
  cases fate with
  | holds listens first =>
      refine .holds (by rwa [Send.hear_phase]) ?_
      rw [Send.hear, if_pos listens]
      show (s.inbox ++ outcomes).head? = _
      rw [List.head?_append, first]
      rfl
  | returned ended => exact .returned (by rwa [Send.hear_phase])
  | late late => exact .late (by rwa [Send.hear_phase])
  | unwritten o ended never =>
      refine .unwritten o (by rwa [Send.hear_phase]) ?_
      intro q
      rw [List.mem_append, not_or]
      exact ⟨never q, quiet _ q⟩

theorem Withdrawn.hear (withdrawn : Withdrawn j i s) (outcomes : List Outcome)
    (quiet : ∀ deed place, Fact.did deed i place ∉ facts) :
    Withdrawn (j ++ facts) i (s.hear outcomes) := by
  cases withdrawn with
  | late late => exact .late (by rwa [Send.hear_phase])
  | unwritten o ended never =>
      refine .unwritten o (by rwa [Send.hear_phase]) ?_
      intro q
      rw [List.mem_append, not_or]
      exact ⟨never q, quiet _ q⟩

/-- A send that is taken out of its table in a step is late or has failed to write. -/
theorem Turn.removed (turn : c.Turn i s facts b phase) {place : Nat}
    (member : Fact.did .removed i place ∈ facts)
    (unwritten : ∀ place left, s.phase = .writing place left → ∀ q, Fact.did .wrote i q ∉ j) :
    Withdrawn (j ++ facts) i { s with phase := phase } := by
  cases turn with
  | withdraw => exact .late (.inl ⟨_, rfl⟩)
  | writeFails before =>
      refine .unwritten _ rfl ?_
      intro q
      rw [List.mem_append, not_or]
      refine ⟨unwritten _ _ before q, ?_⟩
      split
      · simp
      · simp
  | _ => simp at member

/-- The answer that is read in a step is heard by the send that it is given to, if that listens. -/
theorem Seated.given {place : Nat} {x : Delivery} {r : Response} {t : Send} (seated : c.Seated)
    (move : c.Move e facts d) (member : x ∈ facts.reads place) (receives : x.receiver = some i)
    (reading : LineKind.ofLine x.line = .answer r) (found : d.sends[i]? = some t) :
    Fate (j ++ facts) i r t := by
  cases move with
  | background | arrive | drain => cases member
  | turn _ turn =>
      obtain ⟨fact, there, same⟩ := List.mem_filterMap.mp member
      cases fact with
      | did => cases same
      | gave at_ delivery => exact absurd there (turn.facts_gave at_ delivery)
  | @readLine home p bytes process line _ =>
      rw [Journal.reads_gave, Journal.reads_nil, List.append_nil] at member
      split at member
      case isFalse => cases member
      rw [List.mem_singleton] at member
      subst member
      obtain ⟨reply, gave, rfl⟩ := Option.map_eq_some_iff.mp receives
      obtain ⟨entry, waiting, caller⟩ := (takeLine_entries rfl).2.2 reply gave
      obtain ⟨s, old, _, _, waits⟩ := seated.seat home p entry process waiting
      rw [caller] at old
      rw [lookup_deliverAll, gave] at found
      obtain ⟨s', old', rfl⟩ := Option.map_eq_some_iff.mp found
      rw [show c.sends[reply.caller]? = some s' from old'] at old
      cases old
      rcases waits with ⟨listens, silent⟩ | expired
      · refine .holds (by rwa [Send.hear_phase]) ?_
        rcases takeLine_outcome gave with ⟨response, same, outcome⟩ | ⟨fault, same, _⟩
        · rw [reading] at same
          cases same
          rw [Send.hear, if_pos listens]
          simp [outcomesFor, silent, outcome]
        · rw [reading] at same
          cases same
      · exact .late (.inl ⟨home, by rwa [Send.hear_phase]⟩)

theorem withdrawn_step
    (removed : ∀ (i place : Nat) (s : Send), Fact.did .removed i place ∈ j →
      c.sends[i]? = some s → Withdrawn j i s)
    (chronicled : c.Chronicled j) (move : c.Move e facts d) (k place : Nat) (t : Send)
    (member : Fact.did .removed k place ∈ j ++ facts) (found : d.sends[k]? = some t) :
    Withdrawn (j ++ facts) k t := by
  rcases List.mem_append.mp member with old | now
  · cases move.course found with
    | arrives new =>
        have inside := (chronicled.known _ _ _ old).1
        omega
    | rests before same _ quiet =>
        rw [same]
        exact (removed k place _ old before).hear _ quiet
    | turns before turn same =>
        rw [same]
        exact (removed k place _ old before).step turn
  · obtain ⟨s, b, phase, before, turn, rfl⟩ := move.did now
    rw [lookup_setPhase, turn.sends, before, Option.map_some, if_pos rfl] at found
    cases found
    refine turn.removed now fun place left writing q => ?_
    exact chronicled.ahead k s .wrote q before (by simp [writing, SendPhase.ahead])

theorem Fated.step (fated : c.Fated j) (chronicled : c.Chronicled j) (seated : c.Seated)
    (move : c.Move e facts d) : d.Fated (j ++ facts) := by
  have unwritten {k : Nat} {s : Send} (found : c.sends[k]? = some s) (place left : Nat)
      (writing : s.phase = .writing place left) (q : Nat) : Fact.did .wrote k q ∉ j :=
    chronicled.ahead k s .wrote q found (by simp [writing, SendPhase.ahead])
  refine ⟨fun k place t => withdrawn_step fated.removed chronicled move k place t, ?_⟩
  · intro k place t r x member receives reading found
    rw [Journal.reads_append] at member
    rcases List.mem_append.mp member with old | now
    · cases move.course found with
      | arrives new =>
          have inside := (chronicled.known _ _ _ (chronicled.receivers place k x old receives)).1
          omega
      | rests before same _ quiet =>
          rw [same]
          exact (fated.given k place _ r x old receives reading before).hear _ quiet
      | turns before turn same =>
          rw [same]
          exact (fated.given k place _ r x old receives reading before).step turn (unwritten before)
    · exact seated.given move now receives reading found

def SendPhase.timed : SendPhase → Bool
  | .awaiting _ (some _) | .expired _ | .killing _ | .done (.error (.timeout _)) => true
  | _ => false

/-- Deadlines play a part only where there is a timeout. -/
def Timed (c : Channel) : Prop :=
  ∀ (i : Nat) (s : Send), c.sends[i]? = some s → SendPhase.timed s.phase → c.timeout.isSome

/-- Without a timeout no request that was written is taken out of its table. -/
theorem Fated.unremoved {place : Nat} (fated : c.Fated j) (chronicled : c.Chronicled j)
    (timed : c.Timed) (untimed : c.timeout = none) (wrote : Fact.did .wrote i place ∈ j) :
    Fact.did .removed i place ∉ j := by
  intro removed
  have found := List.getElem?_eq_getElem (chronicled.known _ _ _ wrote).1
  have deadline := timed i _ found
  rw [untimed] at deadline
  cases fated.removed i place _ removed found with
  | unwritten _ _ never => exact never place wrote
  | late late =>
      rcases late with ⟨_, phase⟩ | ⟨_, phase⟩
      all_goals
        rw [phase] at deadline
        cases deadline rfl

theorem Turn.timeout (turn : c.Turn i s facts b phase) : b.timeout = c.timeout := by
  cases turn with
  | kill _ _ same => exact same.timeout
  | _ => rfl

theorem Move.timeout (move : c.Move e facts d) : d.timeout = c.timeout := by
  cases move with
  | background same => exact same.timeout
  | arrive _ _ same => exact same.timeout
  | turn _ turn => exact turn.timeout
  | readLine | drain =>
      rw [deliverAll_frame]
      rfl

theorem Timed.step (timed : c.Timed) (explained : c.Explained j) (move : c.Move e facts d) :
    d.Timed := by
  intro k t found late
  rw [move.timeout]
  cases move.course found with
  | arrives _ _ _ phase =>
      rcases phase with phase | ⟨_, phase⟩
      all_goals
        rw [phase] at late
        cases late
  | rests before same =>
      rw [same, Send.hear_phase] at late
      exact timed k _ before late
  | turns before turn =>
      generalize t.phase = next at turn late
      cases turn with
      | writeAll =>
          unfold Channel.deadline at late
          cases limit : c.timeout with
          | none =>
              rw [limit] at late
              cases late
          | some _ => rfl
      | receive _ heard =>
          have brought := explained.heard k _ _ before (by rw [heard]; exact List.mem_cons_self)
          cases brought
          all_goals cases late
      | expire phase | withdraw phase =>
          exact timed k _ before (by rw [phase]; rfl)
      | kill _ limit =>
          rw [limit]
          rfl
      | useOpen | useClosed | startFails | starts | joins | refuse | writePart | writeFails
      | abandon => cases late

end Channel

end ImageSearch.Worker
