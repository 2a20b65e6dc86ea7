import ImageSearch.Proofs.Channel.Effect
import ImageSearch.Proofs.Channel.Conclusion
import ImageSearch.Proofs.Channel.Isolation
import ImageSearch.Proofs.Channel.Asking

set_option autoImplicit false

namespace ImageSearch.Worker

open Recognition

/-- The process for whose exit a close waits. -/
def ClosePhase.aim? : ClosePhase → Option Nat
  | .waiting place _ | .killing place | .lingering place => some place
  | .probing | .asking _ | .ending | .done => none

namespace Channel

variable {b c d : Channel} {e : Event} {j facts : Journal} {m n place : Nat} {k : Close}
  {id : RequestId} {request : Request} {phase : ClosePhase}

def Idle (c : Channel) : Prop := c.Finished ∧ ∀ k ∈ c.closes, k.phase = .done

instance (c : Channel) : Decidable c.Idle :=
  inferInstanceAs (Decidable (c.Finished ∧ ∀ k ∈ c.closes, k.phase = .done))

/-- A call is made only after the ones before it have returned. -/
def OneAtATime (c : Channel) (e : Event) : Prop := e.isCall = true → c.Idle

instance (c : Channel) (e : Event) : Decidable (c.OneAtATime e) :=
  inferInstanceAs (Decidable (e.isCall = true → c.Idle))

theorem OneAtATime.of_calm (calm : e.isCall = false) : c.OneAtATime e := by
  intro call
  rw [calm] at call
  cases call

theorem Idle.settled (idle : c.Idle) : c.Settled := fun _ _ found => idle.1.done found

theorem Idle.closed (idle : c.Idle) (found : c.closes[m]? = some k) : k.phase = .done :=
  idle.2 k (List.mem_of_getElem? found)

/-- Only the last send and the last close can be in progress. A close in progress asks by the last
send, or no send is in progress, and it waits for the process in the slot. -/
structure Single (c : Channel) : Prop where
  send : ∀ (i : Nat) (s : Send), c.sends[i]? = some s →
    (∃ o, s.phase = .done o) ∨ i + 1 = c.sends.length
  close : ∀ (m : Nat) (k : Close), c.closes[m]? = some k →
    k.phase = .done ∨ m + 1 = c.closes.length
  asking : ∀ (m i : Nat) (k : Close), c.closes[m]? = some k → k.phase = .asking i →
    i + 1 = c.sends.length
  alone : ∀ (m : Nat) (k : Close), c.closes[m]? = some k →
    c.Settled ∨ k.phase = .done ∨ ∃ i, k.phase = .asking i
  aim : ∀ (m place : Nat) (k : Close), c.closes[m]? = some k → k.phase.aim? = some place →
    c.slot = some place

section Steps

theorem Event.quiet_or_send (other : e.isClosing = false) :
    e.isDemand = false ∨ ∃ id request, e = .send id request := by
  cases e with
  | send id request => exact .inr ⟨id, request, rfl⟩
  | close | probe => cases other
  | _ => exact .inl rfl

theorem Event.quiet (other : e.isClosing = false) (calm : e.isCall = false) :
    e.isDemand = false := by
  refine (Event.quiet_or_send other).resolve_right ?_
  rintro ⟨id, request, rfl⟩
  cases calm

theorem Move.same_length (move : c.Move e facts d) (quiet : e.isDemand = false) :
    d.sends.length = c.sends.length := by
  simpa only [List.length_map] using congrArg List.length (move.ids quiet)

/-- Where all sends have returned, only tasks and workers act. -/
theorem Settled.step (settled : c.Settled) (move : c.Move e facts d)
    (quiet : e.isDemand = false) : d.Settled := by
  intro i t found
  cases move.course found with
  | arrives new =>
      have inside := (List.getElem?_eq_some_iff.mp found).1
      have same := move.same_length quiet
      omega
  | rests old same =>
      obtain ⟨o, ended⟩ := settled i _ old
      exact ⟨o, by rw [same, Send.hear_phase, ended]⟩
  | turns old turn =>
      obtain ⟨o, ended⟩ := settled i _ old
      exact absurd ended (turn.undone o)

theorem Settled.slot (settled : c.Settled) (move : c.Move e facts d) :
    d.slot = c.slot ∧ d.spawns = c.spawns := by
  cases move with
  | background same => exact ⟨same.slot, same.spawns⟩
  | arrive _ _ same => exact ⟨same.slot, same.spawns⟩
  | turn found turn =>
      obtain ⟨o, ended⟩ := settled _ _ found
      exact absurd ended (turn.undone o)
  | readLine | drain =>
      rw [deliverAll_frame]
      exact ⟨rfl, rfl⟩

end Steps

section OneCall

theorem Single.quiet (single : c.Single) (move : c.Move e facts d) (quiet : e.isDemand = false)
    (same : d.closes = c.closes) : d.Single := by
  have size := move.same_length quiet
  refine ⟨?_, ?_, ?_, ?_, ?_⟩
  · intro i t found
    rw [size]
    cases move.course found with
    | arrives new =>
        have inside := (List.getElem?_eq_some_iff.mp found).1
        omega
    | rests old hears =>
        rw [hears, Send.hear_phase]
        exact single.send i _ old
    | turns old turn =>
        refine .inr ((single.send i _ old).resolve_left ?_)
        rintro ⟨o, ended⟩
        exact turn.undone o ended
  · rw [same]
    exact single.close
  · rw [same, size]
    exact single.asking
  · intro m k found
    rw [same] at found
    exact (single.alone m k found).imp_left fun settled => settled.step move quiet
  · intro m place k found aim
    rw [same] at found
    rcases single.alone m k found with settled | ended | ⟨i, asking⟩
    · rw [(settled.slot move).1]
      exact single.aim m place k found aim
    · rw [ended] at aim
      cases aim
    · rw [asking] at aim
      cases aim

theorem Idle.single_send (idle : c.Idle) (id : RequestId) (request : Request) :
    (c.send id request).Single := by
  have size : (c.send id request).sends.length = c.sends.length + 1 := List.length_append
  refine ⟨?_, ?_, ?_, ?_, ?_⟩
  · intro i s found
    have inside := (List.getElem?_eq_some_iff.mp found).1
    by_cases old : i < c.sends.length
    · rw [Channel.send, List.getElem?_append_left old] at found
      exact .inl (idle.settled i s found)
    · exact .inr (by omega)
  · exact fun m k found => .inl (idle.closed found)
  · intro m i k found asking
    rw [idle.closed found] at asking
    cases asking
  · exact fun m k found => .inr (.inl (idle.closed found))
  · intro m place k found aim
    rw [idle.closed found] at aim
    cases aim

theorem Idle.single_close (idle : c.Idle) (id : RequestId) : (c.close id).Single := by
  have fresh (m : Nat) (k : Close) (found : (c.close id).closes[m]? = some k) :
      k.phase = .done ∨ k.phase = .probing ∧ m = c.closes.length := by
    rcases lookup_close found with old | ⟨rfl, last⟩
    · exact .inl (idle.closed old)
    · exact .inr ⟨rfl, last⟩
  refine ⟨fun i s found => .inl (idle.settled i s found), ?_, ?_,
    fun _ _ _ => .inl idle.settled, ?_⟩
  · intro m k found
    refine (fresh m k found).imp_right fun last => ?_
    rw [last.2, Channel.close, List.length_append, List.length_singleton]
  · intro m i k found asking
    rcases fresh m k found with ended | ⟨probing, _⟩
    · rw [ended] at asking
      cases asking
    · rw [probing] at asking
      cases asking
  · intro m place k found aim
    rcases fresh m k found with ended | ⟨probing, _⟩
    · rw [ended] at aim
      cases aim
    · rw [probing] at aim
      cases aim

theorem Single.update (single : c.Single) (found : c.closes[m]? = some k)
    (undone : k.phase ≠ .done) (settled : c.Settled)
    (same : b.sends = c.sends ∧ b.slot = c.slot ∧ b.closes = c.closes)
    (unasked : ∀ i, phase ≠ .asking i) (aims : ∀ place, phase.aim? = some place →
      c.slot = some place) : (b.updateClose m phase).Single := by
  obtain ⟨sends, slot, closes⟩ := same
  have origin {n : Nat} {l : Close} (after : (b.updateClose m phase).closes[n]? = some l) :
      ∃ k, c.closes[n]? = some k ∧ (l = k ∨ m = n ∧ l.phase = phase) := by
    rw [lookup_updateClose, closes] at after
    obtain ⟨k, before, rfl⟩ := Option.map_eq_some_iff.mp after
    refine ⟨k, before, ?_⟩
    by_cases here : m = n
    · rw [if_pos here]
      exact .inr ⟨here, rfl⟩
    · exact .inl (if_neg here)
  have settled' : (b.updateClose m phase).Settled := by
    intro i s found
    exact settled i s (sends ▸ found)
  refine ⟨fun i s found => .inl (settled' i s found), ?_, ?_, fun _ _ _ => .inl settled', ?_⟩
  · intro n l after
    have size : (b.updateClose m phase).closes.length = c.closes.length := by
      rw [updateClose, List.length_modify, closes]
    rw [size]
    obtain ⟨k', before, rfl | ⟨rfl, _⟩⟩ := origin after
    · exact single.close n _ before
    · exact .inr ((single.close m k found).resolve_left undone)
  · intro n i l after asking
    obtain ⟨k', before, rfl | ⟨rfl, same⟩⟩ := origin after
    · show i + 1 = b.sends.length
      rw [sends]
      exact single.asking n i _ before asking
    · exact absurd (same.symm.trans asking) (unasked i)
  · intro n place l after aim
    show b.slot = some place
    rw [slot]
    obtain ⟨k', before, rfl | ⟨rfl, same⟩⟩ := origin after
    · exact single.aim n place _ before aim
    · exact aims place (same ▸ aim)

/-- While a close asks for its acknowledgement all other closes have returned. -/
theorem Single.asker {n : Nat} {l : Close} (single : c.Single) (found : c.closes[m]? = some k)
    (undone : k.phase ≠ .done)
    (after : ((c.send k.id Request.close).updateClose m
      (.asking c.sends.length)).closes[n]? = some l) :
    m = n ∧ l.phase = .asking c.sends.length ∨ l.phase = .done := by
  rw [lookup_updateClose] at after
  obtain ⟨k', before, rfl⟩ := Option.map_eq_some_iff.mp after
  by_cases here : m = n
  · exact .inl ⟨here, by rw [if_pos here]⟩
  · rw [if_neg here]
    refine .inr ((single.close n k' before).resolve_right ?_)
    have last := (single.close m k found).resolve_left undone
    omega

theorem Single.asks (single : c.Single) (settled : c.Settled) (found : c.closes[m]? = some k)
    (undone : k.phase ≠ .done) :
    ((c.send k.id Request.close).updateClose m (.asking c.sends.length)).Single := by
  have size : (c.send k.id Request.close).sends.length = c.sends.length + 1 := List.length_append
  have asker {n : Nat} {l : Close} (after : ((c.send k.id Request.close).updateClose m
      (.asking c.sends.length)).closes[n]? = some l) := single.asker found undone after
  refine ⟨?_, ?_, ?_, ?_, ?_⟩
  · intro i s found
    by_cases old : i < c.sends.length
    · rw [updateClose, Channel.send, List.getElem?_append_left old] at found
      exact .inl (settled i s found)
    · have inside := (List.getElem?_eq_some_iff.mp found).1
      refine .inr ?_
      show i + 1 = (c.send k.id Request.close).sends.length
      have bound : i < (c.send k.id Request.close).sends.length := inside
      omega
  · intro n l after
    have same : ((c.send k.id Request.close).updateClose m
        (.asking c.sends.length)).closes.length = c.closes.length := List.length_modify ..
    rw [same]
    rcases asker after with ⟨here, _⟩ | ended
    · exact .inr (here ▸ (single.close m k found).resolve_left undone)
    · exact .inl ended
  · intro n i l after asking
    rcases asker after with ⟨_, here⟩ | ended
    · rw [here] at asking
      cases asking
      exact size.symm
    · rw [ended] at asking
      cases asking
  · intro n l after
    rcases asker after with ⟨_, here⟩ | ended
    · exact .inr (.inr ⟨_, here⟩)
    · exact .inr (.inl ended)
  · intro n place l after aim
    rcases asker after with ⟨_, here⟩ | ended
    · rw [here] at aim
      cases aim
    · rw [ended] at aim
      cases aim

/-- All sends have returned when a close takes a step, unless it asks for its acknowledgement. -/
theorem Single.settled (single : c.Single) (found : c.closes[m]? = some k)
    (turn : c.CloseTurn m k e b phase) : c.Settled := by
  rcases single.alone m k found with settled | ended | ⟨i, asking⟩
  · exact settled
  · exact absurd ended turn.undone
  · cases turn with
    | hears before sent ended =>
        intro n s at_
        have last := single.asking m i k found asking
        rw [asking] at before
        cases before
        rcases single.send n s at_ with returned | same
        · exact returned
        · have here : n = i := by omega
          subst here
          cases sent.symm.trans at_
          exact ⟨_, ended⟩
    | asks before | idles before | endsInput before | findsNone before | overruns before
    | kills before | killsNone before =>
        rw [asking] at before
        cases before
    | finishes before =>
        rw [asking] at before
        simp at before

theorem Single.turn (single : c.Single) (found : c.closes[m]? = some k)
    (turn : c.CloseTurn m k e b phase) : (b.updateClose m phase).Single := by
  have undone := turn.undone
  have settled := single.settled found turn
  have update {b : Channel} {phase : ClosePhase}
      (same : b.sends = c.sends ∧ b.slot = c.slot ∧ b.closes = c.closes)
      (unasked : ∀ i, phase ≠ .asking i)
      (aims : ∀ place, phase.aim? = some place → c.slot = some place) :
      (b.updateClose m phase).Single :=
    single.update found undone settled same unasked aims
  have aimed {place : Nat} (before : k.phase.aim? = some place) : c.slot = some place :=
    single.aim m place k found before
  cases turn with
  | asks => exact single.asks settled found undone
  | idles | hears | findsNone | finishes =>
      exact update ⟨rfl, rfl, rfl⟩ (fun _ => ClosePhase.noConfusion) fun _ none_ => by cases none_
  | endsInput _ _ slot =>
      refine update ⟨rfl, rfl, rfl⟩ (fun _ => ClosePhase.noConfusion) fun _ same => ?_
      cases same
      exact slot
  | overruns before | kills before | killsNone before =>
      refine update ⟨rfl, rfl, rfl⟩ (fun _ => ClosePhase.noConfusion) fun _ same => ?_
      cases same
      exact aimed (by rw [before]; rfl)

theorem Single.step (single : c.Single) (rule : c.OneAtATime e) (happens : c.step e = some d) :
    d.Single := by
  cases (step_effect happens).closes with
  | rests same other =>
      rcases Event.quiet_or_send other with quiet | ⟨id, request, rfl⟩
      · exact single.quiet (step_move happens) quiet same
      · cases happens
        exact (rule rfl).single_send id request
  | calls event after =>
      subst event after
      exact (rule rfl).single_close _
  | turns found turn after =>
      rw [after]
      exact single.turn found turn

end OneCall

/-- An entry that a send in progress takes out is its own, as there is no other. -/
theorem Single.takesOwn (single : c.Single) (seated : c.Seated) : c.TakesOwn := by
  intro place i p s process found here
  have last : i + 1 = c.sends.length := by
    refine (single.send i s found).resolve_left ?_
    rintro ⟨o, ended⟩
    rw [ended] at here
    cases here
  have mine (x : Entry) (member : x ∈ p.table.entries) : x.caller = i ∧ x.id = s.id := by
    obtain ⟨r, at_, id, waits⟩ := seated.seat place p x process member
    have same : x.caller + 1 = c.sends.length := by
      refine (single.send x.caller r at_).resolve_left ?_
      rintro ⟨o, ended⟩
      have there := waits.1
      rw [ended] at there
      cases there
    have caller : x.caller = i := by omega
    rw [caller] at at_
    cases found.symm.trans at_
    exact ⟨caller, id.symm⟩
  have nodup := seated.callers place p process
  rw [Table.remove]
  cases entries : p.table.entries with
  | nil => rfl
  | cons x rest =>
      rw [entries] at mine nodup
      obtain ⟨caller, same⟩ := mine x List.mem_cons_self
      cases rest with
      | nil => simp [caller, same]
      | cons y more =>
          have other := (mine y (List.mem_cons_of_mem _ List.mem_cons_self)).1
          simp [caller, other] at nodup

/-- What calls that are made one after another keep. -/
structure Serial (c : Channel) (j : Journal) : Prop where
  sound : c.Sound j
  held : c.Held
  single : c.Single
  seated : c.Seated

theorem start_serial (program : String) (timeout : Option Duration) (capacity : Nat) :
    (start program timeout capacity).Serial [] := by
  refine ⟨start_sound program timeout capacity, ?_, ⟨?_, ?_, ?_, ?_, ?_⟩, ⟨?_, ?_, ?_⟩⟩
  all_goals simp [start, Held]

theorem Serial.step (serial : c.Serial j) (rule : c.OneAtATime e) (happens : c.step e = some d) :
    d.Serial (j ++ c.facts e) := by
  have move := step_move happens
  have own := serial.single.takesOwn serial.seated
  exact ⟨serial.sound.step move, serial.held.step move, serial.single.step rule happens,
    serial.seated.step own serial.sound.chronicled move⟩

theorem run_serial {events : List Event} (serial : c.Serial j)
    (rule : Obeys OneAtATime c events) (run : c.run events = some d) :
    d.Serial (j ++ c.journal events) :=
  rule.invariant (fun _ _ _ _ serial rule happens => serial.step rule happens) run serial

end Channel

end ImageSearch.Worker
