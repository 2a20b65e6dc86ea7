import ImageSearch.Proofs.Channel.Recovery

set_option autoImplicit false

namespace ImageSearch.Worker

theorem Send.hear_done {s : Send} {o : Outcome} (ended : s.phase = .done o)
    (outcomes : List Outcome) : s.hear outcomes = s := by
  rw [Send.hear, ended]
  rfl

namespace Channel

variable {b c d : Channel} {e : Event} {j old facts : Journal} {request : Request}

def Settled (c : Channel) : Prop :=
  ∀ (i : Nat) (s : Send), c.sends[i]? = some s → ∃ o, s.phase = .done o

/-- A channel `c` with its journal `j` while one request is in progress, which was made when the
channel was `b` with the journal `old`. -/
structure Asked (b : Channel) (old : Journal) (request : Request) (c : Channel) (j : Journal) :
    Prop where
  size : c.sends.length = b.sends.length + 1
  grown : b.processes.length ≤ c.processes.length
  before : ∀ i, i < b.sends.length → c.sends[i]? = b.sends[i]?
  command : c.sends[b.sends.length]?.map Send.command = some request.command
  past : ∀ fact ∈ old, fact ∈ j
  did : ∀ (deed : Deed) (i place : Nat), Fact.did deed i place ∈ j →
    Fact.did deed i place ∈ old ∨ i = b.sends.length
  slot : ∀ place, c.slot = some place → Fact.did .directed b.sends.length place ∈ j ∨
    b.slot = some place ∧ ∀ q, Fact.did .directed b.sends.length q ∉ j
  came : ∀ place, Fact.did .directed b.sends.length place ∈ j →
    Fact.did .started b.sends.length place ∈ j ∨ b.slot = some place
  fresh : ∀ place, Fact.did .started b.sends.length place ∈ j → b.processes.length ≤ place

/-- What a send does with the slot: it leaves it, or finds no live process and empties it, or is
directed to the process that is in it afterwards. -/
theorem Turn.slot {i : Nat} {s : Send} {phase : SendPhase} (turn : c.Turn i s facts d phase) :
    (d.slot = c.slot ∧ ∀ q, Fact.did .directed i q ∉ facts) ∨ d.slot = none ∨
      ∃ place, d.slot = some place ∧ Fact.did .directed i place ∈ facts := by
  cases turn with
  | useOpen _ _ slot | useClosed _ _ slot => exact .inr (.inr ⟨_, slot, by simp⟩)
  | startFails => exact .inr (.inl rfl)
  | starts => exact .inr (.inr ⟨_, rfl, by simp⟩)
  | kill _ _ same => exact .inl ⟨same.slot, by simp⟩
  | writeFails | withdraw =>
      refine .inl ⟨rfl, ?_⟩
      intro q
      split
      all_goals simp
  | joins | refuse | writePart | writeAll | receive | abandon | expire => exact .inl ⟨rfl, by simp⟩

/-- A send is directed to the process in the slot or to the one that it starts. -/
theorem Turn.came {i place : Nat} {s : Send} {phase : SendPhase}
    (turn : c.Turn i s facts d phase) (directed : Fact.did .directed i place ∈ facts) :
    s.phase = .queued ∧ (Fact.did .started i place ∈ facts ∨ c.slot = some place) := by
  cases turn with
  | useOpen queued _ slot | useClosed queued _ slot =>
      simp only [List.mem_singleton, Fact.did.injEq, true_and] at directed
      rw [directed]
      exact ⟨queued, .inr slot⟩
  | starts queued =>
      simp only [List.mem_cons, Fact.did.injEq, reduceCtorEq, false_and, true_and, false_or,
        List.not_mem_nil, or_false] at directed
      rw [directed]
      exact ⟨queued, .inl (by simp)⟩
  | writeFails | withdraw =>
      split at directed
      all_goals simp at directed
  | startFails | joins | refuse | writePart | writeAll | receive | abandon | expire | kill =>
      simp at directed

theorem Turn.fresh {i place : Nat} {s : Send} {phase : SendPhase}
    (turn : c.Turn i s facts d phase) (started : Fact.did .started i place ∈ facts) :
    place = c.processes.length := by
  cases turn with
  | starts => simpa using started
  | writeFails | withdraw =>
      split at started
      all_goals simp at started
  | useOpen | useClosed | startFails | joins | refuse | writePart | writeAll | receive | abandon
  | expire | kill => simp at started

theorem deliverAll_sends_length (c : Channel) (replies : List Reply) :
    (c.deliverAll replies).sends.length = c.sends.length := by
  induction replies generalizing c with
  | nil => rfl
  | cons r rest ih => exact (ih (c.deliver r)).trans (List.length_modify ..)

theorem Chronicled.asked (chronicled : b.Chronicled old) (id : RequestId) (request : Request) :
    b.Asked old request (b.send id request) old := by
  have unknown (deed : Deed) (place : Nat) : Fact.did deed b.sends.length place ∉ old := by
    intro member
    have inside := (chronicled.known deed _ place member).1
    omega
  refine ⟨List.length_append, Nat.le_refl _, ?_, ?_, fun _ member => member, ?_, ?_, ?_, ?_⟩
  · intro i inside
    exact List.getElem?_append_left inside
  · rw [send, List.getElem?_concat_length]
    split
    all_goals rfl
  · intro deed i place member
    exact .inl member
  · intro place here
    exact .inr ⟨here, unknown .directed⟩
  · intro place member
    exact absurd member (unknown _ _)
  · intro place member
    exact absurd member (unknown _ _)

/-- A step that lets sends only hear outcomes, and leaves the slot and the number of processes. -/
theorem Asked.hear (asked : b.Asked old request c j) (settled : b.Settled)
    (size : d.sends.length = c.sends.length) (grown : d.processes.length = c.processes.length)
    (slot : d.slot = c.slot)
    (hears : ∀ i : Nat, ∃ outcomes, d.sends[i]? = c.sends[i]?.map (Send.hear · outcomes))
    (quiet : ∀ deed i place, Fact.did deed i place ∉ facts) :
    b.Asked old request d (j ++ facts) := by
  have undone {deed : Deed} {i place : Nat} (member : Fact.did deed i place ∈ j ++ facts) :
      Fact.did deed i place ∈ j :=
    (List.mem_append.mp member).resolve_right (quiet deed i place)
  refine ⟨size.trans asked.size, grown ▸ asked.grown, ?_, ?_, ?_, ?_, ?_, ?_, ?_⟩
  · intro i inside
    obtain ⟨outcomes, heard⟩ := hears i
    obtain ⟨o, ended⟩ := settled i _ (List.getElem?_eq_getElem inside)
    rw [heard, asked.before i inside, List.getElem?_eq_getElem inside, Option.map_some,
      Send.hear_done ended]
  · obtain ⟨outcomes, heard⟩ := hears b.sends.length
    rw [heard, Option.map_map, ← asked.command]
    congr 1
    funext s
    exact Send.hear_command s outcomes
  · intro fact member
    exact List.mem_append_left _ (asked.past fact member)
  · intro deed i place member
    exact asked.did deed i place (undone member)
  · intro place here
    rw [slot] at here
    rcases asked.slot place here with directed | ⟨same, nowhere⟩
    · exact .inl (List.mem_append_left _ directed)
    · exact .inr ⟨same, fun q member => nowhere q (undone member)⟩
  · intro place member
    exact (asked.came place (undone member)).imp_left (List.mem_append_left _)
  · intro place member
    exact asked.fresh place (undone member)

theorem Asked.turn_slot {s : Send} {phase : SendPhase} (asked : b.Asked old request c j)
    (turn : c.Turn b.sends.length s facts d phase) {place : Nat} (here : d.slot = some place) :
    Fact.did .directed b.sends.length place ∈ j ++ facts ∨
      b.slot = some place ∧ ∀ q, Fact.did .directed b.sends.length q ∉ j ++ facts := by
  rcases turn.slot with ⟨same, undirected⟩ | vacant | ⟨q, same, directed⟩
  · have before : c.slot = some place := same ▸ here
    rcases asked.slot place before with directed | ⟨first, nowhere⟩
    · exact .inl (List.mem_append_left _ directed)
    · refine .inr ⟨first, ?_⟩
      intro q member
      rcases List.mem_append.mp member with old | now
      · exact nowhere q old
      · exact undirected q now
  · rw [vacant] at here
    cases here
  · rw [same] at here
    cases here
    exact .inl (List.mem_append_right _ directed)

theorem Asked.turn_came {s : Send} {phase : SendPhase} (asked : b.Asked old request c j)
    (chronicled : c.Chronicled j) (found : c.sends[b.sends.length]? = some s)
    (turn : c.Turn b.sends.length s facts d phase) {place : Nat}
    (member : Fact.did .directed b.sends.length place ∈ j ++ facts) :
    Fact.did .started b.sends.length place ∈ j ++ facts ∨ b.slot = some place := by
  rcases List.mem_append.mp member with before | now
  · exact (asked.came place before).imp_left (List.mem_append_left _)
  · obtain ⟨queued, came⟩ := turn.came now
    rcases came with started | here
    · exact .inl (List.mem_append_right _ started)
    · rcases asked.slot place here with directed | ⟨first, _⟩
      · refine absurd directed (chronicled.ahead _ s .directed place found ?_)
        simp [queued, SendPhase.ahead]
      · exact .inr first

/-- The only send in progress takes a turn. -/
theorem Asked.turn {s : Send} {phase : SendPhase} (asked : b.Asked old request c j)
    (chronicled : c.Chronicled j) (found : c.sends[b.sends.length]? = some s)
    (turn : c.Turn b.sends.length s facts d phase) :
    b.Asked old request (d.setPhase b.sends.length phase) (j ++ facts) := by
  have lookup (i : Nat) : (d.setPhase b.sends.length phase).sends[i]? =
      c.sends[i]?.map fun s => if b.sends.length = i then { s with phase := phase } else s := by
    rw [lookup_setPhase, turn.sends]
  have more : c.processes.length ≤ d.processes.length := by
    cases turn.occupies with
    | same _ size => omega
    | vacates _ _ size => omega
    | starts _ _ processes => simp [processes]
  refine ⟨?_, Nat.le_trans asked.grown more, ?_, ?_, ?_, ?_,
    fun place here => asked.turn_slot turn here,
    fun place member => asked.turn_came chronicled found turn member, ?_⟩
  · rw [setPhase, updateSend, List.length_modify, turn.sends]
    exact asked.size
  · intro i inside
    have other : b.sends.length ≠ i := by omega
    simp only [lookup, if_neg other, Option.map_id', asked.before i inside]
  · rw [lookup, Option.map_map, ← asked.command]
    congr 1
    funext s
    simp only [Function.comp_apply, if_true]
  · intro fact member
    exact List.mem_append_left _ (asked.past fact member)
  · intro deed i place member
    rcases List.mem_append.mp member with before | now
    · exact asked.did deed i place before
    · exact .inr (turn.facts_did now).1
  · intro place member
    rcases List.mem_append.mp member with before | now
    · exact asked.fresh place before
    · rw [turn.fresh now]
      exact asked.grown

theorem Asked.step (asked : b.Asked old request c j) (settled : b.Settled)
    (chronicled : c.Chronicled j) (move : c.Move e facts d) (quiet : e.isDemand = false) :
    b.Asked old request d (j ++ facts) := by
  cases move with
  | background same =>
      refine asked.hear settled (by rw [same.sends]) same.size same.slot ?_ (by simp)
      intro i
      refine ⟨[], ?_⟩
      simp only [same.sends, Send.hear_nil, Option.map_id']
  | arrive _ _ _ demand =>
      rw [demand] at quiet
      cases quiet
  | turn found turn =>
      rename_i i s x phase
      have inside := (List.getElem?_eq_some_iff.mp found).1
      rw [asked.size] at inside
      by_cases last : i = b.sends.length
      · subst last
        exact asked.turn chronicled found turn
      · have earlier : i < b.sends.length := by omega
        rw [asked.before i earlier] at found
        obtain ⟨o, ended⟩ := settled i s found
        exact absurd ended (turn.undone o)
  | readLine | drain =>
      refine asked.hear settled (deliverAll_sends_length _ _) ?_ ?_ ?_ (by simp)
      · rw [deliverAll_frame]
        exact List.length_modify ..
      · rw [deliverAll_frame]
        rfl
      · intro i
        exact ⟨_, lookup_deliverAll _ _ i⟩

/-- A channel whose sends have all returned is asked, and then no request is made. -/
theorem run_asked {events : List Event} {id : RequestId} (sound : b.Sound old)
    (settled : b.Settled) (quiet : ∀ e ∈ events, e.isDemand = false)
    (run : b.run (.send id request :: events) = some c) :
    b.Asked old request c (old ++ b.journal (.send id request :: events)) ∧
      c.Sound (old ++ b.journal (.send id request :: events)) := by
  have asked := sound.chronicled.asked id request
  have made : b.step (.send id request) = some (b.send id request) := rfl
  have sent : (b.send id request).Sound (old ++ []) := sound.step (step_move made)
  rw [List.append_nil] at sent
  have calm : Obeys (fun _ e => e.isDemand = false) (b.send id request) events :=
    obeys_of_all (fun e member _ => quiet e member) _
  refine calm.invariant (motive := fun c j => b.Asked old request c j ∧ c.Sound j) ?_ run
    ⟨asked, sent⟩
  rintro c j e d ⟨asked, sound⟩ calm stepped
  have move := step_move stepped
  exact ⟨asked.step settled sound.chronicled move calm, sound.step move⟩

end Channel

end ImageSearch.Worker
