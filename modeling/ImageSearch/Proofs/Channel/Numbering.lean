import ImageSearch.Proofs.Channel.Move

set_option autoImplicit false

namespace ImageSearch.Worker

/-- What a process keeps through every step. -/
structure Process.Keeps (p q : Process) : Prop where
  generation : q.generation = p.generation
  published : p.published.isSome → q.published = p.published
  acceptsInput : q.acceptsInput → p.acceptsInput
  output : p.output <+: q.output

theorem Process.Keeps.refl (p : Process) : p.Keeps p :=
  ⟨rfl, fun _ => rfl, id, List.prefix_refl _⟩

theorem Process.Keeps.trans {p q r : Process} (first : p.Keeps q) (second : q.Keeps r) :
    p.Keeps r := by
  refine ⟨second.generation.trans first.generation, ?_, first.acceptsInput ∘ second.acceptsInput,
    first.output.trans second.output⟩
  intro exited
  have same := first.published exited
  rw [second.published (by rwa [same]), same]

theorem Process.Keeps.unpublished {p q : Process} (kept : p.Keeps q) (live : q.published = none) :
    p.published = none := by
  cases before : p.published with
  | none => rfl
  | some code =>
      have same := kept.published (by rw [before]; rfl)
      rw [live, before] at same
      cases same

theorem Process.Stays.keeps {more : List (List Nat)} {p q : Process} (stays : p.Stays more q) :
    p.Keeps q :=
  ⟨stays.generation, stays.published, stays.acceptsInput,
    stays.output ▸ List.prefix_append _ _⟩

namespace Channel

variable {c d : Channel} {e : Event} {facts : Journal}

def KeepsAll (ps qs : List Process) : Prop :=
  ∀ (place : Nat) (p : Process), ps[place]? = some p → ∃ q, qs[place]? = some q ∧ p.Keeps q

theorem KeepsAll.refl (ps : List Process) : KeepsAll ps ps :=
  fun _ p found => ⟨p, found, .refl p⟩

theorem KeepsAll.modify {ps : List Process} {place : Nat} {f : Process → Process}
    (keeps : ∀ p : Process, p.Keeps (f p)) : KeepsAll ps (ps.modify place f) := by
  intro k p found
  rw [List.getElem?_modify, found]
  refine ⟨_, rfl, ?_⟩
  by_cases same : place = k
  · simpa only [if_pos same] using keeps p
  · simpa only [if_neg same] using Process.Keeps.refl p

theorem Background.keeps {more : Nat → List (List Nat)} (same : c.Background more d) :
    KeepsAll c.processes d.processes := by
  intro place p found
  obtain ⟨q, at_, stays, _⟩ := same.process place p found
  exact ⟨q, at_, stays.keeps⟩

theorem Turn.keeps {b : Channel} {i : Nat} {s : Send} {phase : SendPhase}
    (turn : c.Turn i s facts b phase) : KeepsAll c.processes b.processes := by
  cases turn with
  | starts =>
      intro place p found
      have inside : place < c.processes.length := (List.getElem?_eq_some_iff.mp found).1
      exact ⟨p, (List.getElem?_append_left inside).trans found, .refl p⟩
  | joins | writePart | writeAll | writeFails | withdraw =>
      apply KeepsAll.modify
      intro p
      exact ⟨rfl, fun _ => rfl, id, List.prefix_refl _⟩
  | kill _ _ same => exact same.keeps
  | useOpen | useClosed | startFails | refuse | receive | abandon | expire =>
      exact .refl c.processes

theorem deliverAll_processes (c : Channel) (replies : List Reply) :
    (c.deliverAll replies).processes = c.processes := by
  rw [deliverAll_frame]

theorem Move.keeps (move : c.Move e facts d) : KeepsAll c.processes d.processes := by
  cases move with
  | background same => exact same.keeps
  | arrive _ _ same => exact same.keeps
  | turn _ turn => exact turn.keeps
  | readLine | drain =>
      rw [deliverAll_processes]
      apply KeepsAll.modify
      intro p
      exact ⟨rfl, fun _ => rfl, id, List.prefix_refl _⟩

/-- What a step does to the slot and to the number of processes. -/
inductive Occupies (c d : Channel) : Prop
  | same (slot : d.slot = c.slot) (size : d.processes.length = c.processes.length)
      (spawns : d.spawns = c.spawns)
  | vacates (vacant : c.live? = none) (slot : d.slot = none)
      (size : d.processes.length = c.processes.length) (spawns : d.spawns = c.spawns)
  | starts (vacant : c.live? = none) (slot : d.slot = some c.processes.length)
      (processes : d.processes = c.processes ++ [Process.start (c.spawns + 1)])
      (spawns : d.spawns = c.spawns + 1)

theorem Turn.occupies {b : Channel} {i : Nat} {s : Send} {phase : SendPhase}
    (turn : c.Turn i s facts b phase) : c.Occupies b := by
  cases turn with
  | startFails _ _ vacant => exact .vacates vacant rfl rfl rfl
  | starts _ _ vacant => exact .starts vacant rfl rfl rfl
  | kill _ _ same => exact .same same.slot same.size same.spawns
  | joins | writePart | writeAll | writeFails | withdraw =>
      exact .same rfl (List.length_modify ..) rfl
  | useOpen | useClosed | refuse | receive | abandon | expire => exact .same rfl rfl rfl

theorem Move.occupies (move : c.Move e facts d) : c.Occupies d := by
  cases move with
  | background same => exact .same same.slot same.size same.spawns
  | arrive _ _ same => exact .same same.slot same.size same.spawns
  | turn _ turn =>
      cases turn.occupies with
      | same slot size spawns => exact .same slot size spawns
      | vacates vacant slot size spawns => exact .vacates vacant slot size spawns
      | starts vacant slot processes spawns => exact .starts vacant slot processes spawns
  | readLine | drain =>
      rw [deliverAll_frame]
      exact .same rfl (List.length_modify ..) rfl

/-- Generations count the processes from one; a live process is in the slot, which holds the newest
process or none. -/
structure Numbered (c : Channel) : Prop where
  spawns : c.spawns = c.processes.length
  generation : ∀ (place : Nat) (p : Process), c.processes[place]? = some p →
    p.generation = place + 1
  newest : ∀ place, c.slot = some place → place + 1 = c.processes.length
  live : ∀ (place : Nat) (p : Process), c.processes[place]? = some p → p.published = none →
    c.slot = some place

theorem Numbered.exited (numbered : c.Numbered) (vacant : c.live? = none) {place : Nat}
    {p : Process} (found : c.processes[place]? = some p) : p.published.isSome := by
  cases live : p.published with
  | some code => rfl
  | none =>
      have slot := numbered.live place p found live
      rw [live?_eq_some.mpr ⟨slot, found, live⟩] at vacant
      cases vacant

section Step

variable {place : Nat} {q : Process} (numbered : c.Numbered) (move : c.Move e facts d)

include move

theorem Move.kept (at_ : d.processes[place]? = some q) (old : place < c.processes.length) :
    ∃ p, c.processes[place]? = some p ∧ p.Keeps q := by
  obtain ⟨r, later, kept⟩ := move.keeps place _ (List.getElem?_eq_getElem old)
  cases at_.symm.trans later
  exact ⟨_, List.getElem?_eq_getElem old, kept⟩

/-- A process is kept from before, unless it is the newest one and was started just now. -/
theorem Move.kept_or_started (at_ : d.processes[place]? = some q) :
    (∃ p, c.processes[place]? = some p ∧ p.Keeps q) ∨
      place = c.processes.length ∧ d.slot = some place ∧ q = Process.start (c.spawns + 1) := by
  have inside : place < d.processes.length := (List.getElem?_eq_some_iff.mp at_).1
  by_cases old : place < c.processes.length
  · exact .inl (move.kept at_ old)
  · cases move.occupies with
    | same _ size | vacates _ _ size => omega
    | starts _ slot processes =>
        have size : d.processes.length = c.processes.length + 1 := by simp [processes]
        have newest : place = c.processes.length := by omega
        subst newest
        rw [processes, List.getElem?_append_right (Nat.le_refl _), Nat.sub_self] at at_
        cases at_
        exact .inr ⟨rfl, slot, rfl⟩

include numbered

theorem Numbered.step_spawns : d.spawns = d.processes.length := by
  cases move.occupies with
  | same _ size spawns | vacates _ _ size spawns => rw [spawns, size, numbered.spawns]
  | starts _ _ processes spawns => simp [spawns, processes, numbered.spawns]

theorem Numbered.step_generation (at_ : d.processes[place]? = some q) :
    q.generation = place + 1 := by
  rcases move.kept_or_started at_ with ⟨p, found, kept⟩ | ⟨newest, _, rfl⟩
  · rw [kept.generation, numbered.generation place p found]
  · rw [newest, ← numbered.spawns]
    rfl

theorem Numbered.step_newest (here : d.slot = some place) : place + 1 = d.processes.length := by
  cases move.occupies with
  | same slot size =>
      rw [size]
      exact numbered.newest place (slot ▸ here)
  | vacates _ slot =>
      rw [slot] at here
      cases here
  | starts _ slot processes =>
      rw [slot] at here
      cases here
      simp [processes]

theorem Numbered.step_live (at_ : d.processes[place]? = some q) (live : q.published = none) :
    d.slot = some place := by
  rcases move.kept_or_started at_ with ⟨p, found, kept⟩ | ⟨_, slot, _⟩
  · have before := kept.unpublished live
    have slot := numbered.live place p found before
    -- The slot was not given up, since the process in it was live.
    cases move.occupies with
    | same slot' => rw [slot', slot]
    | vacates vacant | starts vacant =>
        rw [live?_eq_some.mpr ⟨slot, found, before⟩] at vacant
        cases vacant
  · exact slot

theorem Numbered.step : d.Numbered where
  spawns := numbered.step_spawns move
  generation _ _ := numbered.step_generation move
  newest _ := numbered.step_newest move
  live _ _ := numbered.step_live move

end Step

end Channel

end ImageSearch.Worker
