import ImageSearch.Worker.Channel.Step

set_option autoImplicit false

namespace ImageSearch.Worker

/-- What a send does with a process: it is directed to it, starts it, gets into its table, writes
its line to the end, or takes its own entry out of the table. -/
inductive Deed where
  | directed
  | started
  | admitted
  | wrote
  | removed
  deriving Repr, DecidableEq

/-- A line of the output that was read, with the send that it was given to. -/
structure Delivery where
  line : List Nat
  receiver : Option Nat
  deriving Repr, DecidableEq

/-- What is remembered of an event, with the places of sends and processes. -/
inductive Fact where
  | did (deed : Deed) (i place : Nat)
  | gave (place : Nat) (delivery : Delivery)
  deriving Repr, DecidableEq

abbrev Journal := List Fact

namespace Journal

def sends (j : Journal) (deed : Deed) (place : Nat) : List Nat :=
  j.filterMap fun
    | .did done i where_ => if done = deed ∧ where_ = place then some i else none
    | .gave _ _ => none

def reads (j : Journal) (place : Nat) : List Delivery :=
  j.filterMap fun
    | .gave where_ delivery => if where_ = place then some delivery else none
    | .did _ _ _ => none

@[simp] theorem sends_nil (deed : Deed) (place : Nat) : sends [] deed place = [] := rfl

@[simp] theorem reads_nil (place : Nat) : reads [] place = [] := rfl

@[simp] theorem sends_append (j k : Journal) (deed : Deed) (place : Nat) :
    sends (j ++ k) deed place = sends j deed place ++ sends k deed place :=
  List.filterMap_append

@[simp] theorem reads_append (j k : Journal) (place : Nat) :
    reads (j ++ k) place = reads j place ++ reads k place :=
  List.filterMap_append

@[simp] theorem sends_did (deed done : Deed) (i where_ place : Nat) (j : Journal) :
    sends (.did done i where_ :: j) deed place =
      (if done = deed ∧ where_ = place then [i] else []) ++ sends j deed place := by
  by_cases same : done = deed ∧ where_ = place
  · simp [sends, same]
  · simp [sends, same]

@[simp] theorem sends_gave (deed : Deed) (where_ place : Nat) (delivery : Delivery)
    (j : Journal) : sends (.gave where_ delivery :: j) deed place = sends j deed place := by
  simp [sends]

@[simp] theorem reads_did (done : Deed) (i where_ place : Nat) (j : Journal) :
    reads (.did done i where_ :: j) place = reads j place := by
  simp [reads]

@[simp] theorem reads_gave (where_ place : Nat) (delivery : Delivery) (j : Journal) :
    reads (.gave where_ delivery :: j) place =
      (if where_ = place then [delivery] else []) ++ reads j place := by
  by_cases same : where_ = place
  · simp [reads, same]
  · simp [reads, same]

theorem mem_sends {j : Journal} {deed : Deed} {i place : Nat} :
    i ∈ j.sends deed place ↔ Fact.did deed i place ∈ j := by
  simp only [sends, List.mem_filterMap]
  constructor
  · rintro ⟨fact, member, same⟩
    cases fact with
    | gave _ _ => cases same
    | did done k where_ =>
        simp only [Option.ite_none_right_eq_some, Option.some.injEq] at same
        obtain ⟨⟨rfl, rfl⟩, rfl⟩ := same
        exact member
  · intro member
    exact ⟨_, member, by simp⟩

theorem mem_reads {j : Journal} {place : Nat} {x : Delivery} :
    x ∈ j.reads place ↔ Fact.gave place x ∈ j := by
  simp only [reads, List.mem_filterMap]
  constructor
  · rintro ⟨fact, member, same⟩
    cases fact with
    | did => cases same
    | gave where_ delivery =>
        simp only [Option.ite_none_right_eq_some, Option.some.injEq] at same
        obtain ⟨rfl, rfl⟩ := same
        exact member
  · intro member
    exact ⟨_, member, by simp⟩

end Journal

namespace Channel

def holds (p : Process) (i : Nat) : Bool := p.table.entries.any (·.caller == i)

/-- What an event amounts to for the journal. -/
def facts (c : Channel) : Event → Journal
  | .enter i fault =>
    match c.live? with
    | some (place, _) => [.did .directed i place]
    | none =>
      if fault.isNone then
        [.did .started i c.processes.length, .did .directed i c.processes.length]
      else []
  | .insert i =>
    match c.sends[i]?.map Send.phase with
    | some (.entered place) =>
      if (c.processes[place]?.map (·.table.closed)) = some none then [.did .admitted i place]
      else []
    | _ => []
  | .write i bytes =>
    match c.sends[i]?.map Send.phase with
    | some (.writing place left) => if bytes = left then [.did .wrote i place] else []
    | _ => []
  | .writeFails i | .withdraw i =>
    match c.sends[i]?.map Send.phase with
    | some (.writing place _) | some (.expired place) =>
      if (c.processes[place]?.map (holds · i)) = some true then [.did .removed i place] else []
    | _ => []
  | .readLine place =>
    match c.processes[place]? with
    | some p =>
      match p.output[p.consumed]? with
      | some bytes => [.gave place ⟨bytes, (takeLine p.table bytes).2.map Reply.caller⟩]
      | none => []
    | none => []
  | _ => []

def journal (c : Channel) : List Event → Journal
  | [] => []
  | e :: rest => c.facts e ++ ((c.step e).map (·.journal rest)).getD []

theorem run_append {c d : Channel} {events : List Event} (run : c.run events = some d)
    (more : List Event) : c.run (events ++ more) = d.run more := by
  induction events generalizing c with
  | nil => cases run; rfl
  | cons e rest ih =>
      obtain ⟨next, stepped, later⟩ := Option.bind_eq_some_iff.mp run
      simp only [List.cons_append, Channel.run, stepped, Option.bind_some]
      exact ih later

theorem journal_append {c d : Channel} {events : List Event} (run : c.run events = some d)
    (more : List Event) : c.journal (events ++ more) = c.journal events ++ d.journal more := by
  induction events generalizing c with
  | nil => cases run; rfl
  | cons e rest ih =>
      obtain ⟨next, stepped, later⟩ := Option.bind_eq_some_iff.mp run
      simp only [List.cons_append, journal, stepped, Option.map_some, Option.getD_some,
        ih later, List.append_assoc]

/-- Every event of a run obeys a rule, which may look at the channel before the event. -/
def Obeys (rule : Channel → Event → Prop) : Channel → List Event → Prop
  | _, [] => True
  | c, e :: rest => rule c e ∧ ∀ d, c.step e = some d → Obeys rule d rest

instance (rule : Channel → Event → Prop) [∀ c e, Decidable (rule c e)] :
    ∀ (c : Channel) (events : List Event), Decidable (Obeys rule c events)
  | _, [] => .isTrue trivial
  | c, e :: rest =>
    have (d : Channel) : Decidable (Obeys rule d rest) := instDecidableObeys rule d rest
    inferInstanceAs (Decidable (rule c e ∧ ∀ d ∈ c.step e, Obeys rule d rest))

/-- What holds at first and is kept by every event that obeys a rule holds at the end. -/
theorem Obeys.invariant {rule : Channel → Event → Prop} {motive : Channel → Journal → Prop}
    (kept : ∀ c j e d, motive c j → rule c e → c.step e = some d → motive d (j ++ c.facts e))
    {c d : Channel} {events : List Event} {j : Journal} (obeys : Obeys rule c events)
    (run : c.run events = some d) (holds : motive c j) : motive d (j ++ c.journal events) := by
  induction events generalizing c j with
  | nil =>
      cases run
      simpa only [journal, List.append_nil] using holds
  | cons e rest ih =>
      obtain ⟨next, stepped, later⟩ := Option.bind_eq_some_iff.mp run
      have after := ih (obeys.2 next stepped) later (kept c j e next holds obeys.1 stepped)
      simpa only [journal, stepped, Option.map_some, Option.getD_some, List.append_assoc]
        using after

theorem obeys_of_all {rule : Channel → Event → Prop} {events : List Event}
    (all : ∀ e ∈ events, ∀ c, rule c e) (c : Channel) : Obeys rule c events := by
  induction events generalizing c with
  | nil => trivial
  | cons e rest ih =>
      refine ⟨all e List.mem_cons_self c, ?_⟩
      intro d _
      exact ih (fun later member => all later (List.mem_cons_of_mem e member)) d

/-- What holds at first and is kept by every event holds at the end of every run. -/
theorem run_invariant {motive : Channel → Journal → Prop}
    (kept : ∀ c j e d, motive c j → c.step e = some d → motive d (j ++ c.facts e))
    {c d : Channel} {events : List Event} {j : Journal} (run : c.run events = some d)
    (holds : motive c j) : motive d (j ++ c.journal events) := by
  have obeys : Obeys (fun _ _ => True) c events := obeys_of_all (fun _ _ _ => trivial) c
  exact obeys.invariant (fun c j e d holds _ stepped => kept c j e d holds stepped) run holds

end Channel

end ImageSearch.Worker
