import ImageSearch.Proofs.Document.Words
import ImageSearch.Proofs.Scan.Loop

set_option autoImplicit false

namespace ImageSearch

open Recognition

/-- A call of a recogniser with its answer. -/
inductive Call where
  | start (languages : List String) (answer : Except Recognition.Failure Unit)
  | read (path : Path) (answer : Except Recognition.Failure (List Item))

def Call.deed : Call → Deed
  | start languages _ => .start languages
  | read path _ => .read path

variable {σ : Type}

/-- The recogniser with a record of its calls, oldest first. -/
def Recognition.Recognizer.noted (r : Recognizer σ) : Recognizer (σ × List Call) where
  start languages s :=
    let (answer, next) := r.start languages s.1
    (answer, next, s.2 ++ [.start languages answer])
  read path s :=
    let (answer, next) := r.read path s.1
    (answer, next, s.2 ++ [.read path answer])
  stop s :=
    let (answer, next) := r.stop s.1
    (answer, next, s.2)

abbrev Visit := Path × Except Recognition.Failure (List Item)

namespace Visit

def lost (v : Visit) : Bool :=
  match v.2 with
  | .error (.workerExited _) | .error (.timeout _) | .error (.channelClosed _) => true
  | _ => false

/-- The document of an image in which some text was recognised. -/
def document? (v : Visit) : Option Document :=
  match v.2 with
  | .ok items => Document.ofRecognition v.1 items
  | .error _ => none

end Visit

/-- The calls that make some visits: between two of them the recogniser is started again if the
first one has lost the worker. -/
def visitCalls (languages : List String) : List Visit → List Call
  | [] => []
  | [visit] => [.read visit.1 visit.2]
  | visit :: next :: rest =>
    .read visit.1 visit.2 ::
      ((if visit.lost then [.start languages (.ok ())] else []) ++
        visitCalls languages (next :: rest))

/-- A start before the first of some visits, after the loss of a worker. -/
def reopening (languages : List String) (lost : Bool) (visits : List Visit) : List Call :=
  if lost && !visits.isEmpty then [.start languages (.ok ())] else []

theorem visitCalls_cons (languages : List String) (visit : Visit) (visits : List Visit) :
    visitCalls languages (visit :: visits) =
      .read visit.1 visit.2 ::
        (reopening languages visit.lost visits ++ visitCalls languages visits) := by
  cases visits with
  | nil => simp [visitCalls, reopening]
  | cons next rest => simp [visitCalls, reopening]

theorem readImage_eq (r : Recognizer σ) (path : Path) (s : σ) :
    readImage r path s =
      let visit : Visit := (path, (r.read path s).1)
      (visit.document?, visit.lost, (r.read path s).2) := by
  unfold readImage
  split
  · rename_i items next same
    rw [same]
    rfl
  · rename_i failure next same
    rw [same]
    cases failure with
    | workerExited | timeout | channelClosed => rfl
    | startup | protocol | initialization | recognition | io | json => rfl

/-- The worker is lost after some visits, or was lost before them if there are none. -/
def lostAfter (lost : Bool) (visits : List Visit) : Bool :=
  (visits.getLast?.map Visit.lost).getD lost

/-- How far a loop came: all images were visited, or the start after the loss of a worker failed. -/
structure Halts (languages : List String) (images : List Path) (lost : Bool)
    (visits : List Visit) (halt : List Call) : Prop where
  visited : visits.map Prod.fst <+: images
  ended : (visits.length = images.length ∧ halt = []) ∨
    (visits.length < images.length ∧ lostAfter lost visits = true ∧
      ∃ failure, halt = [.start languages (.error failure)])

theorem Halts.cons {languages : List String} {images : List Path} {visits : List Visit}
    {halt : List Call} {visit : Visit} (halts : Halts languages images visit.lost visits halt)
    (lost : Bool) : Halts languages (visit.1 :: images) lost (visit :: visits) halt := by
  have last : lostAfter lost (visit :: visits) = lostAfter visit.lost visits := by
    cases visits with
    | nil => rfl
    | cons => simp [lostAfter, List.getLast?_cons]
  refine ⟨List.cons_prefix_cons.mpr ⟨rfl, halts.visited⟩, ?_⟩
  rw [last, List.length_cons, List.length_cons]
  rcases halts.ended with ⟨all, done⟩ | ⟨fewer, rest⟩
  · exact .inl ⟨congrArg (· + 1) all, done⟩
  · exact .inr ⟨Nat.succ_lt_succ fewer, rest⟩

/-- The loop over the images does what its visits say: these are its calls, in order, with the
answers that the recogniser gives, and these are its documents. -/
def Follows (r : Recognizer σ) (languages : List String) (images : List Path) (lost : Bool) (s : σ)
    (calls : List Call) : Prop :=
  ∃ visits halt, Halts languages images lost visits halt ∧
    let made := reopening languages lost visits ++ visitCalls languages visits ++ halt
    let reading := readImages r languages images lost s
    reading.documents = visits.filterMap Visit.document? ∧ reading.deeds = made.map Call.deed ∧
      readImages r.noted languages images lost (s, calls) =
        ⟨reading.documents, (reading.recognizer, calls ++ made), reading.deeds⟩

variable {r : Recognizer σ} {languages : List String} {path : Path} {rest : List Path} {s : σ}
  {calls : List Call}

theorem readImages_visit (r : Recognizer σ) (languages : List String) (path : Path)
    (rest : List Path) (s : σ) :
    let visit : Visit := (path, (r.read path s).1)
    let later := readImages r languages rest visit.lost (r.read path s).2
    readImages r languages (path :: rest) false s =
      ⟨visit.document?.toList ++ later.documents, later.recognizer, .read path :: later.deeds⟩ := by
  intro visit later
  rw [readImages, readImage_eq]

theorem noted_read : r.noted.read path (s, calls) =
    ((r.read path s).1, (r.read path s).2, calls ++ [.read path (r.read path s).1]) := rfl

theorem noted_start : r.noted.start languages (s, calls) =
    ((r.start languages s).1, (r.start languages s).2,
      calls ++ [.start languages (r.start languages s).1]) := rfl

theorem Follows.visit
    (later : Follows r languages rest (Visit.lost (path, (r.read path s).1)) (r.read path s).2
      (calls ++ [.read path (r.read path s).1])) :
    Follows r languages (path :: rest) false s calls := by
  obtain ⟨visits, halt, halts, documents, deeds, run⟩ := later
  refine ⟨(path, (r.read path s).1) :: visits, halt, halts.cons false, ?_, ?_, ?_⟩
  · rw [readImages_visit, documents]
    cases document : Visit.document? (path, (r.read path s).1) with
    | none => rw [List.filterMap_cons_none document]; rfl
    | some d => rw [List.filterMap_cons_some document]; rfl
  · rw [readImages_visit, deeds, visitCalls_cons]
    simp [reopening, Call.deed]
  · simp only [readImages_visit, noted_read, run, visitCalls_cons]
    simp [reopening]

theorem readImages_restarted {next : σ} (started : r.start languages s = (.ok (), next)) :
    let later := readImages r languages (path :: rest) false next
    readImages r languages (path :: rest) true s =
      { later with deeds := .start languages :: later.deeds } := by
  intro later
  simp only [later, readImages, started]

theorem Follows.restart {next : σ} (started : r.start languages s = (.ok (), next))
    (later : Follows r languages (path :: rest) false next
      (calls ++ [.start languages (.ok ())])) :
    Follows r languages (path :: rest) true s calls := by
  obtain ⟨visits, halt, halts, documents, deeds, run⟩ := later
  have some_visit : visits.isEmpty = false := by
    cases visits with
    | nil =>
        rcases halts.ended with ⟨none, _⟩ | ⟨_, lost, _⟩
        · cases none
        · cases lost
    | cons => rfl
  have lost : lostAfter true visits = lostAfter false visits := by
    cases visits with
    | nil => cases some_visit
    | cons => simp [lostAfter, List.getLast?_cons]
  have noted_started : r.noted.start languages (s, calls) =
      (.ok (), next, calls ++ [.start languages (.ok ())]) := by
    rw [noted_start, started]
  refine ⟨visits, halt, ⟨halts.visited, lost ▸ halts.ended⟩, ?_, ?_, ?_⟩
  · rw [readImages_restarted started]
    exact documents
  · rw [readImages_restarted started]
    simp [deeds, reopening, some_visit, Call.deed]
  · rw [readImages_restarted started, readImages_restarted noted_started, run]
    simp [reopening, some_visit]

theorem Follows.halt {failure : Recognition.Failure} {next : σ}
    (failed : r.start languages s = (.error failure, next)) :
    Follows r languages (path :: rest) true s calls := by
  have noted_failed : r.noted.start languages (s, calls) =
      (.error failure, next, calls ++ [.start languages (.error failure)]) := by
    rw [noted_start, failed]
  refine ⟨[], [.start languages (.error failure)], ⟨List.nil_prefix, ?_⟩, ?_, ?_, ?_⟩
  · exact .inr ⟨Nat.succ_pos _, rfl, failure, rfl⟩
  · rw [readImages, failed]
    rfl
  · rw [readImages, failed]
    rfl
  · rw [readImages, readImages, failed, noted_failed]
    rfl

theorem readImages_follows (r : Recognizer σ) (languages : List String) (images : List Path)
    (lost : Bool) (s : σ) (calls : List Call) : Follows r languages images lost s calls := by
  induction images generalizing lost s calls with
  | nil =>
      refine ⟨[], [], ⟨List.nil_prefix, .inl ⟨rfl, rfl⟩⟩, rfl, ?_, ?_⟩
      · simp [readImages, reopening, visitCalls]
      · simp [readImages, reopening, visitCalls]
  | cons path rest ih =>
      have visited (s : σ) (calls : List Call) :
          Follows r languages (path :: rest) false s calls := Follows.visit (ih _ _ _)
      cases lost with
      | false => exact visited s calls
      | true =>
          cases outcome : r.start languages s with
          | mk answer next =>
              cases answer with
              | ok => exact Follows.restart outcome (visited _ _)
              | error failure => exact Follows.halt outcome

def Call.read? : Call → Option Path
  | .start _ _ => none
  | .read path _ => some path

theorem reads_visitCalls (languages : List String) (visits : List Visit) :
    (visitCalls languages visits).filterMap Call.read? = visits.map Prod.fst := by
  induction visits with
  | nil => rfl
  | cons visit visits ih =>
      have quiet : (reopening languages visit.lost visits).filterMap Call.read? = [] := by
        rw [reopening]
        split
        · rfl
        · rfl
      have first : Call.read? (.read visit.1 visit.2) = some visit.1 := rfl
      rw [visitCalls_cons, List.filterMap_cons_some first, List.filterMap_append, quiet, ih]
      rfl

theorem lostAfter_iff {visits : List Visit} : lostAfter false visits = true ↔
    ∃ visit, visits.getLast? = some visit ∧ visit.lost = true := by
  rw [lostAfter]
  cases visits.getLast? with
  | none => simp
  | some visit => simp

/-- A first start that fails is the only call, and its failure is the result. -/
theorem buildIndex_failed {failure : Recognition.Failure} {next : σ}
    (failed : r.start languages s = (.error failure, next)) (images : List Path) :
    buildIndex r languages images s = ⟨.error failure, next, [.start languages]⟩ ∧
      buildIndex r.noted languages images (s, []) =
        ⟨.error failure, (next, [.start languages (.error failure)]), [.start languages]⟩ := by
  constructor
  · rw [buildIndex, failed]
  · rw [buildIndex, noted_start, failed]
    rfl

/-- After a start the index and the calls are those of some visits. -/
theorem buildIndex_started {next : σ} (started : r.start languages s = (.ok (), next))
    (images : List Path) :
    ∃ visits halt, Halts languages images false visits halt ∧
      let made := Call.start languages (.ok ()) :: (visitCalls languages visits ++ halt)
      let built := buildIndex r languages images s
      built.index = .ok (visits.filterMap Visit.document?) ∧ built.deeds = made.map Call.deed ∧
        buildIndex r.noted languages images (s, []) =
          ⟨built.index, (built.recognizer, made), built.deeds⟩ := by
  obtain ⟨visits, halt, halts, documents, deeds, run⟩ :=
    readImages_follows r languages images false next [.start languages (.ok ())]
  have whole : buildIndex r languages images s =
      ⟨.ok (readImages r languages images false next).documents,
        (readImages r languages images false next).recognizer,
        .start languages :: (readImages r languages images false next).deeds⟩ := by
    rw [buildIndex, started]
  refine ⟨visits, halt, halts, ?_, ?_, ?_⟩
  · rw [whole, documents]
  · rw [whole]
    simp [deeds, reopening, Call.deed]
  · rw [whole, buildIndex, noted_start, started]
    simp only [List.nil_append, run]
    simp [reopening]

theorem Halts.reads {images : List Path} {lost : Bool} {visits : List Visit} {halt : List Call}
    (halts : Halts languages images lost visits halt) : halt.filterMap Call.read? = [] := by
  rcases halts.ended with ⟨_, rfl⟩ | ⟨_, _, failure, rfl⟩
  · rfl
  · rfl

/-- A scan is its reference. If the first start fails, that is the result, and nothing is read.
Otherwise the images are visited in order, with a start between two visits exactly if the first of
them has lost the worker; the visits end early only if such a start fails, and the index has one
document for each visit that recognised some text. -/
theorem buildIndex_calls (r : Recognizer σ) (languages : List String) (images : List Path)
    (s : σ) :
    let built := buildIndex r languages images s
    let run := buildIndex r.noted languages images (s, [])
    let calls := run.recognizer.2
    (built.index = run.index ∧ built.recognizer = run.recognizer.1 ∧
      built.deeds = calls.map Call.deed) ∧
    (∀ failure, (r.start languages s).1 = .error failure →
      built.index = .error failure ∧ calls = [.start languages (.error failure)]) ∧
    ((r.start languages s).1 = .ok () → ∃ visits halt,
      built.index = .ok (visits.filterMap Visit.document?) ∧
      calls = .start languages (.ok ()) :: (visitCalls languages visits ++ halt) ∧
      calls.filterMap Call.read? = visits.map Prod.fst ∧
      visits.map Prod.fst <+: images ∧
      ((visits.length = images.length ∧ halt = []) ∨
        (visits.length < images.length ∧ (∃ visit, visits.getLast? = some visit ∧ visit.lost = true) ∧
          ∃ failure, halt = [.start languages (.error failure)]))) ∧
    ∀ path items, (Document.ofRecognition path items).isSome = true ↔
      ∃ c ∈ Document.joinedText items, Text.isBlank c = false := by
  intro built run calls
  cases outcome : r.start languages s with
  | mk answer next =>
      cases answer with
      | error failure =>
          obtain ⟨bare, noted⟩ := buildIndex_failed outcome images
          refine ⟨?_, ?_, ?_, Document.isSome_ofRecognition⟩
          · simp [built, calls, run, bare, noted, Call.deed]
          · rintro other ⟨⟩
            simp [built, calls, run, bare, noted]
          · rintro ⟨⟩
      | ok =>
          obtain ⟨visits, halt, halts, documents, deeds, noted⟩ := buildIndex_started outcome images
          refine ⟨?_, ?_, ?_, Document.isSome_ofRecognition⟩
          · simp only [calls, run, noted]
            exact ⟨rfl, rfl, deeds⟩
          · rintro failure ⟨⟩
          · intro _
            simp only [calls, run, noted]
            refine ⟨visits, halt, documents, rfl, ?_, halts.visited, ?_⟩
            · rw [List.filterMap_cons_none rfl, List.filterMap_append, reads_visitCalls, halts.reads,
                List.append_nil]
            · rw [← lostAfter_iff]
              exact halts.ended

end ImageSearch
