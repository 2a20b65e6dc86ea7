import ImageSearch.Proofs.Channel.Seating

set_option autoImplicit false

namespace ImageSearch.Worker

open Recognition

def isAnswer (line : List Nat) : Bool :=
  match LineKind.ofLine line with
  | .answer _ => true
  | _ => false

theorem isAnswer_iff {line : List Nat} :
    isAnswer line ↔ ∃ r, LineKind.ofLine line = .answer r := by
  unfold isAnswer
  cases LineKind.ofLine line with
  | answer r => simp
  | nothing | noise => simp

/-- The line cannot be read. -/
def isNoise (line : List Nat) : Bool :=
  match LineKind.ofLine line with
  | .noise _ => true
  | _ => false

theorem isNoise_iff {line : List Nat} :
    isNoise line ↔ ∃ fault, LineKind.ofLine line = .noise fault := by
  unfold isNoise
  cases LineKind.ofLine line with
  | noise fault => simp
  | nothing | answer => simp

def Delivery.isStray (x : Delivery) : Bool := isAnswer x.line && x.receiver.isNone

/-- An unreadable line that is given to a send. -/
def Delivery.isRejection (x : Delivery) : Bool := isNoise x.line && x.receiver.isSome

def answers (reads : List Delivery) : Nat := reads.countP (isAnswer ·.line)

def strays (reads : List Delivery) : Nat := reads.countP Delivery.isStray

def rejections (reads : List Delivery) : Nat := reads.countP Delivery.isRejection

def receivers (reads : List Delivery) : List Nat := reads.filterMap Delivery.receiver

/-- The admitted sends that were not removed. -/
def Journal.kept (j : Journal) (place : Nat) : List Nat :=
  (j.sends .admitted place).filter (· ∉ j.sends .removed place)

theorem Journal.kept_admitted {j : Journal} {place k : Nat}
    (unremoved : k ∉ j.sends .removed place) :
    (j ++ [Fact.did .admitted k place]).kept place = j.kept place ++ [k] := by
  have admitted : (j ++ [Fact.did .admitted k place]).sends .admitted place =
      j.sends .admitted place ++ [k] := by simp
  have removed : (j ++ [Fact.did .admitted k place]).sends .removed place =
      j.sends .removed place := by simp
  rw [kept, kept, admitted, removed, List.filter_append]
  simp [unremoved]

theorem Journal.kept_wrote (j : Journal) (place k : Nat) :
    (j ++ [Fact.did .wrote k place]).kept place = j.kept place := by
  simp [kept]

theorem Journal.kept_gave (j : Journal) (place where_ : Nat) (x : Delivery) :
    (j ++ [Fact.gave where_ x]).kept place = j.kept place := by
  simp [kept]

theorem Journal.kept_removed (j : Journal) (place k : Nat) :
    (j ++ [Fact.did .removed k place]).kept place = (j.kept place).filter (· != k) := by
  have admitted : (j ++ [Fact.did .removed k place]).sends .admitted place =
      j.sends .admitted place := by simp
  rw [kept, kept, admitted, List.filter_filter]
  refine List.filter_congr ?_
  intro m _
  simp only [Journal.sends_append, Journal.sends_did, and_self, if_true, Journal.sends_nil,
    List.append_nil, List.mem_append, List.mem_singleton, not_or, Bool.decide_and, Bool.and_comm,
    bne, decide_not]
  rfl

/-- The lines that lie whole within a number of bytes. -/
def linesWithin : List String → Nat → Nat
  | [], _ => 0
  | line :: rest, bytes =>
    if line.utf8ByteSize ≤ bytes then linesWithin rest (bytes - line.utf8ByteSize) + 1 else 0

theorem linesWithin_le (lines : List String) (bytes : Nat) :
    linesWithin lines bytes ≤ lines.length := by
  induction lines generalizing bytes with
  | nil => exact Nat.le_refl 0
  | cons line rest ih =>
      rw [linesWithin]
      split
      · exact Nat.succ_le_succ (ih _)
      · exact Nat.zero_le _

def Process.requestsRead (p : Process) : Nat := linesWithin p.lines p.taken

/-- What a worker may write that answers every request that it reads with one line without an
identifier, in order. A noisy one may write unreadable lines in between. -/
def Process.MayWrite (noisy : Bool) (p : Process) (line : List Nat) : Prop :=
  match LineKind.ofLine line with
  | .nothing => True
  | .answer r => r.id = none ∧ p.output.countP isAnswer < p.requestsRead
  | .noise _ => noisy

instance (noisy : Bool) (p : Process) (line : List Nat) : Decidable (p.MayWrite noisy line) :=
  match reading : LineKind.ofLine line with
  | .nothing => .isTrue (by simp only [Process.MayWrite, reading])
  | .answer r =>
    decidable_of_iff (r.id = none ∧ p.output.countP isAnswer < p.requestsRead)
      (by simp only [Process.MayWrite, reading])
  | .noise _ => decidable_of_iff (noisy = true) (by simp only [Process.MayWrite, reading])

namespace Channel

def AnswersInOrder (noisy : Bool) (c : Channel) : Event → Prop
  | .workerWrites place line => ∀ p ∈ c.processes[place]?, p.MayWrite noisy line
  | _ => True

instance (noisy : Bool) (c : Channel) (e : Event) : Decidable (c.AnswersInOrder noisy e) :=
  match e with
  | .workerWrites place line =>
    inferInstanceAs (Decidable (∀ p ∈ c.processes[place]?, p.MayWrite noisy line))
  | .send .. | .enter .. | .insert .. | .write .. | .writeFails .. | .receive .. | .abandon ..
  | .expire .. | .withdraw .. | .kill .. | .close .. | .probe .. | .acknowledge ..
  | .endInput .. | .overrun .. | .killCurrent .. | .finish .. | .workerReads ..
  | .workerEndsInput .. | .workerExits .. | .readLine .. | .endOutput .. | .obeyKill ..
  | .reap .. | .publish .. | .drain .. | .tick .. => .isTrue trivial

variable {c d : Channel} {e : Event} {j facts : Journal} {i : Nat} {s : Send} {noisy : Bool}

theorem AnswersInOrder.output (rule : c.AnswersInOrder noisy e) {place : Nat} {p : Process}
    {line : List Nat} (found : c.processes[place]? = some p) (written : line ∈ e.output place) :
    p.MayWrite noisy line := by
  unfold Event.output at written
  split at written
  · split at written
    · rename_i here
      subst here
      rw [List.mem_singleton.mp written]
      exact rule p found
    · cases written
  · cases written

/-- A line without an identifier falls to the oldest entry. -/
theorem takeLine_oldest {t : Table} {bytes : List Nat}
    (idless : ∀ r, LineKind.ofLine bytes = .answer r → r.id = none) :
    (takeLine t bytes = (t, none) ∧ (isAnswer bytes → t.entries = [])) ∨
      ∃ x rest outcome, t.entries = x :: rest ∧ (isAnswer bytes || isNoise bytes) ∧
        takeLine t bytes = ({ t with entries := rest }, some ⟨x.caller, outcome⟩) := by
  have oldest (outcome : Outcome) (reads : isAnswer bytes || isNoise bytes)
      (same : takeLine t bytes = t.answerOldest outcome) :
      (takeLine t bytes = (t, none) ∧ (isAnswer bytes → t.entries = [])) ∨
        ∃ x rest outcome, t.entries = x :: rest ∧ (isAnswer bytes || isNoise bytes) ∧
          takeLine t bytes = ({ t with entries := rest }, some ⟨x.caller, outcome⟩) := by
    rw [same, Table.answerOldest]
    cases entries : t.entries with
    | nil => exact .inl ⟨rfl, fun _ => rfl⟩
    | cons x rest => exact .inr ⟨x, rest, outcome, rfl, reads, rfl⟩
  cases reading : LineKind.ofLine bytes with
  | nothing =>
      refine .inl ⟨by rw [takeLine_eq, reading], ?_⟩
      simp [isAnswer, reading]
  | answer response =>
      refine oldest (.ok response) (by simp [isAnswer, reading]) ?_
      rw [takeLine_eq, reading]
      simp only [Table.resolve, idless response reading]
  | noise fault =>
      refine oldest (.error (.protocol fault)) (by simp [isNoise, reading]) ?_
      rw [takeLine_eq, reading]
      rfl

/-- The reads of one process are in line with its requests. -/
structure Aligned (noisy : Bool) (j : Journal) (place : Nat) (p : Process) : Prop where
  consumed : p.consumed = (j.reads place).length
  lines : (j.reads place).map Delivery.line <+: p.output
  queue : p.table.closed = none →
    j.kept place = receivers (j.reads place) ++ p.table.entries.map Entry.caller
  passed : receivers (j.reads place) <+: j.kept place
  shut : p.table.closed.isSome → p.table.entries = []
  told : ∀ x ∈ j.reads place, x.receiver.isSome → isAnswer x.line || isNoise x.line
  answered : p.output.countP isAnswer ≤ (j.sends .wrote place).length
  idless : ∀ line ∈ p.output, ∀ r, LineKind.ofLine line = .answer r → r.id = none
  quiet : ∀ line ∈ p.output, isNoise line → noisy
  behind : ∀ before x after k, j.reads place = before ++ x :: after → x.receiver = some k →
    answers before ≤ (j.sends .admitted place).idxOf k
  next : p.table.closed = none → ∀ x ∈ p.table.entries,
    answers (j.reads place) ≤ (j.sends .admitted place).idxOf x.caller

theorem Aligned.start (place generation : Nat) :
    Aligned noisy [] place (Process.start generation) := by
  refine ⟨rfl, List.prefix_refl _, fun _ => rfl, List.prefix_refl _, fun _ => rfl, ?_, ?_, ?_, ?_,
    ?_, ?_⟩
  all_goals simp [Process.start, Table.empty]

/-- Journals that tell the same of a process. -/
structure SameFor (place : Nat) (j k : Journal) : Prop where
  admitted : k.sends .admitted place = j.sends .admitted place
  wrote : k.sends .wrote place = j.sends .wrote place
  removed : k.sends .removed place = j.sends .removed place
  reads : k.reads place = j.reads place

theorem SameFor.kept {place : Nat} {j k : Journal} (same : SameFor place j k) :
    k.kept place = j.kept place := by
  rw [Journal.kept, Journal.kept, same.admitted, same.removed]

theorem SameFor.quiet {place : Nat} (quiet : ∀ fact ∈ facts, fact.about ≠ some place) :
    SameFor place j (j ++ facts) := by
  refine ⟨?_, ?_, ?_, ?_⟩
  · rw [Journal.sends_append, Journal.sends_quiet quiet (by decide), List.append_nil]
  · rw [Journal.sends_append, Journal.sends_quiet quiet (by decide), List.append_nil]
  · rw [Journal.sends_append, Journal.sends_quiet quiet (by decide), List.append_nil]
  · rw [Journal.reads_append, Journal.reads_quiet quiet, List.append_nil]

theorem Aligned.same {place : Nat} {p : Process} {k : Journal} (aligned : Aligned noisy j place p)
    (same : SameFor place j k) : Aligned noisy k place p where
  consumed := by rw [same.reads, aligned.consumed]
  lines := by rw [same.reads]; exact aligned.lines
  queue := by rw [same.kept, same.reads]; exact aligned.queue
  passed := by rw [same.kept, same.reads]; exact aligned.passed
  shut := aligned.shut
  told := by rw [same.reads]; exact aligned.told
  answered := by rw [same.wrote]; exact aligned.answered
  idless := aligned.idless
  quiet := aligned.quiet
  behind := by rw [same.reads, same.admitted]; exact aligned.behind
  next := by rw [same.reads, same.admitted]; exact aligned.next

/-- The process writes a line that it may write, or none. -/
theorem Aligned.writes {place : Nat} {p q : Process} {more : List (List Nat)}
    (aligned : Aligned noisy j place p) (stays : p.Stays more q) (short : more.length ≤ 1)
    (may : ∀ line ∈ more, p.MayWrite noisy line)
    (count : p.lines.length = (j.sends .wrote place).length) : Aligned noisy j place q where
  consumed := by rw [stays.consumed, aligned.consumed]
  lines := by
    rw [stays.output]
    exact aligned.lines.trans (List.prefix_append _ _)
  queue := by rw [stays.table]; exact aligned.queue
  passed := aligned.passed
  shut := by rw [stays.table]; exact aligned.shut
  told := aligned.told
  answered := by
    rw [stays.output, List.countP_append]
    by_cases none_ : more.countP isAnswer = 0
    · rw [none_]
      exact aligned.answered
    · obtain ⟨line, member, answer⟩ := List.countP_pos_iff.mp (Nat.pos_of_ne_zero none_)
      have room : p.output.countP isAnswer < p.requestsRead := by
        have permitted := may line member
        obtain ⟨response, reading⟩ := isAnswer_iff.mp answer
        rw [Process.MayWrite, reading] at permitted
        exact permitted.2
      have read := linesWithin_le p.lines p.taken
      have most := List.countP_le_length (p := isAnswer) (l := more)
      unfold Process.requestsRead at room
      omega
  idless := by
    intro line member response reading
    rw [stays.output] at member
    rcases List.mem_append.mp member with old | new
    · exact aligned.idless line old response reading
    · have permitted := may line new
      rw [Process.MayWrite, reading] at permitted
      exact permitted.1
  quiet := by
    intro line member noise
    rw [stays.output] at member
    rcases List.mem_append.mp member with old | new
    · exact aligned.quiet line old noise
    · have permitted := may line new
      obtain ⟨fault, reading⟩ := isNoise_iff.mp noise
      rw [Process.MayWrite, reading] at permitted
      exact permitted
  behind := aligned.behind
  next := by rw [stays.table]; exact aligned.next

theorem idxOf_append_of_mem {l more : List Nat} {k : Nat} (member : k ∈ l) :
    (l ++ more).idxOf k = l.idxOf k := by
  rw [List.idxOf_append, if_pos member]

/-- The lines that were read hold no more answers than requests are admitted. -/
theorem Aligned.answers_le {place : Nat} {p : Process} (aligned : Aligned noisy j place p)
    (first : j.sends .wrote place <+: j.sends .admitted place) :
    answers (j.reads place) ≤ (j.sends .admitted place).length := by
  have read : answers (j.reads place) ≤ p.output.countP isAnswer := by
    rw [answers, ← Function.comp_def isAnswer Delivery.line, ← List.countP_map]
    exact aligned.lines.sublist.countP_le
  have answered := aligned.answered
  have most := first.length_le
  omega

theorem Aligned.admits {place k : Nat} {p : Process} {id : RequestId} {command : String}
    (aligned : Aligned noisy j place p)
    (first : j.sends .wrote place <+: j.sends .admitted place)
    (new : k ∉ j.sends .admitted place) (unremoved : k ∉ j.sends .removed place)
    (waiting : ∀ x ∈ p.table.entries, x.caller ∈ j.sends .admitted place)
    (unclosed : p.table.closed = none) :
    Aligned noisy (j ++ [Fact.did .admitted k place]) place
      { p with table := { p.table with entries := p.table.entries ++ [⟨id, command, k⟩] } } := by
  have admitted : (j ++ [Fact.did .admitted k place]).sends .admitted place =
      j.sends .admitted place ++ [k] := by simp
  have wrote : (j ++ [Fact.did .admitted k place]).sends .wrote place = j.sends .wrote place := by
    simp
  have reads : (j ++ [Fact.did .admitted k place]).reads place = j.reads place := by simp
  have kept := Journal.kept_admitted unremoved
  refine ⟨?_, ?_, ?_, ?_, ?_, ?_, ?_, aligned.idless, aligned.quiet, ?_, ?_⟩
  · rw [reads]
    exact aligned.consumed
  · rw [reads]
    exact aligned.lines
  · intro _
    rw [kept, reads, aligned.queue unclosed, List.map_append, List.append_assoc]
    rfl
  · rw [kept, reads]
    exact aligned.passed.trans (List.prefix_append _ _)
  · intro closed
    rw [unclosed] at closed
    cases closed
  · rw [reads]
    exact aligned.told
  · rw [wrote]
    exact aligned.answered
  · intro before x after r split given
    rw [reads] at split
    rw [admitted]
    have behind := aligned.behind before x after r split given
    have member : r ∈ j.sends .admitted place := by
      have passed : r ∈ j.kept place := by
        refine aligned.passed.subset ?_
        rw [receivers, List.mem_filterMap]
        exact ⟨x, by simp [split], given⟩
      exact (List.mem_filter.mp passed).1
    rwa [idxOf_append_of_mem member]
  · intro _ x member
    rw [reads, admitted]
    rcases List.mem_append.mp member with old | last
    · rw [idxOf_append_of_mem (waiting x old)]
      exact aligned.next unclosed x old
    · rw [List.mem_singleton.mp last, List.idxOf_append, if_neg new]
      have most := aligned.answers_le first
      omega

theorem prefix_next {α : Type} {l whole : List α} {x : α} (pre : l <+: whole)
    (next : whole[l.length]? = some x) : l ++ [x] <+: whole := by
  obtain ⟨rest, rfl⟩ := pre
  rw [List.getElem?_append_right (Nat.le_refl _), Nat.sub_self] at next
  cases rest with
  | nil => cases next
  | cons y more =>
      cases next
      exact ⟨more, by simp⟩

/-- In a list without repetitions the places of members grow along every part of it. -/
theorem idxOf_lt_of_sublist {l before after : List Nat} {k m : Nat} (nodup : l.Nodup)
    (part : (before ++ k :: after).Sublist l) (member : m ∈ after) : l.idxOf k < l.idxOf m := by
  have ordered : l.Pairwise fun a b => l.idxOf a < l.idxOf b := by
    rw [List.pairwise_iff_getElem]
    intro a b inside inside' less
    rwa [nodup.idxOf_getElem, nodup.idxOf_getElem]
  have tail := (List.pairwise_append.mp (ordered.sublist part)).2.1
  exact (List.pairwise_cons.mp tail).1 m member

theorem split_last {α : Type} {l before after : List α} {x y : α}
    (split : l ++ [y] = before ++ x :: after) :
    (l = before ∧ y = x) ∨ ∃ others, l = before ++ x :: others := by
  rcases List.eq_nil_or_concat after with rfl | ⟨others, last, rfl⟩
  · have parts := List.append_inj' split rfl
    exact .inl ⟨parts.1, by simpa using parts.2⟩
  · rw [List.concat_eq_append, ← List.cons_append, ← List.append_assoc] at split
    exact .inr ⟨others, (List.append_inj' split rfl).1⟩

section Reads

variable {place : Nat} {p : Process} {x : Delivery}

theorem Journal.reads_concat (j : Journal) (place : Nat) (x : Delivery) :
    (j ++ [Fact.gave place x]).reads place = j.reads place ++ [x] := by simp

theorem Journal.sends_concat (j : Journal) (place : Nat) (x : Delivery) (deed : Deed) :
    (j ++ [Fact.gave place x]).sends deed place = j.sends deed place := by simp

theorem Aligned.read_consumed (aligned : Aligned noisy j place p) :
    p.consumed + 1 = ((j ++ [Fact.gave place x]).reads place).length := by
  rw [Journal.reads_concat, List.length_append, aligned.consumed]
  rfl

theorem Aligned.read_lines (aligned : Aligned noisy j place p)
    (line : p.output[p.consumed]? = some x.line) :
    ((j ++ [Fact.gave place x]).reads place).map Delivery.line <+: p.output := by
  rw [Journal.reads_concat, List.map_append]
  refine prefix_next aligned.lines ?_
  rw [List.length_map, ← aligned.consumed]
  exact line

theorem Aligned.read_told (aligned : Aligned noisy j place p)
    (reading : x.receiver.isSome → isAnswer x.line || isNoise x.line) :
    ∀ y ∈ (j ++ [Fact.gave place x]).reads place,
      y.receiver.isSome → isAnswer y.line || isNoise y.line := by
  rw [Journal.reads_concat]
  intro y member told
  rcases List.mem_append.mp member with old | last
  · exact aligned.told y old told
  · rw [List.mem_singleton.mp last] at told ⊢
    exact reading told

theorem Aligned.read_behind (aligned : Aligned noisy j place p)
    (mine : ∀ k, x.receiver = some k →
      answers (j.reads place) ≤ (j.sends .admitted place).idxOf k) :
    ∀ before y after k, (j ++ [Fact.gave place x]).reads place = before ++ y :: after →
      y.receiver = some k →
      answers before ≤ ((j ++ [Fact.gave place x]).sends .admitted place).idxOf k := by
  intro before y after k split told
  rw [Journal.reads_concat] at split
  rw [Journal.sends_concat]
  rcases split_last split with ⟨rfl, rfl⟩ | ⟨others, old⟩
  · exact mine k told
  · exact aligned.behind before y others k old told

/-- A table that holds a request is not closed. -/
theorem Aligned.unclosed (aligned : Aligned noisy j place p) {y : Entry}
    (member : y ∈ p.table.entries) : p.table.closed = none := by
  cases closed : p.table.closed with
  | none => rfl
  | some code =>
      rw [aligned.shut (by rw [closed]; rfl)] at member
      cases member

end Reads

theorem Aligned.passes {place : Nat} {p : Process} {bytes : List Nat}
    (aligned : Aligned noisy j place p) (line : p.output[p.consumed]? = some bytes)
    (idle : isAnswer bytes → p.table.entries = []) :
    Aligned noisy (j ++ [Fact.gave place ⟨bytes, none⟩]) place
      { p with consumed := p.consumed + 1 } := by
  have given : receivers (j.reads place ++ [⟨bytes, none⟩]) = receivers (j.reads place) := by
    simp [receivers]
  refine ⟨aligned.read_consumed, aligned.read_lines line, ?_, ?_, aligned.shut,
    aligned.read_told nofun, ?_, aligned.idless, aligned.quiet, aligned.read_behind nofun, ?_⟩
  · rw [Journal.kept_gave, Journal.reads_concat, given]
    exact aligned.queue
  · rw [Journal.kept_gave, Journal.reads_concat, given]
    exact aligned.passed
  · rw [Journal.sends_concat]
    exact aligned.answered
  · intro unclosed x member
    rw [Journal.reads_concat, Journal.sends_concat, answers, List.countP_append]
    have silent : isAnswer bytes = false := by
      cases answer : isAnswer bytes with
      | false => rfl
      | true =>
          have none_ : p.table.entries = [] := idle answer
          rw [show p.table.entries = [] from none_] at member
          cases member
    have next := aligned.next unclosed x member
    rw [answers] at next
    simpa [silent] using next

theorem Aligned.gives {place : Nat} {p : Process} {bytes : List Nat} {x : Entry}
    {rest : List Entry} (aligned : Aligned noisy j place p)
    (nodup : (j.sends .admitted place).Nodup) (line : p.output[p.consumed]? = some bytes)
    (oldest : p.table.entries = x :: rest) (reading : isAnswer bytes || isNoise bytes) :
    Aligned noisy (j ++ [Fact.gave place ⟨bytes, some x.caller⟩]) place
      { p with table := { p.table with entries := rest }, consumed := p.consumed + 1 } := by
  have first : x ∈ p.table.entries := by
    rw [oldest]
    exact List.mem_cons_self
  have unclosed := aligned.unclosed first
  have queue := aligned.queue unclosed
  rw [oldest, List.map_cons] at queue
  have given : receivers (j.reads place ++ [⟨bytes, some x.caller⟩]) =
      receivers (j.reads place) ++ [x.caller] := by simp [receivers]
  have behind := aligned.next unclosed x first
  refine ⟨aligned.read_consumed, aligned.read_lines line, ?_, ?_, ?_,
    aligned.read_told fun _ => reading, ?_, aligned.idless, aligned.quiet,
    aligned.read_behind ?_, ?_⟩
  · intro _
    rw [Journal.kept_gave, Journal.reads_concat, given, queue, List.append_assoc]
    rfl
  · rw [Journal.kept_gave, Journal.reads_concat, given, queue]
    exact ⟨rest.map Entry.caller, by simp⟩
  · intro closed
    rw [unclosed] at closed
    cases closed
  · rw [Journal.sends_concat]
    exact aligned.answered
  · intro k told
    cases told
    exact behind
  · intro _ y member
    rw [Journal.reads_concat, Journal.sends_concat, answers, List.countP_append]
    have part : (receivers (j.reads place) ++ x.caller :: rest.map Entry.caller).Sublist
        (j.sends .admitted place) := queue ▸ List.filter_sublist
    have less := idxOf_lt_of_sublist nodup part (List.mem_map_of_mem member)
    have most := List.countP_le_length (p := fun y : Delivery => isAnswer y.line)
      (l := [⟨bytes, some x.caller⟩])
    rw [answers] at behind
    rw [List.length_singleton] at most
    omega

theorem filter_ne_of_not_mem {l : List Nat} {k : Nat} (absent : k ∉ l) :
    l.filter (· != k) = l := by
  rw [List.filter_eq_self]
  intro m member
  rw [bne_iff_ne]
  exact fun same => absent (same ▸ member)

theorem Aligned.removes_held {place k : Nat} {p : Process} {table : Table}
    (aligned : Aligned noisy j place p) (nodup : (j.sends .admitted place).Nodup)
    (entries : table.entries = p.table.entries.filter (·.caller != k))
    (closed : table.closed = p.table.closed) (held : holds p k = true) :
    Aligned noisy (j ++ [Fact.did .removed k place]) place { p with table := table } := by
  obtain ⟨x, member, mine⟩ := List.any_eq_true.mp held
  rw [beq_iff_eq] at mine
  have unclosed := aligned.unclosed member
  have queue := aligned.queue unclosed
  have sends (deed : Deed) (other : deed ≠ .removed) :
      (j ++ [Fact.did .removed k place]).sends deed place = j.sends deed place := by
    simp [Ne.symm other]
  have reads : (j ++ [Fact.did .removed k place]).reads place = j.reads place := by simp
  have kept := j.kept_removed place k
  have apart : k ∉ receivers (j.reads place) := by
    intro given
    have once : (j.kept place).Nodup := nodup.sublist List.filter_sublist
    rw [queue, List.nodup_append] at once
    exact once.2.2 k given k (mine ▸ List.mem_map_of_mem member) rfl
  have others : (receivers (j.reads place)).filter (· != k) = receivers (j.reads place) :=
    filter_ne_of_not_mem apart
  have rest : (p.table.entries.map Entry.caller).filter (· != k) =
      table.entries.map Entry.caller := by
    rw [List.filter_map, entries]
    rfl
  refine ⟨?_, ?_, ?_, ?_, ?_, ?_, ?_, aligned.idless, aligned.quiet, ?_, ?_⟩
  · rw [reads]
    exact aligned.consumed
  · rw [reads]
    exact aligned.lines
  · intro _
    rw [kept, reads, queue, List.filter_append, others, rest]
  · rw [kept, reads, queue, List.filter_append, others]
    exact List.prefix_append _ _
  · intro shut
    rw [show table.closed.isSome = p.table.closed.isSome by rw [closed], unclosed] at shut
    cases shut
  · rw [reads]
    exact aligned.told
  · rw [sends .wrote (by decide)]
    exact aligned.answered
  · rw [reads, sends .admitted (by decide)]
    exact aligned.behind
  · rw [reads, sends .admitted (by decide)]
    intro _ y left
    refine aligned.next unclosed y ?_
    rw [show table.entries = _ from entries] at left
    exact (List.mem_filter.mp left).1

theorem Aligned.removes {place k : Nat} {p : Process} {table : Table}
    (aligned : Aligned noisy j place p) (nodup : (j.sends .admitted place).Nodup)
    (entries : table.entries = p.table.entries.filter (·.caller != k))
    (closed : table.closed = p.table.closed) :
    Aligned noisy (j ++ if holds p k then [Fact.did .removed k place] else []) place
      { p with table := table } := by
  by_cases held : holds p k = true
  · rw [if_pos held]
    exact aligned.removes_held nodup entries closed held
  · rw [if_neg held, List.append_nil]
    have unchanged : table.entries = p.table.entries := by
      rw [entries, List.filter_eq_self]
      intro x member
      rw [bne_iff_ne]
      intro mine
      exact held (List.any_eq_true.mpr ⟨x, member, by simpa using mine⟩)
    have same : table = p.table := by
      cases table with
      | mk es cl =>
          dsimp only at unchanged closed
          rw [unchanged, closed]
    rw [same]
    exact aligned

theorem Aligned.closes {place : Nat} {p : Process} (aligned : Aligned noisy j place p)
    (code : Option Int) :
    Aligned noisy j place { p with table := (p.table.failAll code).1 } where
  consumed := aligned.consumed
  lines := aligned.lines
  queue := fun unclosed => by cases unclosed
  passed := aligned.passed
  shut := fun _ => rfl
  told := aligned.told
  answered := aligned.answered
  idless := aligned.idless
  quiet := aligned.quiet
  behind := aligned.behind
  next := fun unclosed => by cases unclosed

theorem Aligned.takes {place : Nat} {p : Process} {bytes : List Nat}
    (aligned : Aligned noisy j place p) (nodup : (j.sends .admitted place).Nodup)
    (line : p.output[p.consumed]? = some bytes) :
    Aligned noisy (j ++ [Fact.gave place ⟨bytes, (takeLine p.table bytes).2.map Reply.caller⟩])
      place { p with table := (takeLine p.table bytes).1, consumed := p.consumed + 1 } := by
  rcases takeLine_oldest (aligned.idless bytes (List.mem_of_getElem? line)) with
    ⟨same, idle⟩ | ⟨x, rest, outcome, oldest, reading, same⟩
  · rw [same]
    exact aligned.passes line idle
  · rw [same]
    exact aligned.gives nodup line oldest reading

structure InLine (noisy : Bool) (c : Channel) (j : Journal) : Prop where
  unread : ∀ place, c.processes.length ≤ place → j.reads place = []
  each : ∀ (place : Nat) (p : Process), c.processes[place]? = some p → Aligned noisy j place p

theorem Aligned.hears {place k sent : Nat} {p : Process} {lines : List String}
    (aligned : Aligned noisy j place p) :
    Aligned noisy (j ++ [Fact.did .wrote k place]) place
      { p with sent := sent, lines := lines } := by
  have sends (deed : Deed) (other : deed ≠ .wrote) :
      (j ++ [Fact.did .wrote k place]).sends deed place = j.sends deed place := by
    simp [Ne.symm other]
  have reads : (j ++ [Fact.did .wrote k place]).reads place = j.reads place := by simp
  have kept := j.kept_wrote place k
  refine ⟨?_, ?_, ?_, ?_, aligned.shut, ?_, ?_, aligned.idless, aligned.quiet, ?_, ?_⟩
  · rw [reads]
    exact aligned.consumed
  · rw [reads]
    exact aligned.lines
  · rw [kept, reads]
    exact aligned.queue
  · rw [kept, reads]
    exact aligned.passed
  · rw [reads]
    exact aligned.told
  · rw [Journal.sends_append, List.length_append]
    exact Nat.le_add_right_of_le aligned.answered
  · rw [reads, sends .admitted (by decide)]
    exact aligned.behind
  · rw [reads, sends .admitted (by decide)]
    exact aligned.next

theorem Move.unread (move : c.Move e facts d) {place : Nat}
    (outside : c.processes.length ≤ place) : facts.reads place = [] := by
  rw [List.eq_nil_iff_forall_not_mem]
  intro x member
  obtain ⟨p, _, process, _⟩ := move.reads member
  have inside := (List.getElem?_eq_some_iff.mp process).1
  omega

theorem Move.unread_step (move : c.Move e facts d) {place : Nat}
    (unread : c.processes.length ≤ place → j.reads place = [])
    (outside : d.processes.length ≤ place) : (j ++ facts).reads place = [] := by
  have grown := move.processes_length
  rw [Journal.reads_append, unread (by omega), move.unread (by omega)]
  rfl

theorem Aligned.step {place : Nat} {q : Process}
    (aligned : ∀ p, c.processes[place]? = some p → Aligned noisy j place p)
    (unread : c.processes.length ≤ place → j.reads place = [])
    (may : ∀ p line, c.processes[place]? = some p → line ∈ e.output place → p.MayWrite noisy line)
    (written : c.Written j) (chronicled : c.Chronicled j) (seated : c.Seated)
    (distinct : c.DistinctIds) (move : c.Move e facts d)
    (at_ : d.processes[place]? = some q) : Aligned noisy (j ++ facts) place q := by
  have nodup := chronicled.nodup .admitted place
  cases move.upkeep at_ with
  | starts new same quiet =>
      have nobody (deed : Deed) : j.sends deed place = [] := by
        rw [List.eq_nil_iff_forall_not_mem]
        intro k member
        have known := (chronicled.known _ _ _ (Journal.mem_sends.mp member)).2
        omega
      rw [same]
      exact (Aligned.start place _).same (k := j)
        ⟨nobody _, nobody _, nobody _, unread new⟩ |>.same (.quiet quiet)
  | stays found stays written' quiet =>
      have short := Event.output_length e place
      refine Aligned.same ?_ (.quiet quiet)
      refine (aligned _ found).writes stays ?_ ?_ (written.count place _ found)
      · rcases written' with none_ | output
        · rw [none_]
          exact Nat.zero_le 1
        · rwa [output]
      · intro line member
        rcases written' with none_ | output
        · rw [none_] at member
          cases member
        · exact may _ line found (output ▸ member)
  | admits found send entered unclosed did same =>
      rename_i p k s
      rw [same, did]
      have ahead (deed : Deed) (coming : deed ∈ [Deed.admitted, .wrote, .removed]) :
          k ∉ j.sends deed place := by
        rw [Journal.mem_sends]
        exact chronicled.ahead _ _ deed place send (by rw [entered]; exact coming)
      refine (aligned _ found).admits (written.first place) (ahead _ (by simp))
        (ahead _ (by simp)) ?_ unclosed
      intro x member
      exact Journal.mem_sends.mpr (chronicled.entries place _ x found member)
  | hears found send writing accepts did same =>
      rw [same, did]
      exact (aligned _ found).hears
  | removes found send phase did same =>
      rw [same, did]
      exact (aligned _ found).removes nodup (seated.remove distinct found send) rfl
  | takes found line gave same =>
      rw [same, gave]
      exact (aligned _ found).takes nodup line
  | closes found exited quiet same =>
      rw [same, quiet, List.append_nil]
      exact (aligned _ found).closes _

theorem InLine.step (inline : c.InLine noisy j) (rule : c.AnswersInOrder noisy e)
    (written : c.Written j) (chronicled : c.Chronicled j) (seated : c.Seated)
    (distinct : c.DistinctIds) (move : c.Move e facts d) : d.InLine noisy (j ++ facts) where
  unread place := move.unread_step (inline.unread place)
  each place _ := Aligned.step (inline.each place) (inline.unread place)
    (fun _ _ => rule.output) written chronicled seated distinct move

end Channel

end ImageSearch.Worker
