import ImageSearch.Proofs.Channel.Fate

set_option autoImplicit false

namespace ImageSearch.Worker

open Recognition

theorem not_noise_of_answer {line : List Nat} (answer : isAnswer line) : isNoise line = false := by
  obtain ⟨response, reading⟩ := isAnswer_iff.mp answer
  rw [isNoise, reading]

theorem Delivery.balance (x : Delivery)
    (told : x.receiver.isSome → isAnswer x.line || isNoise x.line) :
    (if x.receiver.isSome then 1 else 0) + (if x.isStray then 1 else 0) =
      (if isAnswer x.line then 1 else 0) + (if x.isRejection then 1 else 0) := by
  rw [Delivery.isStray, Delivery.isRejection]
  cases answer : isAnswer x.line with
  | true =>
      rw [not_noise_of_answer answer]
      cases given : x.receiver with
      | none => simp
      | some k => simp
  | false =>
      rw [answer, Bool.false_or] at told
      cases given : x.receiver.isSome with
      | true => simp [told given]
      | false => simp

/-- What is given is every answer that is not a stray one, and the rejections. -/
theorem balance {reads : List Delivery}
    (told : ∀ x ∈ reads, x.receiver.isSome → isAnswer x.line || isNoise x.line) :
    (receivers reads).length + strays reads = answers reads + rejections reads := by
  rw [receivers, List.length_filterMap_eq_countP, strays, answers, rejections]
  induction reads with
  | nil => rfl
  | cons x rest ih =>
      have others := ih fun y member => told y (List.mem_cons_of_mem _ member)
      have first := x.balance (told x List.mem_cons_self)
      simp only [List.countP_cons]
      omega

/-- How many of the first requests that were written were taken out of the table. -/
def Journal.withdrawn (j : Journal) (place n : Nat) : Nat :=
  ((j.sends .wrote place).take n).countP (· ∈ j.sends .removed place)

namespace Channel

variable {c d : Channel} {e : Event} {j facts : Journal} {i : Nat} {s : Send} {noisy : Bool}

/-- The send that a line is given to is as far behind the answers before that line as lines and
requests were passed over. -/
theorem Aligned.shift {place k : Nat} {p : Process} {before after : List Delivery} {x : Delivery}
    (aligned : Aligned noisy j place p)
    (first : j.sends .wrote place <+: j.sends .admitted place)
    (nodup : (j.sends .admitted place).Nodup) (split : j.reads place = before ++ x :: after)
    (receives : x.receiver = some k) (wrote : k ∈ j.sends .wrote place) :
    answers before ≤ (j.sends .wrote place).idxOf k ∧
      answers before + rejections before + j.withdrawn place ((j.sends .wrote place).idxOf k) =
        (j.sends .wrote place).idxOf k + strays before := by
  have behind := aligned.behind before x after k split receives
  have even := balance fun y (member : y ∈ before) =>
    aligned.told y (split ▸ List.mem_append_left _ member)
  obtain ⟨later, admitted⟩ := first
  have place_ : (j.sends .admitted place).idxOf k = (j.sends .wrote place).idxOf k := by
    rw [← admitted, idxOf_append_of_mem wrote]
  have inside := List.idxOf_lt_length_of_mem wrote
  generalize position : (j.sends .wrote place).idxOf k = n at *
  have cut : j.sends .admitted place =
      (j.sends .wrote place).take n ++ k :: ((j.sends .wrote place).drop (n + 1) ++ later) := by
    have here : (j.sends .wrote place)[n] = k := by
      subst position
      exact List.getElem_idxOf inside
    rw [← admitted, ← List.cons_append, ← here, ← List.drop_eq_getElem_cons inside,
      ← List.append_assoc, List.take_append_drop]
  obtain ⟨waiting, kept⟩ := aligned.passed
  have order : receivers (j.reads place) =
      receivers before ++ k :: receivers after := by
    simp [split, receivers, receives]
  have unremoved : k ∉ j.sends .removed place := by
    have member : k ∈ j.kept place := by
      rw [← kept, order]
      simp
    simpa using (List.mem_filter.mp member).2
  have once : (j.kept place).Nodup := nodup.sublist List.filter_sublist
  have fresh : k ∉ (j.sends .wrote place).take n := by
    rw [cut, List.nodup_append] at nodup
    exact fun member => nodup.2.2 k member k List.mem_cons_self rfl
  have earlier : k ∉ receivers before := by
    rw [← kept, order, List.append_assoc, List.nodup_append] at once
    exact fun member => once.2.2 k member k List.mem_cons_self rfl
  have same : (receivers before).length =
      (((j.sends .wrote place).take n).filter (· ∉ j.sends .removed place)).length := by
    have left : (j.kept place).idxOf k = (receivers before).length := by
      rw [← kept, order, List.append_assoc, List.idxOf_append, if_neg earlier]
      simp
    have right : (j.kept place).idxOf k =
        (((j.sends .wrote place).take n).filter (· ∉ j.sends .removed place)).length := by
      have out : k ∉ ((j.sends .wrote place).take n).filter (· ∉ j.sends .removed place) :=
        fun member => fresh (List.mem_filter.mp member).1
      rw [Journal.kept, cut, List.filter_append, List.filter_cons_of_pos (by simpa using unremoved),
        List.idxOf_append, if_neg out]
      simp
    rw [← left, right]
  have total := List.length_eq_countP_add_countP (· ∈ j.sends .removed place)
    (l := (j.sends .wrote place).take n)
  rw [List.length_take, Nat.min_eq_left (Nat.le_of_lt inside)] at total
  have rest : ((j.sends .wrote place).take n).countP (fun a => ¬ a ∈ j.sends .removed place) =
      (((j.sends .wrote place).take n).filter (· ∉ j.sends .removed place)).length := by
    rw [List.countP_eq_length_filter]
  rw [place_] at behind
  refine ⟨behind, ?_⟩
  rw [Journal.withdrawn]
  simp only [decide_eq_true_eq] at total
  omega

theorem Fated.withdrawn_eq_zero (fated : c.Fated j) (chronicled : c.Chronicled j) (timed : c.Timed)
    (untimed : c.timeout = none) (place n : Nat) : j.withdrawn place n = 0 := by
  rw [Journal.withdrawn, List.countP_eq_zero]
  intro k member removed
  have wrote := Journal.mem_sends.mp (List.mem_of_mem_take member)
  have out := Journal.mem_sends.mp (of_decide_eq_true removed)
  exact fated.unremoved chronicled timed untimed wrote out

/-- Where the worker writes no noise, every line that is given to a send reads as an answer. -/
theorem Aligned.readable {place : Nat} {p : Process} {x : Delivery}
    (aligned : Aligned false j place p) (member : x ∈ j.reads place)
    (receives : x.receiver.isSome) : isAnswer x.line := by
  have line := aligned.lines.subset (List.mem_map_of_mem member)
  rcases Bool.or_eq_true_iff.mp (aligned.told x member receives) with answer | noise
  · exact answer
  · exact absurd (aligned.quiet x.line line noise) Bool.false_ne_true

theorem Aligned.no_rejections {place : Nat} {p : Process} {part : List Delivery}
    (aligned : Aligned false j place p) (read : part ⊆ j.reads place) : rejections part = 0 := by
  rw [rejections, List.countP_eq_zero]
  intro x member rejected
  rw [Delivery.isRejection, Bool.and_eq_true] at rejected
  have clear := not_noise_of_answer (aligned.readable (read member) rejected.2)
  rw [rejected.1] at clear
  cases clear

/-- What every run of a channel keeps in which the worker answers in order and the identifiers are
distinct. -/
structure Served (noisy : Bool) (c : Channel) (j : Journal) : Prop where
  sound : c.Sound j
  locked : c.Locked
  written : c.Written j
  seated : c.Seated
  inline : c.InLine noisy j
  fated : c.Fated j
  timed : c.Timed

theorem start_served (noisy : Bool) (program : String) (timeout : Option Duration)
    (capacity : Nat) : (start program timeout capacity).Served noisy [] := by
  refine ⟨start_sound program timeout capacity, ?_, ⟨?_, ?_, ?_, ?_⟩, ⟨?_, ?_, ?_⟩, ⟨?_, ?_⟩,
    ⟨?_, ?_⟩, ?_⟩
  all_goals simp [start, Locked, Timed]

theorem Served.step (served : c.Served noisy j) (rule : c.AnswersInOrder noisy e)
    (distinct : c.DistinctIds) (move : c.Move e facts d) : d.Served noisy (j ++ facts) := by
  have chronicled := served.sound.chronicled
  exact ⟨served.sound.step move, served.locked.step move,
    served.written.step served.locked chronicled move,
    served.seated.step (served.seated.takesOwn distinct) chronicled move,
    served.inline.step rule served.written chronicled served.seated distinct move,
    served.fated.step chronicled served.seated move,
    served.timed.step served.sound.explained move⟩

theorem run_served {events : List Event} (served : c.Served noisy j)
    (orderly : Obeys (AnswersInOrder noisy) c events) (run : c.run events = some d)
    (distinct : d.DistinctIds) : d.Served noisy (j ++ c.journal events) := by
  refine orderly.invariant (motive := fun c j => c.DistinctIds → c.Served noisy j) ?_ run
    (fun _ => served) distinct
  intro c j e d kept rule stepped distinct
  have move := step_move stepped
  have before := distinct.back move
  exact (kept before).step rule before move

/-- A send returned the line of a process that was read after some others. -/
def ReturnsAfter (c : Channel) (j : Journal) (place : Nat) (before : List Delivery) (k : Nat) :
    Prop :=
  ∃ x after r, j.reads place = before ++ x :: after ∧ x.receiver = some k ∧
    LineKind.ofLine x.line = .answer r ∧ c.result? k = some r

/-- The send whose request the next answer is for. -/
def answersNext (j : Journal) (place : Nat) (before : List Delivery) : Option Nat :=
  (j.sends .wrote place)[answers before]?

theorem Served.wrote {place k : Nat} {before : List Delivery} (served : c.Served noisy j)
    (returns : c.ReturnsAfter j place before k) : Fact.did .wrote k place ∈ j := by
  obtain ⟨x, after, r, split, receives, _, returned⟩ := returns
  obtain ⟨s, found, ended⟩ := result?_eq_some.mp returned
  have read : x ∈ j.reads place := split ▸ List.mem_append_right _ List.mem_cons_self
  have admitted := served.sound.chronicled.receivers place k x read receives
  cases served.sound.explained.ends k s _ found ended with
  | told wrote => exact served.sound.chronicled.alone wrote admitted ▸ wrote

theorem Served.returns {k : Nat} {r : Response} (served : c.Served noisy j)
    (returned : c.result? k = some r) : ∃ place before, c.ReturnsAfter j place before k := by
  obtain ⟨place, _, x, member, receives, reading⟩ := served.sound.answered returned
  obtain ⟨before, after, split⟩ := List.append_of_mem member
  exact ⟨place, before, x, after, r, split, receives, reading, returned⟩

theorem Served.home {place home k : Nat} {before : List Delivery} (served : c.Served noisy j)
    (only : ∀ fact ∈ j, fact.about = none ∨ fact.about = some home)
    (returns : c.ReturnsAfter j place before k) : place = home := by
  rcases only _ (served.wrote returns) with nowhere | same
  · cases nowhere
  · exact Option.some.inj same

theorem Served.process {place k : Nat} {deed : Deed} (served : c.Served noisy j)
    (did : Fact.did deed k place ∈ j) : ∃ p, c.processes[place]? = some p :=
  ⟨_, List.getElem?_eq_getElem (served.sound.chronicled.known deed k place did).2⟩

theorem Served.shift {place k : Nat} {before : List Delivery} (served : c.Served noisy j)
    (returns : c.ReturnsAfter j place before k) :
    answers before ≤ (j.sends .wrote place).idxOf k ∧
      answers before + rejections before + j.withdrawn place ((j.sends .wrote place).idxOf k) =
        (j.sends .wrote place).idxOf k + strays before := by
  have wrote := served.wrote returns
  obtain ⟨p, process⟩ := served.process wrote
  obtain ⟨x, after, r, split, receives, _⟩ := returns
  exact (served.inline.each place p process).shift (served.written.first place)
    (served.sound.chronicled.nodup .admitted place) split receives (Journal.mem_sends.mpr wrote)

theorem getElem?_idxOf_wrote {place k : Nat} (did : Fact.did .wrote k place ∈ j) :
    (j.sends .wrote place)[(j.sends .wrote place).idxOf k]? = some k := by
  have inside := List.idxOf_lt_length_of_mem (Journal.mem_sends.mpr did)
  rw [List.getElem?_eq_getElem inside, List.getElem_idxOf]

/-- The next answer is for a send exactly when as many answers came before as requests. -/
theorem Served.answersNext_iff {place k : Nat} {before : List Delivery}
    (served : c.Served noisy j) (did : Fact.did .wrote k place ∈ j) :
    answersNext j place before = some k ↔ answers before = (j.sends .wrote place).idxOf k := by
  have nodup := served.sound.chronicled.nodup .wrote place
  constructor
  · intro next
    obtain ⟨inside, here⟩ := List.getElem?_eq_some_iff.mp next
    subst here
    exact (nodup.idxOf_getElem _ inside).symm
  · intro same
    rw [answersNext, same]
    exact getElem?_idxOf_wrote did

theorem Served.withdrawn_eq_zero (served : c.Served noisy j) (untimed : c.timeout = none)
    (place n : Nat) : j.withdrawn place n = 0 :=
  served.fated.withdrawn_eq_zero served.sound.chronicled served.timed untimed place n

theorem run_timeout {events : List Event} (run : c.run events = some d) :
    d.timeout = c.timeout := by
  refine run_invariant (motive := fun d _ => d.timeout = c.timeout) (j := []) ?_ run rfl
  intro b j e d same stepped
  rw [(step_move stepped).timeout, same]

/-- Without a timeout a send that returns an answer returns the one to an earlier request of its
process or to its own, which lies back by the unreadable lines that were given to requests less the
answers that were given to none. -/
theorem attribution_with_noise {program : String} {capacity : Nat} {events : List Event}
    {c : Channel} {k : Nat} {r : Response}
    (run : (start program none capacity).run events = some c)
    (orderly : Obeys (AnswersInOrder true) (start program none capacity) events)
    (distinct : c.DistinctIds) (returned : c.result? k = some r) :
    ∃ place before n p s,
      c.ReturnsAfter ((start program none capacity).journal events) place before k ∧
      (((start program none capacity).journal events).sends .wrote place)[n]? = some k ∧
      c.processes[place]? = some p ∧ c.sends[k]? = some s ∧ p.lines[n]? = some s.line ∧
      answers before ≤ n ∧ answers before + rejections before = n + strays before ∧
      (answersNext ((start program none capacity).journal events) place before = some k ↔
        rejections before = strays before) := by
  have served := run_served (start_served true program none capacity) orderly run distinct
  rw [List.nil_append] at served
  generalize (start program none capacity).journal events = j at served ⊢
  obtain ⟨s, found, _⟩ := result?_eq_some.mp returned
  obtain ⟨place, before, returns⟩ := served.returns returned
  have wrote := served.wrote returns
  obtain ⟨p, process⟩ := served.process wrote
  have here := getElem?_idxOf_wrote wrote
  obtain ⟨behind, account⟩ := served.shift returns
  rw [served.withdrawn_eq_zero (run_timeout run), Nat.add_zero] at account
  refine ⟨place, before, _, p, s, returns, here, process, found,
    served.written.line place _ k p s process here found, behind, account, ?_⟩
  rw [served.answersNext_iff wrote]
  omega

/-- A line that cannot be read comes before the answer to the first request, which is read when the
second request waits. -/
def noiseRun : List Event :=
  [.send 1 ⟨"a", []⟩, .enter 0 none, .insert 0, .write 0 2, .workerReads 0 2,
    .workerWrites 0 (plainLine "noise"), .readLine 0, .receive 0, .workerWrites 0 successLine,
    .send 2 ⟨"b", []⟩, .enter 1 none, .insert 1, .write 1 2, .readLine 0, .receive 1]

theorem noiseRun_returns :
    ∃ c r, (start "worker" none pipeCapacity).run noiseRun = some c ∧
      Obeys (AnswersInOrder true) (start "worker" none pipeCapacity) noiseRun ∧
      c.DistinctIds ∧ c.result? 1 = some r := by
  have checked : ((start "worker" none pipeCapacity).run noiseRun).any (fun c =>
      decide c.DistinctIds && (c.result? 1).isSome) = true := by decide +kernel
  obtain ⟨c, run, rest⟩ := (Option.any_eq_true _ _).mp checked
  rw [Bool.and_eq_true, decide_eq_true_eq] at rest
  obtain ⟨r, returned⟩ := Option.isSome_iff_exists.mp rest.2
  exact ⟨c, r, run, by decide +kernel, rest.1, returned⟩

theorem noiseRun_account :
    ∃ c r, (start "worker" none pipeCapacity).run noiseRun = some c ∧
      Obeys (AnswersInOrder true) (start "worker" none pipeCapacity) noiseRun ∧
      c.DistinctIds ∧ c.result? 1 = some r ∧
      ∃ place before n,
        c.ReturnsAfter ((start "worker" none pipeCapacity).journal noiseRun) place before 1 ∧
        answers before ≤ n ∧ answers before + rejections before = n + strays before := by
  obtain ⟨c, r, run, orderly, distinct, returned⟩ := noiseRun_returns
  obtain ⟨place, before, n, _, _, returns, _, _, _, _, behind, account, _⟩ :=
    attribution_with_noise run orderly distinct returned
  exact ⟨c, r, run, orderly, distinct, returned, place, before, n, returns, behind, account⟩

/-- The second request returns the answer to the first one. -/
theorem noiseRun_misattributes :
    ∃ c before, (start "worker" none pipeCapacity).run noiseRun = some c ∧
      Obeys (AnswersInOrder true) (start "worker" none pipeCapacity) noiseRun ∧
      c.DistinctIds ∧
      c.ReturnsAfter ((start "worker" none pipeCapacity).journal noiseRun) 0 before 1 ∧
      answersNext ((start "worker" none pipeCapacity).journal noiseRun) 0 before = some 0 := by
  obtain ⟨c, r, run, orderly, distinct, returned⟩ := noiseRun_returns
  have served := run_served (start_served true "worker" none pipeCapacity) orderly run distinct
  rw [List.nil_append] at served
  have wrote : ((start "worker" none pipeCapacity).journal noiseRun).sends .wrote 0 = [0, 1] := by
    decide +kernel
  have reads : ((start "worker" none pipeCapacity).journal noiseRun).reads 0 =
      [⟨plainLine "noise", some 0⟩, ⟨successLine, some 1⟩] := by decide +kernel
  have only : ∀ fact ∈ (start "worker" none pipeCapacity).journal noiseRun,
      fact.about = none ∨ fact.about = some 0 := by decide +kernel
  generalize (start "worker" none pipeCapacity).journal noiseRun = j at *
  obtain ⟨place, before, returns⟩ := served.returns returned
  have here := served.home only returns
  subst here
  refine ⟨c, before, run, orderly, distinct, returns, ?_⟩
  obtain ⟨x, after, _, split, receives, _⟩ := returns
  rw [reads] at split
  have first : before = [⟨plainLine "noise", some 0⟩] := by
    match before, split with
    | [], split =>
        cases split
        cases receives
    | [y], split =>
        simp only [List.cons_append, List.nil_append, List.cons.injEq] at split
        rw [split.1]
    | y :: z :: more, split => simp at split
  rw [first, answersNext, wrote]
  decide +kernel

end Channel

end ImageSearch.Worker
