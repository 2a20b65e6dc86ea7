import ImageSearch.Proofs.Channel.Attribution

set_option autoImplicit false

namespace ImageSearch.Worker

open Recognition

def SendPhase.isDone : SendPhase → Bool
  | .done _ => true
  | _ => false

def SendPhase.isTimeout : SendPhase → Bool
  | .done (.error (.timeout _)) => true
  | _ => false

namespace Channel

variable {c : Channel} {j : Journal} {noisy : Bool}

def TimedOut (c : Channel) (k : Nat) : Prop := ∃ s ∈ c.sends[k]?, SendPhase.isTimeout s.phase

instance (c : Channel) (k : Nat) : Decidable (c.TimedOut k) :=
  inferInstanceAs (Decidable (∃ s ∈ c.sends[k]?, SendPhase.isTimeout s.phase))

/-- No send returns the answer to a request that has timed out. -/
def Isolated (c : Channel) (j : Journal) : Prop :=
  ∀ (place : Nat) (before : List Delivery) (k q : Nat), c.ReturnsAfter j place before k →
    answersNext j place before = some q → ¬ c.TimedOut q

def Finished (c : Channel) : Prop := ∀ s ∈ c.sends, SendPhase.isDone s.phase

instance (c : Channel) : Decidable c.Finished :=
  inferInstanceAs (Decidable (∀ s ∈ c.sends, SendPhase.isDone s.phase))

theorem Finished.done {k : Nat} {s : Send} (finished : c.Finished)
    (found : c.sends[k]? = some s) : ∃ o, s.phase = .done o := by
  have ended := finished s (List.mem_of_getElem? found)
  cases phase : s.phase with
  | done o => exact ⟨o, rfl⟩
  | queued | entered | writing | awaiting | expired | killing =>
      rw [phase] at ended
      cases ended

/-- A request that was written before one that got a line has got a line or was taken out. -/
theorem Aligned.passed_over {place k q : Nat} {p : Process} {before after : List Delivery}
    {x : Delivery} (aligned : Aligned noisy j place p)
    (first : j.sends .wrote place <+: j.sends .admitted place)
    (nodup : (j.sends .admitted place).Nodup) (split : j.reads place = before ++ x :: after)
    (receives : x.receiver = some k) (mine : k ∈ j.sends .wrote place)
    (wrote : q ∈ j.sends .wrote place)
    (earlier : (j.sends .wrote place).idxOf q < (j.sends .wrote place).idxOf k) :
    q ∈ j.sends .removed place ∨ q ∈ receivers before := by
  by_cases removed : q ∈ j.sends .removed place
  · exact .inl removed
  · have admitted := first.subset wrote
    have member : q ∈ j.kept place := by
      rw [Journal.kept, List.mem_filter]
      exact ⟨admitted, by simpa using removed⟩
    obtain ⟨waiting, kept⟩ := aligned.passed
    have order : j.kept place = receivers before ++ k :: (receivers after ++ waiting) := by
      rw [← kept, split]
      simp [receivers, receives]
    rw [order] at member
    rcases List.mem_append.mp member with passed | later
    · exact .inr passed
    · obtain ⟨rest, same⟩ := first
      have part : (receivers before ++ k :: (receivers after ++ waiting)).Sublist
          (j.sends .admitted place) := order ▸ List.filter_sublist
      rcases List.mem_cons.mp later with here | later
      · rw [here] at earlier
        exact absurd earlier (Nat.lt_irrefl _)
      · have less := idxOf_lt_of_sublist nodup part later
        rw [← same, idxOf_append_of_mem mine, idxOf_append_of_mem wrote] at less
        exact absurd less (Nat.lt_asymm earlier)

/-- A finished send that was given an answer after its line was written returned the answer or has
timed out. -/
theorem Served.settled {place q : Nat} {x : Delivery} {r : Response} (served : c.Served noisy j)
    (finished : c.Finished) (member : x ∈ j.reads place) (receives : x.receiver = some q)
    (reading : LineKind.ofLine x.line = .answer r) (wrote : Fact.did .wrote q place ∈ j) :
    c.result? q = some r ∨ c.TimedOut q := by
  have inside := (served.sound.chronicled.known _ _ _ wrote).1
  have found := List.getElem?_eq_getElem inside
  obtain ⟨o, ended⟩ := finished.done found
  cases served.fated.given q place _ r x member receives reading found with
  | returned phase => exact .inl (result?_eq_some.mpr ⟨_, found, phase⟩)
  | holds listens =>
      rw [ended] at listens
      cases listens
  | late late =>
      rcases late with ⟨_, phase⟩ | ⟨_, phase⟩ | ⟨limit, phase⟩
      · rw [ended] at phase
        cases phase
      · rw [ended] at phase
        cases phase
      · exact .inr ⟨_, found, by rw [phase]; rfl⟩
  | unwritten _ _ never => exact absurd wrote (never place)

/-- A finished send that was taken out of its table after its line was written has timed out. -/
theorem Served.timedOut {place q : Nat} (served : c.Served noisy j) (finished : c.Finished)
    (removed : Fact.did .removed q place ∈ j) (wrote : Fact.did .wrote q place ∈ j) :
    c.TimedOut q := by
  have inside := (served.sound.chronicled.known _ _ _ wrote).1
  have found := List.getElem?_eq_getElem inside
  obtain ⟨o, ended⟩ := finished.done found
  cases served.fated.removed q place _ removed found with
  | unwritten _ _ never => exact absurd wrote (never place)
  | late late =>
      rcases late with ⟨_, phase⟩ | ⟨limit, phase⟩
      · rw [ended] at phase
        cases phase
      · exact ⟨_, found, by rw [phase]; rfl⟩

theorem Served.readable {place : Nat} {x : Delivery} (served : c.Served false j)
    (member : x ∈ j.reads place) (receives : x.receiver.isSome) : isAnswer x.line := by
  by_cases inside : place < c.processes.length
  · have aligned := served.inline.each place _ (List.getElem?_eq_getElem inside)
    exact aligned.readable member receives
  · rw [served.inline.unread place (Nat.le_of_not_lt inside)] at member
    cases member

theorem Served.no_rejections {place : Nat} {before after : List Delivery}
    (served : c.Served false j) (split : j.reads place = before ++ after) :
    rejections before = 0 := by
  by_cases inside : place < c.processes.length
  · have aligned := served.inline.each place _ (List.getElem?_eq_getElem inside)
    exact aligned.no_rejections (split ▸ List.subset_append_left _ _)
  · rw [served.inline.unread place (Nat.le_of_not_lt inside)] at split
    rw [(List.append_eq_nil_iff.mp split.symm).1]
    rfl

/-- When no request gets the answer to one that has timed out, every request gets its own. -/
theorem Served.own_of_isolated (served : c.Served false j) (finished : c.Finished)
    (isolated : c.Isolated j) (place : Nat) (before : List Delivery) (k : Nat)
    (returns : c.ReturnsAfter j place before k) :
    answers before = (j.sends .wrote place).idxOf k := by
  -- The first answer that goes astray is for a request that got no answer of its own.
  induction length : before.length using Nat.strongRecOn generalizing before k with
  | ind n ih =>
      subst length
      have wrote := served.wrote returns
      have behind := (served.shift returns).1
      obtain ⟨p, process⟩ := served.process wrote
      have aligned := served.inline.each place p process
      by_cases own : answers before = (j.sends .wrote place).idxOf k
      · exact own
      have mine := Journal.mem_sends.mpr wrote
      have inside := List.idxOf_lt_length_of_mem mine
      have room : answers before < (j.sends .wrote place).length := by omega
      obtain ⟨q, next⟩ : ∃ q, answersNext j place before = some q :=
        ⟨_, List.getElem?_eq_getElem room⟩
      have theirs : q ∈ j.sends .wrote place := List.mem_of_getElem? next
      have wrote' := Journal.mem_sends.mp theirs
      have position := (served.answersNext_iff wrote').mp next
      have unlate : ¬ c.TimedOut q := isolated place before k q returns next
      obtain ⟨x, after, r, split, receives, _⟩ := returns
      rcases aligned.passed_over (served.written.first place)
        (served.sound.chronicled.nodup .admitted place) split receives mine theirs (by omega) with
        removed | passed
      · exact absurd (served.timedOut finished (Journal.mem_sends.mp removed) wrote') unlate
      · obtain ⟨y, member, given⟩ := List.mem_filterMap.mp passed
        obtain ⟨first, rest, cut⟩ := List.append_of_mem member
        have whole : j.reads place = first ++ y :: (rest ++ x :: after) := by
          rw [split, cut, List.append_assoc, List.cons_append]
        have there : y ∈ j.reads place := by
          rw [whole]
          simp
        have answer := served.readable there (by rw [given]; rfl)
        obtain ⟨r', reading⟩ := isAnswer_iff.mp answer
        rcases served.settled finished there given reading wrote' with returned | late
        · have earlier := ih first.length (by rw [cut]; simp) first q
            ⟨y, _, r', whole, given, reading, returned⟩ rfl
          -- Two answers cannot both be the one for that request.
          have more : answers first + 1 ≤ answers before := by
            rw [cut, answers, answers, List.countP_append, List.countP_cons, if_pos answer]
            omega
          omega
        · exact absurd late unlate

/-- The account of timeouts: the answer that a send returns lies before its own by the requests
that were taken out of the table less the answers that were given to none, and in a finished run
the answers to requests that have timed out stay undelivered exactly when these are equally many
wherever a send returns. -/
theorem timeout_isolation {program : String} {timeout : Option Duration} {capacity : Nat}
    {events : List Event} {c : Channel} (run : (start program timeout capacity).run events = some c)
    (orderly : Obeys (AnswersInOrder false) (start program timeout capacity) events)
    (distinct : c.DistinctIds) :
    (∀ place before k,
      c.ReturnsAfter ((start program timeout capacity).journal events) place before k →
      ∃ n, (((start program timeout capacity).journal events).sends .wrote place)[n]? = some k ∧
        answers before ≤ n ∧
        answers before + ((start program timeout capacity).journal events).withdrawn place n =
          n + strays before) ∧
    (c.Finished →
      (c.Isolated ((start program timeout capacity).journal events) ↔
        ∀ place before k n,
          c.ReturnsAfter ((start program timeout capacity).journal events) place before k →
          (((start program timeout capacity).journal events).sends .wrote place)[n]? = some k →
          strays before =
            ((start program timeout capacity).journal events).withdrawn place n)) := by
  have served := run_served (start_served false program timeout capacity) orderly run distinct
  rw [List.nil_append] at served
  generalize (start program timeout capacity).journal events = j at served ⊢
  have account (place : Nat) (before : List Delivery) (k : Nat)
      (returns : c.ReturnsAfter j place before k) :
      answers before ≤ (j.sends .wrote place).idxOf k ∧
        answers before + j.withdrawn place ((j.sends .wrote place).idxOf k) =
          (j.sends .wrote place).idxOf k + strays before := by
    obtain ⟨behind, even⟩ := served.shift returns
    obtain ⟨x, after, r, split, _⟩ := returns
    rw [served.no_rejections split, Nat.add_zero] at even
    exact ⟨behind, even⟩
  have number {place n k : Nat} (here : (j.sends .wrote place)[n]? = some k) :
      n = (j.sends .wrote place).idxOf k := by
    obtain ⟨inside, same⟩ := List.getElem?_eq_some_iff.mp here
    subst same
    exact ((served.sound.chronicled.nodup .wrote place).idxOf_getElem n inside).symm
  refine ⟨?_, ?_⟩
  · intro place before k returns
    exact ⟨_, getElem?_idxOf_wrote (served.wrote returns), account place before k returns⟩
  intro finished
  constructor
  · intro isolated place before k n returns here
    have own := served.own_of_isolated finished isolated place before k returns
    have even := (account place before k returns).2
    rw [← number here] at own even
    omega
  · intro even place before k q returns next late
    have wrote := served.wrote returns
    have sum := (account place before k returns).2
    have same := even place before k _ returns (getElem?_idxOf_wrote wrote)
    have own : answersNext j place before = some k :=
      (served.answersNext_iff wrote).mpr (by omega)
    rw [own] at next
    cases next
    obtain ⟨x, after, r, _, _, _, returned⟩ := returns
    obtain ⟨s, found, ended⟩ := result?_eq_some.mp returned
    obtain ⟨t, found', ended'⟩ := late
    rw [found] at found'
    cases found'
    rw [ended] at ended'
    cases ended'

/-- The first request times out, and its answer is read while the second request waits for its own
from the same process. -/
def lateRun : List Event :=
  [.send 1 ⟨"a", []⟩, .enter 0 none, .insert 0, .write 0 2, .workerReads 0 2, .tick 1000000000,
    .expire 0, .withdraw 0, .kill 0, .send 2 ⟨"b", []⟩, .enter 1 none, .insert 1, .write 1 2,
    .workerWrites 0 successLine, .readLine 0, .receive 1]

theorem lateRun_returns :
    ∃ c r, (start "worker" (some ⟨1, 0⟩) pipeCapacity).run lateRun = some c ∧
      Obeys (AnswersInOrder false) (start "worker" (some ⟨1, 0⟩) pipeCapacity) lateRun ∧
      c.DistinctIds ∧ c.Finished ∧ c.TimedOut 0 ∧ c.result? 1 = some r := by
  have checked : ((start "worker" (some ⟨1, 0⟩) pipeCapacity).run lateRun).any (fun c =>
      decide (c.DistinctIds ∧ c.Finished ∧ c.TimedOut 0) && (c.result? 1).isSome) = true := by
    decide +kernel
  obtain ⟨c, run, rest⟩ := (Option.any_eq_true _ _).mp checked
  rw [Bool.and_eq_true, decide_eq_true_eq] at rest
  obtain ⟨r, returned⟩ := Option.isSome_iff_exists.mp rest.2
  exact ⟨c, r, run, by decide +kernel, rest.1.1, rest.1.2.1, rest.1.2.2, returned⟩

theorem lateRun_not_isolated :
    ∃ c, (start "worker" (some ⟨1, 0⟩) pipeCapacity).run lateRun = some c ∧
      Obeys (AnswersInOrder false) (start "worker" (some ⟨1, 0⟩) pipeCapacity) lateRun ∧
      c.DistinctIds ∧ c.Finished ∧
      ¬ c.Isolated ((start "worker" (some ⟨1, 0⟩) pipeCapacity).journal lateRun) := by
  obtain ⟨c, r, run, orderly, distinct, finished, late, returned⟩ := lateRun_returns
  have law := (timeout_isolation run orderly distinct).2 finished
  have served := run_served (start_served false "worker" (some ⟨1, 0⟩) pipeCapacity) orderly run
    distinct
  rw [List.nil_append] at served
  refine ⟨c, run, orderly, distinct, finished, ?_⟩
  rw [law]
  have wrote : ((start "worker" (some ⟨1, 0⟩) pipeCapacity).journal lateRun).sends .wrote 0 =
      [0, 1] := by decide +kernel
  have removed : ((start "worker" (some ⟨1, 0⟩) pipeCapacity).journal lateRun).sends .removed 0 =
      [0] := by decide +kernel
  have reads : ((start "worker" (some ⟨1, 0⟩) pipeCapacity).journal lateRun).reads 0 =
      [⟨successLine, some 1⟩] := by decide +kernel
  have only : ∀ fact ∈ (start "worker" (some ⟨1, 0⟩) pipeCapacity).journal lateRun,
      fact.about = none ∨ fact.about = some 0 := by decide +kernel
  generalize (start "worker" (some ⟨1, 0⟩) pipeCapacity).journal lateRun = j at *
  intro even
  obtain ⟨place, before, returns⟩ := served.returns returned
  have here := served.home only returns
  subst here
  have balanced := even 0 before 1 1 returns (by rw [wrote]; rfl)
  obtain ⟨x, after, _, split, _⟩ := returns
  rw [reads] at split
  have first : before = [] := by
    match before, split with
    | [], _ => rfl
    | y :: more, split => simp at split
  rw [first, Journal.withdrawn, wrote, removed] at balanced
  revert balanced
  decide

end Channel

end ImageSearch.Worker
