import ImageSearch.Proofs.Channel.Asking
import ImageSearch.Proofs.Scan.Loop
import ImageSearch.Worker.Client

set_option autoImplicit false

namespace ImageSearch.Worker

open Recognition

/-- What happens from one request to the next: the identifier of the request, and events by which
no request is made. -/
structure Stretch where
  id : RequestId
  events : List Event
  quiet : ∀ e ∈ events, e.isDemand = false

/-- A channel that one caller uses, with all that has happened in it since its first state, and
with what will happen on each of the next requests. -/
structure Scheduled (first : Channel) where
  history : List Event
  channel : Channel
  run : first.run history = some channel
  ahead : List Stretch

namespace Scheduled

variable {first : Channel}

def start (first : Channel) (ahead : List Stretch) : Scheduled first := ⟨[], first, rfl, ahead⟩

def journal (s : Scheduled first) : Journal := first.journal s.history

def halt (s : Scheduled first) : Scheduled first := { s with ahead := [] }

/-- Makes a request, and all happens that is scheduled for it. Where that cannot happen, or does
not make the request return, the run has ended: nothing happens any more. -/
def ask (request : Request) (s : Scheduled first) : Outcome × Scheduled first :=
  match s.ahead with
  | [] => (unanswered, s)
  | now :: rest =>
    match happens : s.channel.run (.send now.id request :: now.events) with
    | none => (unanswered, s.halt)
    | some c =>
      let next : Scheduled first :=
        ⟨s.history ++ .send now.id request :: now.events, c,
          (Channel.run_append s.run _).trans happens, rest⟩
      match c.outcome? s.channel.sends.length with
      | some outcome => (outcome, next)
      | none => (unanswered, next.halt)

def recognizer (first : Channel) : Recognizer (Scheduled first) :=
  ⟨startWith ask, readWith ask, fun s => (.ok (), s)⟩

def Wrote (s : Scheduled first) (command : String) (k place : Nat) : Prop :=
  s.channel.sends[k]?.map Send.command = some command ∧ Fact.did .wrote k place ∈ s.journal

/-- A process answered the load request of a send with a success. -/
def LoadedBy (s : Scheduled first) (m place : Nat) : Prop :=
  s.Wrote "init" m place ∧
    ∃ r, s.channel.result? m = some r ∧ r.isSuccess ∧ s.journal.Got m place r

/-- A process has answered a load request with a success, by a send before some other, or it was
started for a read. -/
def Prepared (s : Scheduled first) (place bound : Nat) : Prop :=
  (∃ m < bound, s.LoadedBy m place) ∨
    ∃ m, s.Wrote "read_text" m place ∧ Fact.did .started m place ∈ s.journal

structure Kept (s : Scheduled first) : Prop where
  sound : s.channel.Sound s.journal
  settled : s.ahead ≠ [] → s.channel.Settled
  founder : ∀ (deed : Deed) (i k place : Nat), Fact.did .started k place ∈ s.journal →
    Fact.did deed i place ∈ s.journal → k ≤ i
  covered : ∀ k place, s.Wrote "read_text" k place → s.Prepared place k

/-- The process in the slot may be used to read. -/
def Ready (s : Scheduled first) : Prop :=
  ∀ place, s.channel.slot = some place → s.Prepared place s.channel.sends.length

/-- What a request does: nothing, or it is made and what is scheduled happens. -/
inductive Asks (s : Scheduled first) (request : Request) : Outcome × Scheduled first → Prop
  | nothing : Asks s request (unanswered, s.halt)
  | happens {outcome : Outcome} {t : Scheduled first} (settled : s.channel.Settled)
      (asked : s.channel.Asked s.journal request t.channel t.journal)
      (sound : t.channel.Sound t.journal)
      (returned : outcome = unanswered ∧ t.ahead = [] ∨
        t.channel.outcome? s.channel.sends.length = some outcome) :
      Asks s request (outcome, t)

variable {s t : Scheduled first} {request : Request}

theorem Kept.asks (kept : s.Kept) (request : Request) : s.Asks request (s.ask request) := by
  have next {now : Stretch} {c : Channel} (settled : s.channel.Settled)
      (happens : s.channel.run (.send now.id request :: now.events) = some c) :
      s.channel.Asked s.journal request c
          (first.journal (s.history ++ .send now.id request :: now.events)) ∧
        c.Sound (first.journal (s.history ++ .send now.id request :: now.events)) := by
    rw [Channel.journal_append s.run]
    exact Channel.run_asked kept.sound settled now.quiet happens
  unfold ask
  split
  · rename_i ended
    have same : s.halt = s := by rw [halt, ← ended]
    rw [← same]
    exact .nothing
  · rename_i now rest ahead
    have settled := kept.settled (by rw [ahead]; exact List.cons_ne_nil _ _)
    split
    · exact .nothing
    · rename_i c happens
      obtain ⟨asked, sound⟩ := next settled happens
      dsimp only
      split
      · rename_i outcome returned
        exact .happens settled asked sound (.inr returned)
      · exact .happens settled asked sound (.inl ⟨rfl, rfl⟩)

theorem Wrote.more {command : String} {k place : Nat} (wrote : s.Wrote command k place)
    (asked : s.channel.Asked s.journal request t.channel t.journal) :
    k < s.channel.sends.length ∧ t.Wrote command k place := by
  obtain ⟨named, did⟩ := wrote
  obtain ⟨send, found, _⟩ := Option.map_eq_some_iff.mp named
  have inside := (List.getElem?_eq_some_iff.mp found).1
  refine ⟨inside, ?_, asked.past _ did⟩
  rw [asked.before k inside, named]

theorem Wrote.back {command : String} {k place : Nat} (wrote : t.Wrote command k place)
    (kept : s.Kept) (asked : s.channel.Asked s.journal request t.channel t.journal) :
    s.Wrote command k place ∨ k = s.channel.sends.length ∧ request.command = command := by
  obtain ⟨named, did⟩ := wrote
  rcases asked.did .wrote k place did with before | last
  · have inside := (kept.sound.chronicled.known _ _ _ before).1
    rw [asked.before k inside] at named
    exact .inl ⟨named, before⟩
  · subst last
    rw [asked.command] at named
    exact .inr ⟨rfl, Option.some.inj named⟩

theorem LoadedBy.more {m place : Nat} (loaded : s.LoadedBy m place)
    (asked : s.channel.Asked s.journal request t.channel t.journal) : t.LoadedBy m place := by
  obtain ⟨wrote, r, returned, success, x, member, given, reading⟩ := loaded
  obtain ⟨inside, wrote⟩ := wrote.more asked
  refine ⟨wrote, r, ?_, success, x, ?_, given, reading⟩
  · rw [← returned, Channel.result?, Channel.outcome?, asked.before m inside]
    rfl
  · exact Journal.mem_reads.mpr (asked.past _ (Journal.mem_reads.mp member))

theorem Prepared.more {place bound : Nat} (prepared : s.Prepared place bound)
    (asked : s.channel.Asked s.journal request t.channel t.journal) : t.Prepared place bound := by
  rcases prepared with ⟨m, before, loaded⟩ | ⟨m, wrote, started⟩
  · exact .inl ⟨m, before, loaded.more asked⟩
  · exact .inr ⟨m, (wrote.more asked).2, asked.past _ started⟩

theorem Prepared.widen {place bound wider : Nat} (prepared : s.Prepared place bound)
    (wide : bound ≤ wider) : s.Prepared place wider := by
  rcases prepared with ⟨m, before, loaded⟩ | started
  · exact .inl ⟨m, Nat.lt_of_lt_of_le before wide, loaded⟩
  · exact .inr started

theorem Kept.halt (kept : s.Kept) : s.halt.Kept :=
  ⟨kept.sound, fun more => absurd rfl more, kept.founder, kept.covered⟩

/-- A process that a send starts is one that no earlier send has to do with. -/
theorem Kept.founder_asked (kept : s.Kept)
    (asked : s.channel.Asked s.journal request t.channel t.journal) (deed : Deed) (i k place : Nat)
    (started : Fact.did .started k place ∈ t.journal) (did : Fact.did deed i place ∈ t.journal) :
    k ≤ i := by
  rcases asked.did _ k place started with founded | last
  · rcases asked.did deed i place did with before | last
    · exact kept.founder deed i k place founded before
    · have inside := (kept.sound.chronicled.known _ k place founded).1
      omega
  · subst last
    rcases asked.did deed i place did with before | last
    · have known := (kept.sound.chronicled.known deed i place before).2
      have new := asked.fresh place started
      omega
    · omega

theorem Kept.settled_asked {outcome : Outcome} (settled : s.channel.Settled)
    (asked : s.channel.Asked s.journal request t.channel t.journal)
    (returned : outcome = unanswered ∧ t.ahead = [] ∨
      t.channel.outcome? s.channel.sends.length = some outcome) (more : t.ahead ≠ []) :
    t.channel.Settled := by
  rcases returned with ⟨_, ended⟩ | returned
  · exact absurd ended more
  · intro i send found
    have inside := (List.getElem?_eq_some_iff.mp found).1
    rw [asked.size] at inside
    by_cases last : i = s.channel.sends.length
    · subst last
      obtain ⟨again, found', ended⟩ := Channel.outcome?_eq_some.mp returned
      rw [found] at found'
      cases found'
      exact ⟨outcome, ended⟩
    · rw [asked.before i (by omega)] at found
      exact settled i send found

/-- A request keeps what a scan keeps, if a read finds a process in the slot that may be used. -/
theorem Kept.ask (kept : s.Kept) (request : Request)
    (able : request.command = "read_text" → s.Ready) : (s.ask request).2.Kept := by
  have asks := kept.asks request
  generalize s.ask request = result at asks
  cases asks with
  | nothing => exact kept.halt
  | happens settled asked sound returned =>
      rename_i outcome t
      refine ⟨sound, settled_asked settled asked returned, kept.founder_asked asked, ?_⟩
      intro k place wrote
      rcases wrote.back kept asked with before | ⟨rfl, reads⟩
      · exact (kept.covered k place before).more asked
      · have directed := sound.chronicled.directed _ _ _ wrote.2
        rcases asked.came place directed with started | slot
        · exact .inr ⟨_, wrote, started⟩
        · exact (able reads place slot).more asked

/-- A process in the slot after a request was the one that the request was written to, if that
returned without a loss, or was there before. -/
theorem Asks.slot {outcome : Outcome} {place : Nat} (asks : s.Asks request (outcome, t))
    (unlost : ∀ failure, outcome = .error failure → failure.isWorkerLost = false)
    (slot : t.channel.slot = some place) :
    Fact.did .wrote s.channel.sends.length place ∈ t.journal ∨
      s.channel.slot = some place ∧
        ∀ deed q, Fact.did deed s.channel.sends.length q ∉ t.journal := by
  cases asks with
  | nothing => cases unlost _ rfl
  | happens settled asked sound returned =>
      rcases returned with ⟨rfl, _⟩ | returned
      · cases unlost _ rfl
      · rcases asked.slot place slot with directed | ⟨before, nowhere⟩
        · obtain ⟨send, found, ended⟩ := Channel.outcome?_eq_some.mp returned
          cases sound.explained.ends _ send _ found ended with
          | refused _ nowhere | unstarted _ _ nowhere => exact absurd directed (nowhere _ _)
          | told wrote => exact .inl (sound.chronicled.alone wrote directed ▸ wrote)
          | lost _ _ _ lost =>
              rw [unlost _ rfl] at lost
              cases lost
        · refine .inr ⟨before, ?_⟩
          intro deed q did
          exact nowhere q (sound.chronicled.directed deed _ q did)

/-- A start that succeeds leaves a process in the slot that has loaded the models. -/
theorem Kept.started (kept : s.Kept) (languages : List String)
    (succeeds : loadResult (s.ask (.load languages)).1 = .ok ()) :
    (s.ask (.load languages)).2.Ready := by
  have asks := kept.asks (.load languages)
  revert asks succeeds
  generalize s.ask (.load languages) = result
  obtain ⟨outcome, t⟩ := result
  intro succeeds asks place slot
  cases outcome with
  | error => cases succeeds
  | ok r =>
      have success : r.isSuccess := by
        cases answer : r.isSuccess with
        | true => rfl
        | false => simp [loadResult, answer] at succeeds
      have found := asks.slot (by simp) slot
      cases asks with
      | happens _ asked sound returned =>
          have returned := returned.resolve_left (by simp [unanswered])
          have result := Channel.result?_eq_some.mpr (Channel.outcome?_eq_some.mp returned)
          obtain ⟨home, wrote, got⟩ := sound.answered result
          rcases found with here | ⟨_, nowhere⟩
          · have same := sound.chronicled.alone wrote here
            subst same
            refine .inl ⟨s.channel.sends.length, ?_, ⟨asked.command, here⟩, r, result, success, got⟩
            rw [asked.size]
            exact Nat.lt_succ_self _
          · exact absurd wrote (nowhere _ _)

/-- A read that is not a loss leaves a process in the slot that may be used again. -/
theorem Kept.unlost (kept : s.Kept) (path : Path) (able : s.Ready)
    (unlost : ∀ failure, readResult (s.ask (.read path)).1 = .error failure →
      failure.isWorkerLost = false) : (s.ask (.read path)).2.Ready := by
  have asks := kept.asks (.read path)
  have after := kept.ask (.read path) fun _ => able
  revert asks unlost after
  generalize s.ask (.read path) = result
  obtain ⟨outcome, t⟩ := result
  intro unlost asks after place slot
  have found := asks.slot (fun failure same => unlost failure (by rw [same]; rfl)) slot
  cases asks with
  | nothing => cases unlost _ rfl
  | happens _ asked _ _ =>
      have more : s.channel.sends.length ≤ t.channel.sends.length :=
        asked.size ▸ Nat.le_succ _
      rcases found with wrote | ⟨before, _⟩
      · exact (after.covered _ place ⟨asked.command, wrote⟩).widen more
      · exact ((able place before).more asked).widen more

theorem upholds (first : Channel) : Upholds (recognizer first) Kept Ready where
  start languages s kept :=
    kept.ask (.load languages) fun reads => absurd reads (by simp [Request.load])
  started languages s kept succeeds := kept.started languages succeeds
  read path s kept able := kept.ask (.read path) fun _ => able
  unlost path s kept able unlost := kept.unlost path able unlost

theorem start_kept (program : String) (timeout : Option Duration) (capacity : Nat)
    (ahead : List Stretch) : (start (Channel.start program timeout capacity) ahead).Kept := by
  refine ⟨Channel.start_sound program timeout capacity, ?_, ?_, ?_⟩
  · intro _ i send found
    cases found
  · intro deed i k place started
    cases started
  · intro k place wrote
    cases wrote.2

def ofScan (program : String) (timeout : Option Duration) (capacity : Nat)
    (languages : List String) (images : List Path) (ahead : List Stretch) :
    Scheduled (Channel.start program timeout capacity) :=
  (buildIndex (recognizer _) languages images (start _ ahead)).recognizer

/-- Every image is read by a process that has answered an earlier load request with a success,
exactly if no read is written to a process that it started itself. -/
theorem loaded_iff_unstarted (program : String) (timeout : Option Duration) (capacity : Nat)
    (languages : List String) (images : List Path) (ahead : List Stretch) :
    let s := ofScan program timeout capacity languages images ahead
    (∀ k place, s.Wrote "read_text" k place → ∃ m < k, s.LoadedBy m place) ↔
      ∀ k place, s.Wrote "read_text" k place → Fact.did .started k place ∉ s.journal := by
  intro s
  have kept : s.Kept :=
    (upholds _).buildIndex languages images (start_kept program timeout capacity ahead)
  constructor
  · intro loaded k place wrote started
    obtain ⟨m, before, ⟨_, did⟩, _⟩ := loaded k place wrote
    have least := kept.founder .wrote m k place started did
    omega
  · intro unstarted k place wrote
    rcases kept.covered k place wrote with loaded | ⟨m, reads, started⟩
    · exact loaded
    · exact absurd started (unstarted m place reads)

/-- The first process loads the models and fails at one image, and its exit is known before the next
image is read. -/
def silentRestart : List Stretch :=
  [⟨1, [.enter 0 none, .insert 0, .write 0 8, .workerReads 0 8,
      .workerWrites 0 successLine, .readLine 0, .receive 0], by decide⟩,
    ⟨2, [.enter 1 none, .insert 1, .write 1 12, .workerReads 0 12,
      .workerWrites 0 successLine, .readLine 0, .receive 1, .workerExits 0 none,
      .endOutput 0, .reap 0, .publish 0], by decide⟩,
    ⟨3, [.enter 2 none, .insert 2, .write 2 12], by decide⟩]

theorem silentRestart_unloaded :
    let s := ofScan "worker" none Channel.pipeCapacity ["en"] [⟨"a"⟩, ⟨"b"⟩]
      silentRestart
    s.Wrote "read_text" 2 1 ∧ ∀ m, ¬ s.LoadedBy m 1 := by
  intro s
  have writes : s.journal.sends .wrote 1 = [2] := by decide +kernel
  have reads : s.channel.sends[2]?.map Send.command = some "read_text" := by decide +kernel
  refine ⟨⟨reads, Journal.mem_sends.mp (by rw [writes]; exact List.mem_singleton_self 2)⟩, ?_⟩
  rintro m ⟨⟨loads, did⟩, _⟩
  have only := Journal.mem_sends.mpr did
  rw [writes, List.mem_singleton] at only
  rw [only, reads] at loads
  simp at loads

end Scheduled

end ImageSearch.Worker
