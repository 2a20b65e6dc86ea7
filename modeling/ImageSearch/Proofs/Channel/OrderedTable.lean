import ImageSearch.Proofs.Channel.Lines
import Mathlib.Data.List.Induction

set_option autoImplicit false

namespace ImageSearch.Worker

open Recognition

namespace Table

/-- What can be done to a table. -/
inductive Call where
  | insert (e : Entry)
  | remove (id : RequestId)
  | resolve (r : Response)
  | rejectOldest (failure : Recognition.Failure)
  | failAll (code : Option Int)

/-- The table after a call, the replies that it sends, and why it refuses an entry. -/
structure Result where
  table : Table
  replies : List Reply
  refusal : Option Recognition.Failure

namespace Call

def newId? : Call → Option RequestId
  | .insert e => some e.id
  | _ => none

def code? : Call → Option (Option Int)
  | .failAll code => some code
  | _ => none

/-- The calls that are about one entry at most. -/
def isSingle : Call → Bool
  | .insert _ | .failAll _ => false
  | _ => true

/-- What a call replies to the entries that it takes; an entry is withdrawn without a reply. -/
def outcome? : Call → Option Outcome
  | .insert _ | .remove _ => none
  | .resolve r => some (.ok r)
  | .rejectOldest failure => some (.error failure)
  | .failAll code => some (.error (.workerExited code))

end Call

def call (t : Table) : Call → Result
  | .insert e =>
    match t.insert e with
    | .ok u => ⟨u, [], none⟩
    | .error failure => ⟨t, [], some failure⟩
  | .remove id => ⟨t.remove id, [], none⟩
  | .resolve r => ⟨(t.resolve r).1, (t.resolve r).2.toList, none⟩
  | .rejectOldest failure => ⟨(t.rejectOldest failure).1, (t.rejectOldest failure).2.toList, none⟩
  | .failAll code => ⟨(t.failAll code).1, (t.failAll code).2, none⟩

/-- The entries that a call takes out of a table. -/
def taken (t : Table) (c : Call) : List Entry :=
  t.entries.filter (· ∉ (t.call c).table.entries)

/-- The entries that a call puts in, which is one unless it is refused. -/
def accepted (t : Table) : Call → List Entry
  | .insert e => if (t.call (.insert e)).refusal.isNone then [e] else []
  | _ => []

def answered (t : Table) (c : Call) : List Entry := if c.outcome?.isSome then t.taken c else []

def after (t : Table) (calls : List Call) : Table := calls.foldl (fun t c => (t.call c).table) t

/-- What calls give one after another, each at the table that it finds. -/
def along {α : Type} (gives : Table → Call → List α) : Table → List Call → List α
  | _, [] => []
  | t, c :: rest => gives t c ++ along gives (t.call c).table rest

/-- The entries that a call is about. -/
def picks (t : Table) : Call → Entry → Bool
  | .insert _, _ => false
  | .remove id, e => e.id == id
  | .resolve r, e =>
    match r.id with
    | none => t.entries.head? == some e
    | some text => (RequestId.ofText? text).any (e.id == ·)
  | .rejectOldest _, e => t.entries.head? == some e
  | .failAll _, _ => true

/-- An outcome is given to the first entry of a kind. -/
def give (t : Table) (kind : Entry → Bool) (outcome : Outcome) : Table × Option Reply :=
  ({ t with entries := t.entries.eraseP kind },
    (t.entries.find? kind).map fun e => ⟨e.caller, outcome⟩)

section Calls

variable {t : Table} {c : Call}

theorem call_insert (t : Table) (e : Entry) : t.call (.insert e) =
    match t.closed with
    | none => ⟨{ t with entries := t.entries ++ [e] }, [], none⟩
    | some code => ⟨t, [], some (.workerExited code)⟩ := by
  rw [call, insert]
  cases t.closed with
  | none => rfl
  | some code => rfl

theorem give_nobody (t : Table) (outcome : Outcome) :
    t.give (fun _ => false) outcome = (t, none) := by
  have same : t.entries.eraseP (fun _ => false) = t.entries := List.eraseP_of_forall_not (by simp)
  have nobody : t.entries.find? (fun _ => false) = none := List.find?_eq_none.mpr (by simp)
  rw [give, same, nobody]
  rfl

theorem answerOldest_eq (t : Table) (outcome : Outcome) :
    t.answerOldest outcome = t.give (t.entries.head? == some ·) outcome := by
  obtain ⟨entries, closed⟩ := t
  cases entries with
  | nil => rfl
  | cons x rest => simp [answerOldest, give]

theorem answerNamed_eq (t : Table) (id : RequestId) (outcome : Outcome) :
    t.answerNamed id outcome = t.give (·.id == id) outcome := by
  rw [answerNamed, give]
  cases found : t.entries.find? (·.id == id) with
  | none =>
      rw [List.eraseP_of_forall_not (List.find?_eq_none.mp found)]
      rfl
  | some x => rfl

theorem resolve_eq (t : Table) (r : Response) :
    t.resolve r = t.give (t.picks (.resolve r)) (.ok r) := by
  rw [resolve]
  cases named : r.id with
  | none =>
      have oldest : t.picks (.resolve r) = (t.entries.head? == some ·) := by
        funext e
        rw [picks, named]
      rw [oldest]
      exact answerOldest_eq t (.ok r)
  | some text =>
      have entry : t.picks (.resolve r) = fun e => (RequestId.ofText? text).any (e.id == ·) := by
        funext e
        rw [picks, named]
      rw [entry]
      dsimp only
      cases RequestId.ofText? text with
      | none => exact (give_nobody t (.ok r)).symm
      | some id => exact answerNamed_eq t id (.ok r)

theorem picks_named {r : Response} {text : String} (names : r.id = some text) (e : Entry) :
    t.picks (.resolve r) e = true ↔ RequestId.ofText? text = some e.id := by
  rw [picks, names]
  dsimp only
  rw [Option.any_eq_true]
  constructor
  · rintro ⟨id, read, same⟩
    exact read.trans (congrArg some (beq_iff_eq.mp same).symm)
  · exact fun read => ⟨e.id, read, beq_self_eq_true e.id⟩

theorem call_resolve_nobody {r : Response} (nobody : ∀ e ∈ t.entries, ¬ t.picks (.resolve r) e) :
    t.call (.resolve r) = ⟨t, [], none⟩ := by
  rw [call, resolve_eq, give, List.eraseP_of_forall_not nobody, List.find?_eq_none.mpr nobody]
  rfl

theorem accepted_ids (t : Table) (c : Call) :
    ((t.accepted c).map Entry.id).Sublist c.newId?.toList := by
  cases c with
  | insert e =>
      rw [accepted]
      split
      · exact .refl _
      · exact List.nil_sublist _
  | _ => exact .slnil

theorem accepted_shut {code : Option Int} (closed : t.closed = some code) (c : Call) :
    t.accepted c = [] := by
  cases c with
  | insert e =>
      rw [accepted, call_insert, closed]
      rfl
  | _ => rfl

theorem answered_sublist (t : Table) (c : Call) : (t.answered c).Sublist (t.taken c) := by
  rw [answered]
  split
  · exact .refl _
  · exact List.nil_sublist _

end Calls

section Distinct

variable {t : Table} {c : Call} (nodup : (t.entries.map Entry.id).Nodup)

include nodup

/-- A call about one entry at most is about no two. -/
theorem picks_unique (single : c.isSingle) : ∀ x ∈ t.entries, ∀ y ∈ t.entries,
    t.picks c x = true → t.picks c y = true → x = y := by
  have oldest (x y : Entry) (first : (t.entries.head? == some x) = true)
      (second : (t.entries.head? == some y) = true) : x = y := by
    rw [beq_iff_eq] at first second
    exact Option.some.inj (first.symm.trans second)
  intro x first y second
  cases c with
  | remove id => exact unique_of_id nodup id x first y second
  | resolve r =>
      rw [picks, picks]
      cases r.id with
      | none => exact oldest x y
      | some text =>
          dsimp only
          cases RequestId.ofText? text with
          | none => exact fun never _ => absurd never Bool.false_ne_true
          | some id => exact unique_of_id nodup id x first y second
  | rejectOldest failure => exact oldest x y
  | insert e => cases single
  | failAll code => cases single

theorem give_eq {kind : Entry → Bool} (outcome : Outcome) (unique : ∀ x ∈ t.entries,
    ∀ y ∈ t.entries, kind x = true → kind y = true → x = y) :
    (t.give kind outcome).1 = { t with entries := t.entries.filter (!kind ·) } ∧
      (t.give kind outcome).2.toList =
        (t.entries.filter kind).map fun e => ⟨e.caller, outcome⟩ := by
  rw [give, eraseP_of_unique (.of_map _ nodup) unique, ← find?_of_unique (.of_map _ nodup) unique]
  exact ⟨rfl, Option.toList_map ..⟩

/-- What a call does to a table: the entries that it is about leave, and those that it puts in come
to the end. -/
theorem call_table (c : Call) : (t.call c).table =
    ⟨t.entries.filter (!t.picks c ·) ++ t.accepted c, c.code?.or t.closed⟩ := by
  cases c with
  | insert e =>
      have all : t.entries.filter (!t.picks (.insert e) ·) = t.entries :=
        List.filter_eq_self.mpr fun _ _ => rfl
      rw [all]
      obtain ⟨entries, closed⟩ := t
      cases closed with
      | none => rfl
      | some code => exact congrArg (Table.mk · (some code)) (List.append_nil entries).symm
  | remove id =>
      have left := eraseP_of_unique (.of_map _ nodup) (unique_of_id nodup id)
      exact congrArg (Table.mk · t.closed) (left.trans (List.append_nil _).symm)
  | resolve r =>
      have left := (give_eq nodup (.ok r) (picks_unique nodup (c := .resolve r) rfl)).1
      rw [← List.append_nil (t.entries.filter _)] at left
      exact (congrArg Prod.fst (t.resolve_eq r)).trans left
  | rejectOldest failure =>
      have left := (give_eq nodup (.error failure)
        (picks_unique nodup (c := .rejectOldest failure) rfl)).1
      rw [← List.append_nil (t.entries.filter _)] at left
      exact (congrArg Prod.fst (t.answerOldest_eq (.error failure))).trans left
  | failAll code =>
      have none_left : t.entries.filter (!t.picks (.failAll code) ·) = [] :=
        List.filter_eq_nil_iff.mpr fun _ _ => Bool.false_ne_true
      rw [none_left]
      rfl

/-- What a call replies: the entries that it is about learn the outcome, in their order. -/
theorem call_replies (c : Call) : (t.call c).replies =
    match c.outcome? with
    | none => []
    | some outcome => (t.entries.filter (t.picks c)).map fun e => ⟨e.caller, outcome⟩ := by
  cases c with
  | insert e =>
      rw [call_insert]
      cases t.closed with
      | none => rfl
      | some code => rfl
  | remove id => rfl
  | resolve r =>
      have told := (give_eq nodup (.ok r) (picks_unique nodup (c := .resolve r) rfl)).2
      exact (congrArg (·.2.toList) (t.resolve_eq r)).trans told
  | rejectOldest failure =>
      have told := (give_eq nodup (.error failure)
        (picks_unique nodup (c := .rejectOldest failure) rfl)).2
      exact (congrArg (·.2.toList) (t.answerOldest_eq (.error failure))).trans told
  | failAll code =>
      have all : t.entries.filter (t.picks (.failAll code)) = t.entries :=
        List.filter_eq_self.mpr fun _ _ => rfl
      dsimp only [Call.outcome?]
      rw [all]
      rfl

theorem taken_eq (c : Call) : t.taken c = t.entries.filter (t.picks c) := by
  have unpicked {e : Entry} (new : e ∈ t.accepted c) : t.picks c e = false := by
    cases c with
    | insert _ => rfl
    | _ => cases new
  rw [taken, call_table nodup]
  refine List.filter_congr fun e member => ?_
  rw [Bool.eq_iff_iff, decide_eq_true_iff, List.mem_append, List.mem_filter]
  cases about : t.picks c e with
  | true => simpa using fun new => Bool.noConfusion (about.symm.trans (unpicked new))
  | false => simp [member]

theorem rest_eq (c : Call) :
    t.entries.filter (!t.picks c ·) = t.entries.filter (· ∉ t.taken c) := by
  rw [taken_eq nodup]
  refine List.filter_congr fun e member => ?_
  rw [Bool.eq_iff_iff, Bool.not_eq_true', decide_eq_true_iff, List.mem_filter, not_and]
  constructor
  · exact fun other _ => Bool.eq_false_iff.mp other
  · exact fun other => Bool.eq_false_iff.mpr (other member)

/-- A call about one entry at most takes that entry, if the table holds it. -/
theorem taken_eq_singleton {e : Entry} (single : c.isSingle) (member : e ∈ t.entries)
    (about : t.picks c e = true) : t.taken c = [e] := by
  have unique := picks_unique nodup single
  rw [taken_eq nodup, ← find?_of_unique (.of_map _ nodup) unique]
  cases found : t.entries.find? (t.picks c) with
  | none => exact absurd about (List.find?_eq_none.mp found e member)
  | some x =>
      have same := unique x (List.mem_of_find?_eq_some found) e member
        (List.find?_some found) about
      rw [same]
      rfl

theorem taken_oldest (single : c.isSingle)
    (about : ∀ e, t.picks c e = (t.entries.head? == some e)) : t.taken c = t.entries.take 1 := by
  cases entries : t.entries with
  | nil =>
      rw [taken, entries]
      rfl
  | cons x rest =>
      apply taken_eq_singleton nodup single
      · rw [entries]
        exact List.mem_cons_self
      · rw [about, entries]
        exact beq_self_eq_true _

/-- A call about one entry at most takes one entry at most and leaves the others as they are. -/
theorem call_single (single : c.isSingle) : (t.taken c).length ≤ 1 ∧
    (t.call c).table = { t with entries := t.entries.filter (· ∉ t.taken c) } := by
  constructor
  · rw [taken_eq nodup, ← find?_of_unique (.of_map _ nodup) (picks_unique nodup single)]
    exact Option.length_toList_le
  · rw [call_table nodup, rest_eq nodup]
    cases c with
    | insert e => cases single
    | failAll code => cases single
    | _ => exact congrArg (Table.mk · t.closed) (List.append_nil _)

theorem replies_callers (c : Call) :
    (t.call c).replies.map Reply.caller = (t.answered c).map Entry.caller := by
  rw [call_replies nodup, answered, taken_eq nodup]
  cases c.outcome? with
  | none => rfl
  | some outcome => exact List.map_map

end Distinct

theorem after_concat (t : Table) (calls : List Call) (c : Call) :
    t.after (calls ++ [c]) = ((t.after calls).call c).table := by
  rw [after, List.foldl_append]
  rfl

theorem along_concat {α : Type} (gives : Table → Call → List α) (t : Table) (calls : List Call)
    (c : Call) : along gives t (calls ++ [c]) = along gives t calls ++ gives (t.after calls) c := by
  induction calls generalizing t with
  | nil => rw [List.nil_append, along, along, along, List.append_nil]; rfl
  | cons first rest ih =>
      rw [List.cons_append, along, along, ih, List.append_assoc]
      rfl

/-- The entries that calls put in, in their order. -/
def inserted (calls : List Call) : List Entry := along accepted empty calls

def takenIn (calls : List Call) : List Entry := along taken empty calls

def answeredIn (calls : List Call) : List Entry := along answered empty calls

def sent (calls : List Call) : List Reply := along (fun t c => (t.call c).replies) empty calls

def newIds (calls : List Call) : List RequestId := calls.filterMap Call.newId?

/-- What calls keep: each of them leaves these facts for the next. -/
structure Kept (calls : List Call) (t : Table) : Prop where
  known : ((inserted calls).map Entry.id).Sublist (newIds calls)
  entries : t.entries = (inserted calls).filter (· ∉ takenIn calls)
  once : (takenIn calls).Nodup
  among : ∀ e ∈ takenIn calls, e ∈ inserted calls
  told : (sent calls).map Reply.caller = (answeredIn calls).map Entry.caller
  heard : (answeredIn calls).Sublist (takenIn calls)
  closed : t.closed = (calls.filterMap Call.code?).getLast?
  shut : t.closed.isSome → t.entries = []

section Runs

variable {t : Table} {calls : List Call}

theorem Kept.start : Kept [] empty where
  known := .slnil
  entries := rfl
  once := .nil
  among _ member := nomatch member
  told := rfl
  heard := .slnil
  closed := rfl
  shut never := nomatch never

theorem Kept.nodup (kept : Kept calls t) (distinct : (newIds calls).Nodup) :
    (t.entries.map Entry.id).Nodup := by
  rw [kept.entries]
  exact (kept.known.nodup distinct).sublist (List.filter_sublist.map _)

theorem Kept.known_of_mem (kept : Kept calls t) {e : Entry} (member : e ∈ t.entries) :
    e ∈ inserted calls := by
  rw [kept.entries] at member
  exact (List.mem_filter.mp member).1

section Step

variable {c : Call}

theorem newIds_concat (calls : List Call) (c : Call) :
    newIds (calls ++ [c]) = newIds calls ++ c.newId?.toList := by
  rw [newIds, List.filterMap_append, List.filterMap_cons]
  cases c.newId? <;> rfl

theorem inserted_concat (calls : List Call) (c : Call) :
    inserted (calls ++ [c]) = inserted calls ++ (empty.after calls).accepted c :=
  along_concat ..

theorem takenIn_concat (calls : List Call) (c : Call) :
    takenIn (calls ++ [c]) = takenIn calls ++ (empty.after calls).taken c :=
  along_concat ..

theorem answeredIn_concat (calls : List Call) (c : Call) :
    answeredIn (calls ++ [c]) = answeredIn calls ++ (empty.after calls).answered c :=
  along_concat ..

theorem sent_concat (calls : List Call) (c : Call) :
    sent (calls ++ [c]) = sent calls ++ ((empty.after calls).call c).replies :=
  along_concat ..

theorem mem_of_taken {e : Entry} (member : e ∈ t.taken c) : e ∈ t.entries :=
  (List.mem_filter.mp member).1

/-- What a call puts in was not put in before, if its identifier is a new one. -/
theorem Kept.accepted_new (kept : Kept calls t) (distinct : (newIds (calls ++ [c])).Nodup)
    {e : Entry} (member : e ∈ t.accepted c) : e ∉ inserted calls := by
  rw [newIds_concat, List.nodup_append] at distinct
  intro old
  have first := kept.known.subset (List.mem_map_of_mem old)
  exact distinct.2.2 _ first _ ((accepted_ids t c).subset (List.mem_map_of_mem member)) rfl

variable (kept : Kept calls (empty.after calls)) (distinct : (newIds (calls ++ [c])).Nodup)

include kept

theorem Kept.step_known :
    ((inserted (calls ++ [c])).map Entry.id).Sublist (newIds (calls ++ [c])) := by
  rw [inserted_concat, List.map_append, newIds_concat]
  exact kept.known.append (accepted_ids _ c)

theorem Kept.step_among : ∀ e ∈ takenIn (calls ++ [c]), e ∈ inserted (calls ++ [c]) := by
  intro e member
  rw [takenIn_concat] at member
  rw [inserted_concat]
  rcases List.mem_append.mp member with before | now
  · exact List.mem_append_left _ (kept.among e before)
  · exact List.mem_append_left _ (kept.known_of_mem (mem_of_taken now))

theorem Kept.step_heard : (answeredIn (calls ++ [c])).Sublist (takenIn (calls ++ [c])) := by
  rw [answeredIn_concat, takenIn_concat]
  exact kept.heard.append (answered_sublist _ c)

include distinct

theorem Kept.step_ids : ((empty.after calls).entries.map Entry.id).Nodup := by
  rw [newIds_concat, List.nodup_append] at distinct
  exact kept.nodup distinct.1

theorem Kept.step_entries : ((empty.after calls).call c).table.entries =
    (inserted (calls ++ [c])).filter (· ∉ takenIn (calls ++ [c])) := by
  have nodup := kept.step_ids distinct
  rw [inserted_concat, takenIn_concat, List.filter_append, call_table nodup, rest_eq nodup]
  have new {e : Entry} := kept.accepted_new distinct (e := e)
  have entries := kept.entries
  have known {e : Entry} := kept.known_of_mem (e := e)
  generalize empty.after calls = t at new entries known
  have stays : t.entries.filter (· ∉ t.taken c) =
      (inserted calls).filter (· ∉ takenIn calls ++ t.taken c) := by
    conv_lhs => rw [entries]
    rw [List.filter_filter]
    refine List.filter_congr fun e _ => ?_
    rw [Bool.eq_iff_iff, Bool.and_eq_true, decide_eq_true_iff, decide_eq_true_iff,
      decide_eq_true_iff, List.mem_append, not_or]
    exact and_comm
  have comes : (t.accepted c).filter (· ∉ takenIn calls ++ t.taken c) = t.accepted c := by
    -- Whatever was taken had been put in, and a new entry has an identifier of its own.
    rw [List.filter_eq_self]
    intro e member
    rw [decide_eq_true_iff, List.mem_append]
    rintro (before | now)
    · exact new member (kept.among e before)
    · exact new member (known (mem_of_taken now))
  rw [stays, comes]

theorem Kept.step_once : (takenIn (calls ++ [c])).Nodup := by
  rw [takenIn_concat, List.nodup_append]
  refine ⟨kept.once, (List.Nodup.of_map _ (kept.step_ids distinct)).filter _, ?_⟩
  rintro e before _ now rfl
  have left := mem_of_taken now
  rw [kept.entries, List.mem_filter, decide_eq_true_iff] at left
  exact left.2 before

theorem Kept.step_told : (sent (calls ++ [c])).map Reply.caller =
    (answeredIn (calls ++ [c])).map Entry.caller := by
  rw [sent_concat, answeredIn_concat, List.map_append, List.map_append, kept.told,
    replies_callers (kept.step_ids distinct)]

theorem Kept.step_closed : ((empty.after calls).call c).table.closed =
    ((calls ++ [c]).filterMap Call.code?).getLast? := by
  rw [call_table (kept.step_ids distinct), List.filterMap_append, List.filterMap_cons, kept.closed]
  cases c.code? with
  | none => simp
  | some code => simp

theorem Kept.step_shut (shut : ((empty.after calls).call c).table.closed.isSome) :
    ((empty.after calls).call c).table.entries = [] := by
  rw [call_table (kept.step_ids distinct)] at shut ⊢
  cases c with
  | failAll code =>
      exact List.append_eq_nil_iff.mpr ⟨List.filter_eq_nil_iff.mpr (by simp [picks]), rfl⟩
  | _ =>
      have before : (empty.after calls).closed.isSome := shut
      obtain ⟨code, closed⟩ := Option.isSome_iff_exists.mp before
      show (empty.after calls).entries.filter _ ++ (empty.after calls).accepted _ = []
      rw [accepted_shut closed, kept.shut before]
      rfl

theorem Kept.step : Kept (calls ++ [c]) ((empty.after calls).call c).table where
  known := kept.step_known
  entries := kept.step_entries distinct
  once := kept.step_once distinct
  among := kept.step_among
  told := kept.step_told distinct
  heard := kept.step_heard
  closed := kept.step_closed distinct
  shut := kept.step_shut distinct

end Step

/-- A caller is told as often as its entry was answered, which is once at most. -/
theorem Kept.count_told (kept : Kept calls t) (callers : ((inserted calls).map Entry.caller).Nodup)
    {e : Entry} (member : e ∈ inserted calls) :
    (sent calls).countP (·.caller == e.caller) = if e ∈ answeredIn calls then 1 else 0 := by
  have different := List.inj_on_of_nodup_map callers
  have put {x : Entry} (heard : x ∈ answeredIn calls) : x ∈ inserted calls :=
    kept.among x (kept.heard.subset heard)
  -- The replies to a caller are counted over the entries that they answer.
  have once : ((answeredIn calls).map Entry.caller).Nodup := by
    apply (kept.once.sublist kept.heard).map_on
    exact fun x first y second => different (put first) (put second)
  have count : (sent calls).countP (·.caller == e.caller) =
      ((sent calls).map Reply.caller).count e.caller := by
    rw [List.count, List.countP_map]
    rfl
  have heard : e.caller ∈ (answeredIn calls).map Entry.caller ↔ e ∈ answeredIn calls := by
    constructor
    · intro told
      obtain ⟨x, answered, same⟩ := List.mem_map.mp told
      exact different (put answered) member same ▸ answered
    · exact List.mem_map_of_mem
  rw [count, kept.told, once.count]
  simp only [heard]

theorem run_kept (calls : List Call) (distinct : (newIds calls).Nodup) :
    Kept calls (empty.after calls) := by
  -- A call is made last: `Kept` then speaks of the table that it finds.
  induction calls using List.reverseRecOn with
  | nil => exact .start
  | append_singleton calls c ih =>
      have earlier : (newIds calls).Nodup :=
        distinct.sublist ((List.sublist_append_left calls [c]).filterMap _)
      rw [after_concat]
      exact (ih earlier).step distinct

/-- What calls make of the empty table, where no identifier is put in twice. -/
structure OrderedOnce (calls : List Call) (t : Table) : Prop where
  /-- The entries are those that were put in and not taken, in the order in which they came. -/
  entries : t.entries = (inserted calls).filter (· ∉ takenIn calls)
  /-- What is taken was put in, and is taken once. -/
  once : (takenIn calls).Nodup ∧ ∀ e ∈ takenIn calls, e ∈ inserted calls
  /-- A call about one entry takes one at most, and the others keep their order. -/
  single : ∀ c : Call, c.isSingle → (t.taken c).length ≤ 1 ∧
    (t.call c).table = { t with entries := t.entries.filter (· ∉ t.taken c) }
  /-- A withdrawal takes the entry of its identifier. -/
  withdrawn : ∀ e ∈ t.entries, t.taken (.remove e.id) = [e]
  /-- A response without an identifier goes to the oldest entry, and so does a failure. -/
  oldest : ∀ c : Call,
    (∃ r, c = .resolve r ∧ r.id = none) ∨ (∃ failure, c = .rejectOldest failure) →
      t.taken c = t.entries.take 1
  /-- A response with an identifier goes to the entry of that identifier. -/
  named : ∀ (r : Response) (text : String), r.id = some text → ∀ e ∈ t.entries,
    RequestId.ofText? text = some e.id → t.taken (.resolve r) = [e]
  /-- It changes nothing when its identifier cannot be read or is in no entry. -/
  unnamed : ∀ (r : Response) (text : String), r.id = some text →
    (∀ e ∈ t.entries, RequestId.ofText? text ≠ some e.id) → t.call (.resolve r) = ⟨t, [], none⟩
  /-- To close the table takes all entries. -/
  closing : ∀ code : Option Int, t.taken (.failAll code) = t.entries
  /-- What is taken is told the outcome of the call, a withdrawn entry nothing. -/
  replies : ∀ c : Call, (t.call c).replies =
    match c.outcome? with
    | none => []
    | some outcome => (t.taken c).map fun e => ⟨e.caller, outcome⟩
  /-- If all callers are different, each gets one reply if its entry was taken by a call that
  replies, and none otherwise. -/
  told : ((inserted calls).map Entry.caller).Nodup → ∀ e ∈ inserted calls,
    (sent calls).countP (·.caller == e.caller) = if e ∈ answeredIn calls then 1 else 0
  /-- The table is emptied when it is closed, and stays empty. -/
  shut : calls.filterMap Call.code? ≠ [] → t.entries = []
  /-- An entry comes to the end of an open table; a closed one refuses it with the latest code. -/
  insert : ∀ e : Entry, t.call (.insert e) =
    match (calls.filterMap Call.code?).getLast? with
    | none => ⟨{ t with entries := t.entries ++ [e] }, [], none⟩
    | some code => ⟨t, [], some (.workerExited code)⟩

/-- Calls that put in no identifier twice make an ordered map of the table, whose entries are given
up once. -/
theorem ordered_once (distinct : (newIds calls).Nodup) : OrderedOnce calls (empty.after calls) := by
  have kept := run_kept calls distinct
  have nodup := kept.nodup distinct
  generalize empty.after calls = t at kept nodup
  constructor
  case entries => exact kept.entries
  case once => exact ⟨kept.once, kept.among⟩
  case single => exact fun c => call_single nodup
  case withdrawn =>
    intro e member
    exact taken_eq_singleton nodup rfl member (beq_self_eq_true e.id)
  case oldest =>
    rintro c (⟨r, rfl, plain⟩ | ⟨failure, rfl⟩)
    · apply taken_oldest nodup rfl
      intro e
      rw [picks, plain]
    · exact taken_oldest nodup rfl fun _ => rfl
  case named =>
    intro r text names e member read
    exact taken_eq_singleton nodup rfl member ((picks_named names e).mpr read)
  case unnamed =>
    intro r text names other
    apply call_resolve_nobody
    intro e member about
    rw [picks_named names] at about
    exact other e member about
  case closing =>
    intro code
    rw [taken_eq nodup]
    exact List.filter_eq_self.mpr fun _ _ => rfl
  case replies =>
    intro c
    rw [call_replies nodup, taken_eq nodup]
  case told =>
    exact fun callers e => kept.count_told callers
  case shut =>
    intro some
    apply kept.shut
    rw [kept.closed]
    exact List.getLast?_isSome.mpr some
  case insert =>
    intro e
    rw [call_insert, kept.closed]

/-- The second entry is answered by its name and the first one withdrawn, so that the third is the
oldest; after the table is closed twice, an entry is refused with the second code. -/
theorem ordered_once_closed :
    let third : Entry := ⟨3, "read_text", 2⟩
    let calls : List Call := [.insert ⟨1, "init", 0⟩, .insert ⟨2, "read_text", 1⟩, .insert third,
      .resolve ⟨some "00000000-0000-0000-0000-000000000002", .success, none, none⟩, .remove 1]
    let closed := empty.after (calls ++ [.failAll (some 1), .failAll none])
    (newIds calls).Nodup ∧ (empty.after calls).entries = [third] ∧
      (empty.after calls).taken (.resolve ⟨none, .success, none, none⟩) = [third] ∧
      (sent calls).countP (·.caller == 1) = 1 ∧ (sent calls).countP (·.caller == 0) = 0 ∧
      closed.entries = [] ∧
      closed.call (.insert ⟨4, "close", 3⟩) = ⟨closed, [], some (.workerExited none)⟩ := by
  intro third calls closed
  have distinct : (newIds calls).Nodup := by decide
  have pending : OrderedOnce calls (empty.after calls) := ordered_once distinct
  have shut : OrderedOnce (calls ++ [.failAll (some 1), .failAll none]) closed :=
    ordered_once (by decide)
  have callers : ((inserted calls).map Entry.caller).Nodup := by decide +kernel
  have left : (empty.after calls).entries = [third] := pending.entries.trans (by decide +kernel)
  refine ⟨distinct, left, ?_, ?_, ?_, shut.shut (by decide), shut.insert _⟩
  · rw [pending.oldest _ (.inl ⟨_, rfl, rfl⟩), left]
    rfl
  · rw [pending.told callers ⟨2, "read_text", 1⟩ (by decide +kernel)]
    decide +kernel
  · rw [pending.told callers ⟨1, "init", 0⟩ (by decide +kernel)]
    decide +kernel

end Runs

end Table

end ImageSearch.Worker
