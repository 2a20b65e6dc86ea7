import ImageSearch.Worker.Channel.Step
import Mathlib.Data.List.Nodup

set_option autoImplicit false

namespace ImageSearch.Worker

open Recognition

inductive LineKind where
  | nothing
  | answer (response : Response)
  | noise (fault : ProtocolFault)

def LineKind.ofLine (bytes : List Nat) : LineKind :=
  match Text.readUtf8 bytes with
  | .error fault => .noise (.notText fault)
  | .ok cs =>
    if (Text.trim cs).isEmpty then .nothing
    else
      match Response.ofLine (Text.trim cs) with
      | .ok response => .answer response
      | .error fault => .noise fault

def plainLine (text : String) : List Nat := text.toList.map Char.toNat ++ [10]

def successLine : List Nat := plainLine "\x7b\"status\":\"success\"\x7d"

namespace Table

section Unique

variable {entries : List Entry} {p : Entry → Bool}

/-- Where at most one entry is of a kind, to drop the first of the kind is to drop all of it. -/
theorem eraseP_of_unique (nodup : entries.Nodup)
    (unique : ∀ x ∈ entries, ∀ y ∈ entries, p x = true → p y = true → x = y) :
    entries.eraseP p = entries.filter (!p ·) := by
  induction entries with
  | nil => rfl
  | cons x rest ih =>
      rw [List.nodup_cons] at nodup
      by_cases kind : p x = true
      · rw [List.eraseP_cons_of_pos kind, List.filter_cons_of_neg (by simpa using kind)]
        symm
        rw [List.filter_eq_self]
        intro y member
        rw [Bool.not_eq_true', Bool.eq_false_iff]
        intro also
        have same := unique x List.mem_cons_self y (List.mem_cons_of_mem x member) kind also
        exact nodup.1 (same ▸ member)
      · rw [List.eraseP_cons_of_neg kind, List.filter_cons_of_pos (by simpa using kind)]
        rw [ih nodup.2 fun y first z second =>
          unique y (List.mem_cons_of_mem x first) z (List.mem_cons_of_mem x second)]

/-- Where at most one entry is of a kind, the first of the kind is all of it. -/
theorem find?_of_unique (nodup : entries.Nodup)
    (unique : ∀ x ∈ entries, ∀ y ∈ entries, p x = true → p y = true → x = y) :
    (entries.find? p).toList = entries.filter p := by
  cases found : entries.find? p with
  | none =>
      rw [List.find?_eq_none] at found
      exact (List.filter_eq_nil_iff.mpr found).symm
  | some x =>
      obtain ⟨kind, before, after, split, others⟩ := List.find?_eq_some_iff_append.mp found
      have first : before.filter p = [] := List.filter_eq_nil_iff.mpr (by simpa using others)
      have last : after.filter p = [] := by
        rw [List.filter_eq_nil_iff]
        intro y member also
        rw [split] at nodup unique
        have same := unique x (by simp) y (by simp [member]) kind also
        exact (List.nodup_cons.mp (List.nodup_append.mp nodup).2.1).1 (same ▸ member)
      rw [split, List.filter_append, List.filter_cons_of_pos kind, first, last]
      rfl

theorem unique_of_id (nodup : (entries.map Entry.id).Nodup) (id : RequestId) :
    ∀ x ∈ entries, ∀ y ∈ entries, (x.id == id) = true → (y.id == id) = true → x = y := by
  intro x first y second mine other
  rw [beq_iff_eq] at mine other
  exact List.inj_on_of_nodup_map nodup first second (mine.trans other.symm)

theorem eraseP_eq_filter {id : RequestId} (nodup : (entries.map Entry.id).Nodup) :
    entries.eraseP (·.id == id) = entries.filter (·.id != id) :=
  eraseP_of_unique (.of_map _ nodup) (unique_of_id nodup id)

end Unique

theorem mem_remove {t : Table} {id : RequestId} {e : Entry} (member : e ∈ (t.remove id).entries) :
    e ∈ t.entries :=
  List.mem_of_mem_eraseP member

/-- A table gives nothing and stays as it is, or gives a reply to the caller of one entry, which is
taken out. -/
inductive Gives (t : Table) : Table × Option Reply → Prop
  | nothing : Gives t (t, none)
  | reply {before after : List Entry} {x : Entry} {r : Reply}
      (split : t.entries = before ++ x :: after) (caller : x.caller = r.caller) :
      Gives t ({ t with entries := before ++ after }, some r)

theorem answerOldest_gives (t : Table) (outcome : Outcome) : t.Gives (t.answerOldest outcome) := by
  unfold answerOldest
  split
  · exact .nothing
  · rename_i oldest rest same
    exact @Gives.reply t [] rest oldest ⟨oldest.caller, outcome⟩ same rfl

theorem answerNamed_gives (t : Table) (id : RequestId) (outcome : Outcome) :
    t.Gives (t.answerNamed id outcome) := by
  unfold answerNamed
  split
  · exact .nothing
  · rename_i x found
    obtain ⟨named, before, after, split, others⟩ := List.find?_eq_some_iff_append.mp found
    have rest : t.remove id = { t with entries := before ++ after } := by
      have first : (x :: after).eraseP (·.id == id) = after := List.eraseP_cons_of_pos named
      rw [remove, split, List.eraseP_append_right _ (by simpa using others), first]
    rw [rest]
    exact .reply split rfl

theorem Gives.sublist {t u : Table} {reply : Option Reply} (gives : t.Gives (u, reply)) :
    u.entries.Sublist t.entries := by
  cases gives with
  | nothing => exact .refl _
  | reply split =>
      rw [split]
      exact (List.Sublist.refl _).append (List.sublist_cons_self _ _)

theorem Gives.frame {t u : Table} {reply : Option Reply} (gives : t.Gives (u, reply)) :
    u.closed = t.closed ∧ (∀ e ∈ u.entries, e ∈ t.entries) ∧
      ∀ r ∈ reply, ∃ e ∈ t.entries, e.caller = r.caller := by
  cases gives with
  | nothing => exact ⟨rfl, fun _ member => member, by simp⟩
  | reply split caller =>
      refine ⟨rfl, fun _ member => (Gives.reply split caller).sublist.subset member, ?_⟩
      intro r given
      cases given
      rw [split]
      exact ⟨_, List.mem_append_right _ List.mem_cons_self, caller⟩

end Table

namespace Channel

theorem takeLine_eq (t : Table) (bytes : List Nat) :
    takeLine t bytes =
      match LineKind.ofLine bytes with
      | .nothing => (t, none)
      | .answer response => t.resolve response
      | .noise fault => t.rejectOldest (.protocol fault) := by
  unfold takeLine LineKind.ofLine
  cases Text.readUtf8 bytes with
  | error fault => rfl
  | ok cs =>
      dsimp only
      by_cases empty : (Text.trim cs).isEmpty = true
      · simp only [if_pos empty]
      · simp only [if_neg empty]
        cases Response.ofLine (Text.trim cs) with
        | ok response => rfl
        | error fault => rfl

theorem takeLine_gives (t : Table) (bytes : List Nat) : t.Gives (takeLine t bytes) := by
  rw [takeLine_eq]
  split
  · exact .nothing
  · unfold Table.resolve
    split
    · exact t.answerOldest_gives _
    · split
      · exact .nothing
      · exact t.answerNamed_gives _ _
  · exact t.answerOldest_gives _

theorem takeLine_entries {t u : Table} {bytes : List Nat} {reply : Option Reply}
    (taken : takeLine t bytes = (u, reply)) :
    u.closed = t.closed ∧ (∀ e ∈ u.entries, e ∈ t.entries) ∧
      ∀ r ∈ reply, ∃ e ∈ t.entries, e.caller = r.caller :=
  (taken ▸ takeLine_gives t bytes).frame

/-- A line brings the answer that it reads as, or the fault of a line that cannot be read. -/
theorem takeLine_outcome {t : Table} {bytes : List Nat} {r : Reply}
    (given : (takeLine t bytes).2 = some r) :
    (∃ response, LineKind.ofLine bytes = .answer response ∧ r.outcome = .ok response) ∨
      ∃ fault, LineKind.ofLine bytes = .noise fault ∧ r.outcome = .error (.protocol fault) := by
  have oldest {outcome : Outcome} (answer : (t.answerOldest outcome).2 = some r) :
      r.outcome = outcome := by
    unfold Table.answerOldest at answer
    split at answer
    · cases answer
    · cases answer
      rfl
  rw [takeLine_eq] at given
  split at given
  · cases given
  · rename_i response reads
    refine .inl ⟨response, reads, ?_⟩
    unfold Table.resolve at given
    split at given
    · exact oldest given
    · split at given
      · cases given
      · unfold Table.answerNamed at given
        split at given
        · cases given
        · cases given
          rfl
  · rename_i fault reads
    exact .inr ⟨fault, reads, oldest given⟩

end Channel

end ImageSearch.Worker
