import ImageSearch.Proofs.Document.Words

set_option autoImplicit false

namespace ImageSearch

open Text

theorem distinct_ascending (words : List (List Char)) :
    (distinct words).Pairwise fun v w => words.idxOf v < words.idxOf w := by
  induction words with
  | nil => exact List.Pairwise.nil
  | cons u rest ih =>
      have later (w : List Char) (other : w ≠ u) : (u :: rest).idxOf w = rest.idxOf w + 1 := by
        rw [List.idxOf_cons, beq_false_of_ne other.symm, cond_false]
      rw [distinct, List.pairwise_cons]
      constructor
      · intro w mem
        have other := of_decide_eq_true (List.mem_filter.mp mem).2
        rw [List.idxOf_cons_self, later w other]
        omega
      · apply (ih.filter _).imp_of_mem
        intro v w first second before
        rw [later v (of_decide_eq_true (List.mem_filter.mp first).2),
          later w (of_decide_eq_true (List.mem_filter.mp second).2)]
        omega

theorem nodup_distinct (words : List (List Char)) : (distinct words).Nodup := by
  apply (distinct_ascending words).imp
  intro v w before same
  rw [same] at before
  exact Nat.lt_irrefl _ before

theorem distinct_eq_self {words : List (List Char)} (nodup : words.Nodup) :
    distinct words = words := by
  induction words with
  | nil => rfl
  | cons u rest ih =>
      obtain ⟨fresh, nodup⟩ := List.nodup_cons.mp nodup
      rw [distinct, ih nodup, List.filter_eq_self.mpr]
      intro w mem
      exact decide_eq_true fun same => fresh (same ▸ mem)

/-- To leave entries out before or after makes no difference. -/
theorem distinct_filter (keep : List Char → Bool) (words : List (List Char)) :
    distinct (words.filter keep) = (distinct words).filter keep := by
  induction words with
  | nil => rfl
  | cons u rest ih =>
      cases kept : keep u with
      | true =>
          rw [List.filter_cons_of_pos kept, distinct, distinct, List.filter_cons_of_pos kept, ih,
            List.filter_filter, List.filter_filter]
          simp only [Bool.and_comm (keep _)]
      | false =>
          have dropped : ¬ keep u = true := Bool.eq_false_iff.mp kept
          rw [List.filter_cons_of_neg dropped, distinct, List.filter_cons_of_neg dropped, ih,
            List.filter_filter]
          apply List.filter_congr
          intro w _
          by_cases same : w = u
          · rw [same, kept, Bool.false_and]
          · rw [decide_eq_true same, Bool.and_true]

/-- The words one after the other, with white space between each two. -/
inductive Spaced : List (List Char) → List Char → Prop
  | none : Spaced [] []
  | last (w : List Char) : Spaced [w] w
  | more (w : List Char) {gap text v : List Char} {words : List (List Char)} (apart : gap ≠ [])
      (blank : ∀ c ∈ gap, isBlank c = true) (rest : Spaced (v :: words) text) :
      Spaced (w :: v :: words) (w ++ gap ++ text)

/-- The runs of such a text are its words. -/
theorem Spaced.splitBlank {words : List (List Char)} {text : List Char}
    (spaced : Spaced words text)
    (solid : ∀ w ∈ words, w ≠ [] ∧ ∀ c ∈ w, isBlank c = false) : splitBlank text = words := by
  have single {w : List Char} (mine : w ≠ [] ∧ ∀ c ∈ w, isBlank c = false) :
      Text.splitBlank w = [w] := by
    rw [splitBlank_of_solid mine.2]
    exact List.filter_cons_of_pos (by simpa using mine.1)
  induction spaced with
  | none => rfl
  | last w => exact single (solid w List.mem_cons_self)
  | @more w gap text v words apart blank rest ih =>
      obtain ⟨mine, others⟩ := List.forall_mem_cons.mp solid
      cases gap with
      | nil => exact absurd rfl apart
      | cons c gap =>
          obtain ⟨first, more⟩ := List.forall_mem_cons.mp blank
          rw [List.append_assoc, List.cons_append, splitBlank_append_cons first, single mine,
            splitBlank_append_of_blank more, ih others]
          rfl

theorem lower_filter_of_mem_extractWords {text w : List Char} (mem : w ∈ extractWords text) :
    lower (w.filter isKept) = w := by
  have kept : w.filter isKept = w :=
    List.filter_eq_self.mpr fun c inside => (char_of_mem_extractWords mem inside).1
  rw [kept, lower_of_mem_extractWords mem]

/-- A text that is written with the words of a text has the same words. -/
theorem extractWords_spaced {text again : List Char} (spaced : Spaced (extractWords text) again) :
    extractWords again = extractWords text := by
  have runs : splitBlank again = extractWords text := by
    apply spaced.splitBlank
    intro w mem
    refine ⟨ne_nil_of_mem_extractWords mem, fun c inside => ?_⟩
    exact (char_of_mem_extractWords mem inside).2.1
  have same : (extractWords text).map (fun w => lower (w.filter isKept)) = extractWords text := by
    have each (w : List Char) (mem : w ∈ extractWords text) : lower (w.filter isKept) = id w :=
      lower_filter_of_mem_extractWords mem
    rw [List.map_congr_left each, List.map_id]
  have long : (extractWords text).filter (shortWord < ·.length) = extractWords text := by
    apply List.filter_eq_self.mpr
    intro w mem
    exact decide_eq_true (mem_extractWords.mp mem).1
  have nodup : (extractWords text).Nodup := nodup_distinct _
  rw [extractWords_eq, runs, same, long, distinct_eq_self nodup]

/-- The words of a text are runs of its stripped and lowered form: all that are longer than two
characters, each once, in the order in which they are first met. They hold kept characters in lower
case only, and no white space. A text that is written with these words has just these words. -/
theorem extractWords_normal (text : List Char) :
    (extractWords text).Nodup ∧
    (∀ w ∈ extractWords text, 2 < w.length ∧ lower w = w ∧
      ∀ c ∈ w, isKept c = true ∧ isBlank c = false) ∧
    (∀ w, w ∈ extractWords text ↔
      2 < w.length ∧ w ∈ splitBlank (lower (text.filter isKept))) ∧
    ((extractWords text).Pairwise fun v w =>
      (splitBlank (lower (text.filter isKept))).idxOf v <
        (splitBlank (lower (text.filter isKept))).idxOf w) ∧
    ∀ again, Spaced (extractWords text) again → extractWords again = extractWords text := by
  refine ⟨nodup_distinct _, ?_, fun w => mem_extractWords_run, ?_, fun again spaced =>
    extractWords_spaced spaced⟩
  · intro w mem
    refine ⟨(mem_extractWords_run.mp mem).1, lower_of_mem_extractWords mem, fun c inside => ?_⟩
    obtain ⟨kept, solid, _⟩ := char_of_mem_extractWords mem inside
    exact ⟨kept, solid⟩
  · rw [extractWords, distinct_filter]
    exact (distinct_ascending _).filter _

/-- A word of two capitals is long enough in lower case, where the dot stands by itself. It stays a
word when it is read again. -/
theorem extractWords_normal_dotted :
    let text := "İL, ΟΔΟΣ! an ΟΔΟΣ".toList
    let dotted := ['i', '\u0307', 'l']
    let again := "i\u0307l\u3000\nοδος".toList
    extractWords text = [dotted, "οδος".toList] ∧ dotted ∈ extractWords text ∧
    (2 < dotted.length ∧ lower dotted = dotted ∧
      ∀ c ∈ dotted, isKept c = true ∧ isBlank c = false) ∧
    Spaced (extractWords text) again ∧ extractWords again = extractWords text := by
  intro text dotted again
  have words : extractWords text = [dotted, "οδος".toList] := by decide +kernel
  have member : dotted ∈ extractWords text := by
    rw [words]
    exact List.mem_cons_self
  have spaced : Spaced (extractWords text) again := by
    rw [words]
    have blank : ['\u3000', '\n'].all isBlank = true := by decide
    exact .more dotted (List.cons_ne_nil _ _) (List.all_eq_true.mp blank) (.last _)
  obtain ⟨_, each, _, _, read⟩ := extractWords_normal text
  exact ⟨words, member, each dotted member, spaced, read again spaced⟩

end ImageSearch
