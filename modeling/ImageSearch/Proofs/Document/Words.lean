import ImageSearch.Document.Basic
import ImageSearch.Proofs.Text.Alphabets
import ImageSearch.Proofs.Text.Splitting

set_option autoImplicit false

namespace ImageSearch

open Text

namespace WordSet

theorem ext_of_mem {s t : WordSet} (same : ∀ w, w ∈ s.toList ↔ w ∈ t.toList) : s = t := by
  obtain ⟨left, ascending⟩ := s
  obtain ⟨right, ascending'⟩ := t
  have distinct (l : List String) (sorted : l.Pairwise (· < ·)) : l.Nodup :=
    sorted.imp fun below => String.ne_of_lt below
  have shuffled : left.Perm right :=
    (List.perm_ext_iff_of_nodup (distinct left ascending) (distinct right ascending')).mpr same
  have equal : left = right :=
    shuffled.eq_of_pairwise (fun a b _ _ below above => absurd above (String.lt_asymm below))
      ascending ascending'
  subst equal
  rfl

theorem mem_foldl_insert {words : List String} {s : WordSet} {w : String} :
    w ∈ (words.foldl insert s).toList ↔ w ∈ words ∨ w ∈ s.toList := by
  induction words generalizing s with
  | nil => simp
  | cons v rest ih =>
      rw [List.foldl_cons, ih, mem_toList_insert, List.mem_cons, or_assoc, or_left_comm]

theorem mem_ofList {words : List String} {w : String} : w ∈ (ofList words).toList ↔ w ∈ words := by
  rw [ofList, mem_foldl_insert]
  exact or_iff_left List.not_mem_nil

theorem ofList_toList (s : WordSet) : ofList s.toList = s :=
  ext_of_mem fun _ => mem_ofList

theorem contains_iff {s : WordSet} {w : String} : s.contains w = true ↔ w ∈ s.toList :=
  List.contains_iff_mem

end WordSet

theorem mem_distinct {words : List (List Char)} {w : List Char} :
    w ∈ distinct words ↔ w ∈ words := by
  induction words with
  | nil => exact Iff.rfl
  | cons v rest ih =>
      rw [distinct, List.mem_cons, List.mem_cons, List.mem_filter, ih]
      by_cases same : w = v
      · simp [same]
      · simp [same]

/-- The words of a text are its runs of solid characters, each stripped and lowered by itself. -/
theorem extractWords_eq (text : List Char) :
    extractWords text = distinct (((splitBlank text).map fun piece =>
      lower (piece.filter isKept)).filter (shortWord < ·.length)) := by
  rw [extractWords, splitBlank_lower_filter, List.filter_filter]
  congr 1
  apply List.filter_congr
  intro w _
  cases w with
  | nil => rfl
  | cons c rest => exact Bool.and_true _

theorem mem_extractWords {text w : List Char} :
    w ∈ extractWords text ↔ shortWord < w.length ∧
      ∃ piece ∈ splitBlank text, lower (piece.filter isKept) = w := by
  rw [extractWords_eq, mem_distinct, List.mem_filter, List.mem_map, decide_eq_true_iff, and_comm]

/-- The words of a text are its long runs after it has been stripped and lowered as a whole. -/
theorem mem_extractWords_run {text w : List Char} : w ∈ extractWords text ↔
    shortWord < w.length ∧ w ∈ splitBlank (lower (text.filter isKept)) := by
  rw [extractWords, mem_distinct, List.mem_filter, decide_eq_true_iff, and_comm]

theorem char_of_mem_extractWords {text w : List Char} (mem : w ∈ extractWords text) {c : Char}
    (inside : c ∈ w) : isKept c = true ∧ isBlank c = false ∧ Settled c := by
  obtain ⟨lowered, solid⟩ := mem_splitBlank (mem_extractWords_run.mp mem).2 c inside
  refine ⟨kept_of_mem_lower (fun d among => ?_) lowered, solid, settled_of_mem_lower lowered⟩
  exact (List.mem_filter.mp among).2

theorem ne_nil_of_mem_extractWords {text w : List Char} (mem : w ∈ extractWords text) :
    w ≠ [] :=
  ne_nil_of_mem_splitBlank (mem_extractWords_run.mp mem).2

theorem lower_of_mem_extractWords {text w : List Char} (mem : w ∈ extractWords text) :
    lower w = w :=
  lower_eq_self fun _ inside => (char_of_mem_extractWords mem inside).2.2

namespace Document

theorem joinedText_singleton (item : Recognition.Item) : joinedText [item] = item.text.toList :=
  List.intercalate_singleton

theorem isSome_ofRecognition (path : Path) (items : List Recognition.Item) :
    (ofRecognition path items).isSome = true ↔ ∃ c ∈ joinedText items, isBlank c = false := by
  have blank : isBlankText (joinedText items) = false ↔
      ∃ c ∈ joinedText items, isBlank c = false := by
    simp [isBlankText]
  rw [← blank, ofRecognition]
  cases isBlankText (joinedText items) with
  | true => simp
  | false => simp

/-- The words of a document are the words of its text. -/
theorem mem_words_ofRecognition {path : Path} {items : List Recognition.Item} {d : Document}
    (made : ofRecognition path items = some d) {w : String} :
    w ∈ d.words.toList ↔ w.toList ∈ extractWords (joinedText items) := by
  rw [ofRecognition] at made
  simp only [Option.ite_none_left_eq_some, Option.some.injEq] at made
  obtain ⟨_, rfl⟩ := made
  have settled (v : List Char) (mem : v ∈ extractWords (joinedText items)) :
      lowerString (String.ofList v) = String.ofList v := by
    rw [lowerString, String.toList_ofList, lower_of_mem_extractWords mem]
  rw [ofWords, WordSet.mem_ofList, List.map_map, List.mem_map]
  constructor
  · rintro ⟨v, mem, rfl⟩
    rw [Function.comp_apply, settled v mem, String.toList_ofList]
    exact mem
  · intro mem
    refine ⟨w.toList, mem, ?_⟩
    rw [Function.comp_apply, settled _ mem, String.ofList_toList]

end Document

end ImageSearch
