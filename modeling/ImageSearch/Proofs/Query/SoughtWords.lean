import ImageSearch.Proofs.Query.IndexedWords

set_option autoImplicit false

namespace ImageSearch.Query

open ImageSearch.Text

theorem Scans.blank_of_nil {position : Nat} {cs : List Char} (scans : Scans position cs []) :
    ∀ c ∈ cs, isBlank c = true := by
  generalize none_ : ([] : List Placed) = ts at scans
  induction scans with
  | nil => exact fun _ missing => absurd missing List.not_mem_nil
  | blank blank _ ih => exact List.forall_mem_cons.mpr ⟨blank, ih none_⟩
  | operator | quoted | word => cases none_

/-- A text with one bare word for its tokens is that word with white space around it. -/
theorem Scans.splitBlank_word {position place : Nat} {cs : List Char} {v : String}
    (scans : Scans position cs [⟨place, .word v⟩]) : splitBlank cs = [v.toList] := by
  generalize single : [(⟨place, .word v⟩ : Placed)] = ts at scans
  induction scans with
  | nil => cases single
  | blank blank _ ih =>
      rw [splitBlank_cons blank]
      exact ih single
  | operator operator _ =>
      simp only [List.cons.injEq, Placed.mk.injEq] at single
      obtain ⟨⟨_, rfl⟩, _⟩ := single
      rw [operator?.eq_def] at operator
      split at operator
      all_goals cases operator
  | quoted => cases single
  | @word _ text rest _ nonempty bare stop later =>
      simp only [List.cons.injEq, Placed.mk.injEq, Token.word.injEq] at single
      obtain ⟨⟨_, rfl⟩, rfl⟩ := single
      have solid : splitBlank text = [text] := by
        rw [splitBlank_of_solid fun c among => blank_of_bare (bare c among)]
        cases text with
        | nil => exact absurd rfl nonempty
        | cons c cs => rfl
      rw [String.toList_ofList]
      cases rest with
      | nil => rw [List.append_nil, solid]
      | cons c rest =>
          have blank := later.blank_of_nil
          rw [splitBlank_append_cons (blank c List.mem_cons_self), solid,
            splitBlank_of_blank fun d among => blank d (List.mem_cons_of_mem c among)]
          rfl

theorem lowerString_scanned {cs : List Char} {v : String} {place : Nat}
    (single : scan (lower cs) = .ok [⟨place, .word v⟩]) : lowerString v = v := by
  obtain ⟨_, _, within⟩ := (scans_of_scanFrom single).genuine _ List.mem_cons_self
  rw [lowerString, lower_eq_self fun c inside => settled_of_mem_lower (within inside),
    String.ofList_toList]

/-- The run of a text that a bare word of it comes from. -/
theorem exists_run_of_scanned {cs : List Char} {v : String} {place : Nat}
    (single : scan (lower cs) = .ok [⟨place, .word v⟩]) :
    ∃ piece ∈ splitBlank cs, lower piece = v.toList := by
  have whole := (scans_of_scanFrom single).splitBlank_word
  have among : v.toList ∈ splitBlank (lower cs) := by
    rw [whole]
    exact List.mem_cons_self
  rw [splitBlank_lower, List.mem_filter, List.mem_map] at among
  exact among.1

/-- A text that is read as one bare word is a query, and a document is made of it. The query selects
that document exactly if the word is long enough and all its characters are kept of a text. The ones
that are not kept are numbers, but neither letters nor decimal digits. -/
theorem bareWord_found_iff {item : Recognition.Item} {v : String} {place : Nat}
    (single : scan (lower item.text.toList) = .ok [⟨place, .word v⟩]) (path : Path) :
    ∃ query d, Query.parse item.text = .ok query ∧
      query.root = (if v.toList.all Char.isDigit then .literal v else .identifier v) ∧
      Document.ofRecognition path [item] = some d ∧
      (query.selects d = true ↔ 2 < v.length ∧ ∀ c ∈ v.toList, isKept c = true) ∧
      ∀ c ∈ v.toList, isKept c = false →
        isNumeral c = true ∧ isDecimalDigit c = false ∧ isAlphabetic c = false := by
  have derives : Derives item.text (wordDerivation v) := ⟨_, single, rfl⟩
  obtain ⟨nonempty, bare, _⟩ := (scans_of_scanFrom single).genuine _ List.mem_cons_self
  obtain ⟨piece, among, lowered⟩ := exists_run_of_scanned single
  have solid : ∃ c ∈ Document.joinedText [item], isBlank c = false := by
    rw [Document.joinedText_singleton]
    exact exists_solid_of_mem_splitBlank among
  obtain ⟨d, made⟩ := Option.isSome_iff_exists.mp
    ((Document.isSome_ofRecognition path [item]).mpr solid)
  have indexed : d.contains v = true ↔ 2 < v.length ∧ ∀ c ∈ v.toList, isKept c = true := by
    rw [Document.contains, WordSet.contains_iff, Document.mem_words_ofRecognition made,
      Document.joinedText_singleton]
    constructor
    · intro extracted
      have long := (mem_extractWords.mp extracted).1
      exact ⟨long, fun c inside => (char_of_mem_extractWords extracted inside).1⟩
    · rintro ⟨long, kept⟩
      have whole : piece.filter isKept = piece := by
        apply List.filter_eq_self.mpr
        apply kept_of_lower
        rw [lowered]
        exact kept
      apply mem_extractWords.mpr
      exact ⟨long, piece, among, by rw [whole, lowered]⟩
  refine ⟨_, d, derives.parse.1 (fits_wordDerivation v), rfl, made, ?_, ?_⟩
  · show (wordDerivation v).tree.holds d = true ↔ _
    rw [holds_wordDerivation, hasWord_of_lower (lowerString_scanned single)]
    exact indexed
  · intro c inside stripped
    exact number_of_not_kept (bare c inside) stripped

/-- A superscript digit may stand in a bare word, but it is stripped from the words of a text, so
that an area is not found where it was recognised. -/
theorem bareWord_lost :
    let item : Recognition.Item := ⟨"100m²", 0.5, []⟩
    scan (lower item.text.toList) = .ok [⟨0, .word "100m²"⟩] ∧
    ∃ query d, Query.parse item.text = .ok query ∧ query.root = .identifier "100m²" ∧
      Document.ofRecognition ⟨"a.png"⟩ [item] = some d ∧ query.selects d = false := by
  intro item
  have small : lowerString "100m²" = "100m²" := by decide +kernel
  have bare : (lower "100m²".toList).all isBareWordChar = true := by decide +kernel
  have single : scan (lower item.text.toList) = .ok [⟨0, .word "100m²"⟩] := by
    have scanned := scan_bareWord (u := "100m²") (by decide) (List.all_eq_true.mp bare)
    rwa [small] at scanned
  obtain ⟨query, d, parsed, root, made, found, _⟩ := bareWord_found_iff single ⟨"a.png"⟩
  refine ⟨single, query, d, parsed, root, made, ?_⟩
  have stripped : isKept '²' = false := by decide
  apply Bool.eq_false_iff.mpr
  intro selected
  have kept := (found.mp selected).2 '²' (by decide)
  rw [stripped] at kept
  cases kept

def quotedDerivation (w : String) : Derivation .or := .or (.and (.primary (.quoted w)))

theorem fits_quotedDerivation (w : String) : (quotedDerivation w).Fits 0 :=
  Derivation.fits_zero.mpr ⟨Nat.zero_le 256, (by decide : 1 ≤ 256)⟩

variable {u : String}

theorem lower_quoted (u : String) :
    lower ("\"" ++ u ++ "\"").toList = '"' :: (lower u.toList ++ ['"']) := by
  have quote : Divides '"' := divides_of_dividing (by decide)
  have shape : ("\"" ++ u ++ "\"").toList = [] ++ '"' :: (u.toList ++ '"' :: []) := by
    simp
  rw [shape, quote.lower_append, quote.lower_append]
  rfl

theorem derives_quoted (nonempty : lower u.toList ≠ []) (unquoted : '"' ∉ lower u.toList) :
    Derives ("\"" ++ u ++ "\"") (quotedDerivation (lowerString u)) := by
  have quoted := Tokenized.quoted (c := '"') rfl nonempty unquoted .nil
  rw [← lower_quoted] at quoted
  exact scan_of_tokenized quoted

theorem search_quoted (nonempty : lower u.toList ≠ []) (unquoted : '"' ∉ lower u.toList)
    (documents : List Document) :
    search documents ("\"" ++ u ++ "\"") =
      .ok (documents.filter fun d => d.contains (lowerString u)) := by
  have found := ((derives_quoted nonempty unquoted).search documents).1 (fits_quotedDerivation _)
  rw [found]
  apply congrArg Except.ok
  apply List.filter_congr
  intro d _
  exact hasWord_of_lower (lowerString_lowerString u)

/-- A word of kept characters, in whatever case it is written, is searched for in quotes without a
fault. The document of a text is found exactly if the word is longer than two characters in lower
case and a run of the text comes to it, stripped and lowered by itself. -/
theorem quotedWord_found_iff {path : Path} {item : Recognition.Item} {d : Document}
    (made : Document.ofRecognition path [item] = some d) (nonempty : u ≠ "")
    (plain : ∀ c ∈ u.toList, isKept c = true ∧ isBlank c = false) :
    search [d] ("\"" ++ u ++ "\"") =
      .ok (if 2 < (lower u.toList).length ∧ ∃ piece ∈ splitBlank item.text.toList,
          lower (piece.filter isKept) = lower u.toList
        then [d] else []) := by
  have full : lower u.toList ≠ [] := by
    apply lower_ne_nil
    rwa [ne_eq, String.toList_eq_nil_iff]
  have unquoted : '"' ∉ lower u.toList := by
    intro inside
    have kept := kept_of_mem_lower (fun c among => (plain c among).1) inside
    have stripped : isKept '"' = false := by decide
    rw [stripped] at kept
    cases kept
  have indexed : d.contains (lowerString u) = true ↔ 2 < (lower u.toList).length ∧
      ∃ piece ∈ splitBlank item.text.toList, lower (piece.filter isKept) = lower u.toList := by
    rw [Document.contains, WordSet.contains_iff, Document.mem_words_ofRecognition made,
      Document.joinedText_singleton, toList_lowerString]
    exact mem_extractWords
  rw [search_quoted full unquoted]
  apply congrArg Except.ok
  split
  · rename_i met
    exact List.filter_cons_of_pos (indexed.mpr met)
  · rename_i unmet
    exact List.filter_cons_of_neg fun contained => unmet (indexed.mp contained)

/-- A word in mixed case is found in a text that has it in capitals and in guillemets. Its last
sigma is a final one on both sides. -/
theorem quotedWord_found_sigma :
    let d := Document.ofWords "a.png" ⟨"a.png"⟩ ["οδος", "salt"]
    Document.ofRecognition ⟨"a.png"⟩ [⟨"«ΟΔΟΣ» Salt", 0.5, []⟩] = some d ∧ "ΟδοΣ" ≠ "" ∧
    (∀ c ∈ "ΟδοΣ".toList, isKept c = true ∧ isBlank c = false) ∧
    search [d] ("\"" ++ "ΟδοΣ" ++ "\"") = .ok [d] := by
  intro d
  have made : Document.ofRecognition ⟨"a.png"⟩ [⟨"«ΟΔΟΣ» Salt", 0.5, []⟩] = some d := by
    decide +kernel
  have solid : ("ΟδοΣ".toList.all fun c => isKept c && !isBlank c) = true := by decide +kernel
  have plain : ∀ c ∈ "ΟδοΣ".toList, isKept c = true ∧ isBlank c = false := by
    intro c among
    have both := List.all_eq_true.mp solid c among
    rwa [Bool.and_eq_true, Bool.not_eq_true'] at both
  refine ⟨made, by decide, plain, ?_⟩
  rw [quotedWord_found_iff made (by decide) plain]
  apply congrArg Except.ok
  exact if_pos (by decide +kernel)

end ImageSearch.Query
