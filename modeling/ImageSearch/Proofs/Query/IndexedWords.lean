import ImageSearch.Proofs.Document.Words
import ImageSearch.Proofs.Query.Reading

set_option autoImplicit false

namespace ImageSearch.Query

open ImageSearch.Text

/-- What is kept of a text has no meaning of its own in a query. -/
theorem plain_of_kept {c : Char} (kept : isKept c = true) :
    operator? c = none ∧ isQuote c = false := by
  have apart : (('"' :: '\'' :: operators).all fun c => !isKept c) = true := by
    decide
  have outside : c ∉ '"' :: '\'' :: operators := by
    intro among
    have stripped := List.all_eq_true.mp apart c among
    rw [kept] at stripped
    cases stripped
  constructor
  · apply operator?_eq_none
    intro among
    exact outside (List.mem_cons_of_mem _ (List.mem_cons_of_mem _ among))
  · apply Bool.eq_false_iff.mpr
    intro quote
    rcases (Bool.or_eq_true _ _).mp quote with same | same
    · exact outside (eq_of_beq same ▸ List.mem_cons_self)
    · exact outside (eq_of_beq same ▸ List.mem_cons_of_mem _ List.mem_cons_self)

/-- A text is bare, or it goes on after a bare part with a character that is not. -/
theorem bare_or_split (cs : List Char) : (∀ c ∈ cs, isBareWordChar c = true) ∨
    ∃ before c after, cs = before ++ c :: after ∧ (∀ b ∈ before, isBareWordChar b = true) ∧
      isBareWordChar c = false := by
  rcases none_or_cut (fun c => !isBareWordChar c) cs with bare | ⟨before, c, after, parts, bare, other⟩
  · exact .inl fun c among => (Bool.not_eq_false' _).mp (bare c among)
  · refine .inr ⟨before, c, after, parts, ?_, ?_⟩
    · exact fun b among => (Bool.not_eq_false' _).mp (bare b among)
    · exact (Bool.not_eq_true' _).mp other

theorem scanFrom_unexpected {position : Nat} {before after : List Char} {c : Char}
    (bare : ∀ b ∈ before, isBareWordChar b = true) (solid : isBlank c = false)
    (operator : operator? c = none) (quote : isQuote c = false)
    (other : isBareWordChar c = false) :
    scanFrom position (before ++ c :: after) =
      .error ⟨.unexpectedChar c, position + textSize before⟩ := by
  have stops (place : Nat) : scanFrom place (c :: after) = .error ⟨.unexpectedChar c, place⟩ := by
    rw [scanFrom, if_neg (Bool.eq_false_iff.mp solid)]
    simp only [operator, quote, other, Bool.false_eq_true, if_false]
  cases before with
  | nil => exact stops position
  | cons b before =>
      rw [scanFrom_word (List.cons_ne_nil b before) bare (endsWord_cons other), stops]
      rfl

theorem hasWord_of_lower {d : Document} {w : String} (small : lowerString w = w) :
    hasWord d w = d.contains w := by
  rw [hasWord, small, ite_self]

def wordDerivation (w : String) : Derivation .or := .or (.and (.primary (.word w)))

theorem fits_wordDerivation (w : String) : (wordDerivation w).Fits 0 := by
  have low : (wordDerivation w).tree.height = 1 := by
    show Node.height (if _ then _ else _) = 1
    split
    · rfl
    · rfl
  apply Derivation.fits_zero.mpr
  rw [low]
  exact ⟨Nat.zero_le 256, by decide⟩

theorem holds_wordDerivation (d : Document) (w : String) :
    (wordDerivation w).tree.holds d = hasWord d w := by
  show Node.holds d (if _ then _ else _) = _
  split
  · rfl
  · rfl

variable {u : String}

theorem scan_bareWord (nonempty : lower u.toList ≠ [])
    (bare : ∀ c ∈ lower u.toList, isBareWordChar c = true) :
    scan (lower u.toList) = .ok [⟨0, .word (lowerString u)⟩] := by
  have ended : EndsWord [] := fun _ missing => by cases missing
  have scans := Scans.word nonempty bare ended (.nil (0 + textSize (lower u.toList)))
  rw [List.append_nil] at scans
  exact scanFrom_of_scans scans

theorem search_bareWord (nonempty : lower u.toList ≠ [])
    (bare : ∀ c ∈ lower u.toList, isBareWordChar c = true) (documents : List Document) :
    search documents u = .ok (documents.filter fun d => d.contains (lowerString u)) := by
  have derives : Derives u (wordDerivation (lowerString u)) :=
    ⟨_, scan_bareWord nonempty bare, rfl⟩
  have selected : documents.filter (wordDerivation (lowerString u)).tree.holds =
      documents.filter fun d => d.contains (lowerString u) := by
    apply List.filter_congr
    intro d _
    rw [holds_wordDerivation, hasWord_of_lower (lowerString_lowerString u)]
  rw [(derives.search documents).1 (fits_wordDerivation _), selected]

theorem search_of_scan_error {e : ParseError} (refused : scan (lower u.toList) = .error e)
    (documents : List Document) : search documents u = .error e := by
  have read : parseText (lowerString u) = .error e := by
    rw [parseText, toList_lowerString, refused]
    rfl
  rw [search, Query.parse, read]
  rfl

/-- A word of recognised text finds its document, in whatever case it is written, exactly if all its
characters may stand in a bare word. Otherwise the query is refused at the first of the others,
which is a mark, a connector or a join control. -/
theorem indexed_word_found_iff {path : Path} {items : List Recognition.Item} {d : Document}
    (made : Document.ofRecognition path items = some d) (indexed : lowerString u ∈ d.words.toList) :
    (∀ w ∈ d.words.toList, lowerString w = w) ∧
    (search [d] u = .ok [d] ↔ ∀ c ∈ lower u.toList, isBareWordChar c = true) ∧
    (search [d] u = .ok [d] → scan (lower u.toList) = .ok [⟨0, .word (lowerString u)⟩]) ∧
    ∀ before c after, lower u.toList = before ++ c :: after →
      (∀ b ∈ before, isBareWordChar b = true) → isBareWordChar c = false →
      search [d] u = .error ⟨.unexpectedChar c, textSize before⟩ ∧
        (isMark c = true ∨ isConnector c = true ∨ isJoinControl c = true) := by
  have extracted : lower u.toList ∈ extractWords (Document.joinedText items) := by
    rw [← toList_lowerString]
    exact (Document.mem_words_ofRecognition made).mp indexed
  have nonempty := ne_nil_of_mem_extractWords extracted
  have character (c : Char) (inside : c ∈ lower u.toList) :=
    char_of_mem_extractWords extracted inside
  have refused (before : List Char) (c : Char) (after : List Char)
      (parts : lower u.toList = before ++ c :: after)
      (bare : ∀ b ∈ before, isBareWordChar b = true) (other : isBareWordChar c = false) :
      search [d] u = .error ⟨.unexpectedChar c, textSize before⟩ ∧
        (isMark c = true ∨ isConnector c = true ∨ isJoinControl c = true) := by
    obtain ⟨kept, solid, _⟩ := character c (parts ▸ List.mem_append_right _ List.mem_cons_self)
    obtain ⟨operator, quote⟩ := plain_of_kept kept
    refine ⟨search_of_scan_error ?_ [d], joins_of_not_bare kept solid other⟩
    rw [scan, parts, scanFrom_unexpected bare solid operator quote other, Nat.zero_add]
  have found (bare : ∀ c ∈ lower u.toList, isBareWordChar c = true) : search [d] u = .ok [d] := by
    have contained : d.contains (lowerString u) = true := WordSet.contains_iff.mpr indexed
    rw [search_bareWord nonempty bare]
    exact congrArg Except.ok (List.filter_cons_of_pos contained)
  have found_iff : search [d] u = .ok [d] ↔ ∀ c ∈ lower u.toList, isBareWordChar c = true := by
    refine ⟨fun accepted => ?_, found⟩
    rcases bare_or_split (lower u.toList) with bare | ⟨before, c, after, parts, bare, other⟩
    · exact bare
    · cases accepted.symm.trans (refused before c after parts bare other).1
  refine ⟨fun w mem => ?_, found_iff, fun accepted => ?_, refused⟩
  · have mine := (Document.mem_words_ofRecognition made).mp mem
    rw [lowerString, lower_eq_self fun c inside => (char_of_mem_extractWords mine inside).2.2,
      String.ofList_toList]
  · exact scan_bareWord nonempty (found_iff.mp accepted)

/-- The small form of the dotted capital holds a combining mark, so that the word cannot be searched
for, neither as it was recognised nor as it is indexed. -/
theorem indexed_word_refused :
    let d := Document.ofWords "a.png" ⟨"a.png"⟩ ["i\u0307stanbul"]
    Document.ofRecognition ⟨"a.png"⟩ [⟨"İstanbul", 0.5, []⟩] = some d ∧
    "i\u0307stanbul" ∈ d.words.toList ∧
    search [d] "i\u0307stanbul" = .error ⟨.unexpectedChar '\u0307', 1⟩ ∧
    search [d] "İstanbul" = .error ⟨.unexpectedChar '\u0307', 1⟩ := by
  intro d
  have made : Document.ofRecognition ⟨"a.png"⟩ [⟨"İstanbul", 0.5, []⟩] = some d := by
    decide +kernel
  have indexed : "i\u0307stanbul" ∈ d.words.toList := by decide +kernel
  have small : lowerString "i\u0307stanbul" = "i\u0307stanbul" := by decide +kernel
  have dotted : lowerString "İstanbul" = "i\u0307stanbul" := by decide +kernel
  have bare : ∀ b ∈ ['i'], isBareWordChar b = true :=
    List.forall_mem_singleton.mpr (by decide +kernel)
  have mark : isBareWordChar '\u0307' = false := by decide
  have written := indexed_word_found_iff made (small.symm ▸ indexed)
  have recognised := indexed_word_found_iff made (dotted.symm ▸ indexed)
  refine ⟨made, indexed, (written.2.2.2 ['i'] _ "stanbul".toList ?_ bare mark).1,
    (recognised.2.2.2 ['i'] _ "stanbul".toList ?_ bare mark).1⟩
  · decide +kernel
  · decide +kernel

end ImageSearch.Query
