import ImageSearch.Proofs.Document.Words

set_option autoImplicit false

namespace ImageSearch.Document

open ImageSearch.Text Recognition

def itemWords (item : Item) : List String := (extractWords item.text.toList).map String.ofList

theorem mem_itemWords {item : Item} {w : String} :
    w ∈ itemWords item ↔ w.toList ∈ extractWords item.text.toList := by
  rw [itemWords, List.mem_map]
  constructor
  · rintro ⟨v, mem, rfl⟩
    rwa [String.toList_ofList]
  · intro mem
    exact ⟨w.toList, mem, String.ofList_toList⟩

theorem isBlankText_joinedText (items : List Item) :
    isBlankText (joinedText items) = true ↔
      ∀ item ∈ items, isBlankText item.text.toList = true := by
  rw [joinedText, isBlankText_intercalate]
  exact List.forall_mem_map

/-- The space between two items is kept and divides the text, so that each item is stripped and
lowered as it would be without the others. -/
theorem lower_joinedText (items : List Item) :
    lower ((joinedText items).filter isKept) =
      [' '].intercalate (items.map fun item => lower (item.text.toList.filter isKept)) := by
  have space : isKept ' ' = true := by decide
  have divides : Divides ' ' := divides_of_blank (by decide)
  have through := map_intercalate (f := fun text => lower (text.filter isKept)) rfl
    (fun before after => by
      rw [List.filter_append, List.filter_cons_of_pos space, divides.lower_append])
    (items.map (·.text.toList))
  rwa [List.map_map] at through

/-- No word reaches from one item to the next, and none is lost. -/
theorem mem_extractWords_joinedText {items : List Item} {w : List Char} :
    w ∈ extractWords (joinedText items) ↔ ∃ item ∈ items, w ∈ extractWords item.text.toList := by
  rw [mem_extractWords, joinedText, splitBlank_intercalate, List.flatMap_map]
  simp only [mem_extractWords, List.mem_flatMap]
  constructor
  · rintro ⟨long, piece, ⟨item, among, run⟩, word⟩
    exact ⟨item, among, long, piece, run, word⟩
  · rintro ⟨item, among, long, piece, run, word⟩
    exact ⟨long, piece, ⟨item, among, run⟩, word⟩

theorem mem_itemsWords {items : List Item} {w : String} :
    w ∈ items.flatMap itemWords ↔ w.toList ∈ extractWords (joinedText items) := by
  simp only [List.mem_flatMap, mem_itemWords, mem_extractWords_joinedText]

/-- What a document is made of: the name and the place of the image and the words of the items. -/
theorem ofRecognition_eq (path : Path) (items : List Item) : ofRecognition path items =
    if isBlankText (joinedText items) then none
    else some ⟨path.fileName?.getD path.text, path, WordSet.ofList (items.flatMap itemWords)⟩ := by
  cases blank : isBlankText (joinedText items) with
  | true =>
      rw [if_pos rfl, ofRecognition]
      exact if_pos blank
  | false =>
      have made : ofRecognition path items = some (ofWords (path.fileName?.getD path.text) path
          ((extractWords (joinedText items)).map String.ofList)) := by
        rw [ofRecognition]
        exact if_neg (Bool.eq_false_iff.mp blank)
      have words : (ofWords (path.fileName?.getD path.text) path
          ((extractWords (joinedText items)).map String.ofList)).words =
          WordSet.ofList (items.flatMap itemWords) := by
        apply WordSet.ext_of_mem
        intro w
        rw [mem_words_ofRecognition made, WordSet.mem_ofList, mem_itemsWords]
      rw [if_neg Bool.false_ne_true, made, ← words]
      rfl

theorem ofRecognition_perm {items others : List Item} (perm : others.Perm items) (path : Path) :
    ofRecognition path others = ofRecognition path items := by
  have blank : isBlankText (joinedText others) = isBlankText (joinedText items) := by
    rw [Bool.eq_iff_iff, isBlankText_joinedText, isBlankText_joinedText]
    simp only [perm.mem_iff]
  have words : WordSet.ofList (others.flatMap itemWords) =
      WordSet.ofList (items.flatMap itemWords) := by
    apply WordSet.ext_of_mem
    intro w
    rw [WordSet.mem_ofList, WordSet.mem_ofList]
    exact (perm.flatMap_right itemWords).mem_iff
  rw [ofRecognition_eq, ofRecognition_eq, blank, words]

/-- An image has a document unless all of its items are blank. The words of the document are those
of the items, each taken by itself: none is put together from two items and none is lost. The order
of the items does not matter, and the other items play no part in how one of them is stripped and
lowered. -/
theorem words_item_by_item (path : Path) (items : List Item) :
    (ofRecognition path items = none ↔ ∀ item ∈ items, isBlankText item.text.toList = true) ∧
    (∀ d, ofRecognition path items = some d →
      ∀ w, d.contains w = true ↔ ∃ item ∈ items, w.toList ∈ extractWords item.text.toList) ∧
    (∀ others, others.Perm items → ofRecognition path others = ofRecognition path items) ∧
    lower ((joinedText items).filter isKept) =
      [' '].intercalate (items.map fun item => lower (item.text.toList.filter isKept)) := by
  refine ⟨?_, ?_, ?_, lower_joinedText items⟩
  · rw [← isBlankText_joinedText, ofRecognition_eq]
    simp only [ite_eq_left_iff, reduceCtorEq, imp_false, Classical.not_not]
  · intro d made w
    rw [contains, WordSet.contains_iff, mem_words_ofRecognition made, mem_extractWords_joinedText]
  · intro others perm
    exact ofRecognition_perm perm path

/-- The sigmas of the first and of the last item are final by their own letters, and a hyphen at the
end of an item does not reach the next one, in whatever order the items come. An item of a wide
space is blank. -/
theorem words_item_by_item_sigma :
    let path : Path := ⟨"/x/a.png"⟩
    let street : Item := ⟨"ΟΔΟΣ", 0.5, []⟩
    let again : Item := ⟨"re-", 0.5, []⟩
    let yours : Item := ⟨"ΣΑΣ: Bake", 0.5, []⟩
    let wide : Item := ⟨"\u3000", 0.5, []⟩
    let d := ofWords "a.png" path ["οδος", "re-", "σας", "bake"]
    ofRecognition path [street, again, yours] = some d ∧
    ofRecognition path [yours, street, again] = some d ∧
    "σας".toList ∈ extractWords yours.text.toList ∧ d.contains "σας" = true ∧
    isBlankText wide.text.toList = true ∧ ofRecognition path [wide] = none := by
  intro path street again yours wide d
  have made : ofRecognition path [street, again, yours] = some d := by decide +kernel
  have extracted : "σας".toList ∈ extractWords yours.text.toList := by decide +kernel
  have blank : isBlankText wide.text.toList = true := by decide
  obtain ⟨_, words, order, _⟩ := words_item_by_item path [street, again, yours]
  have moved : [yours, street, again].Perm [street, again, yours] :=
    @List.perm_append_comm _ [yours] [street, again]
  refine ⟨made, ?_, extracted, ?_, blank, ?_⟩
  · rw [order _ moved, made]
  · rw [words d made]
    exact ⟨yours, by simp, extracted⟩
  · rw [(words_item_by_item path [wide]).1]
    exact List.forall_mem_singleton.mpr blank

end ImageSearch.Document
