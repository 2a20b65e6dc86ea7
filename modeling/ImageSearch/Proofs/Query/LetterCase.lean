import ImageSearch.Proofs.Results
import ImageSearch.Proofs.Text.LetterCase
import ImageSearch.Proofs.Text.Splitting
import ImageSearch.Query.Match
import Mathlib.Data.List.Forall2

set_option autoImplicit false

namespace ImageSearch

open Text Recognition

/-- Texts that differ only in the case of the letters from A to Z. -/
def DifferInCase (s t : String) : Prop := caseless s.toList = caseless t.toList

instance (s t : String) : Decidable (DifferInCase s t) :=
  inferInstanceAs (Decidable (caseless s.toList = caseless t.toList))

/-- Recognised items whose texts differ only in the case of the letters from A to Z. -/
def ItemsDifferInCase (items others : List Item) : Prop :=
  List.Forall₂ (fun item other => DifferInCase item.text other.text) items others

/-- Documents of recognised items whose texts differ only in the case of the letters from A to Z. -/
def DocumentsDifferInCase (d e : Document) : Prop :=
  ∃ path place items others, ItemsDifferInCase items others ∧
    Document.ofRecognition path items = some d ∧ Document.ofRecognition place others = some e

theorem lowerString_same {s t : String} (same : DifferInCase s t) :
    lowerString s = lowerString t := by
  rw [lowerString, ← lower_caseless, same, lower_caseless, lowerString]

theorem caseless_intercalate (texts : List (List Char)) :
    caseless ([' '].intercalate texts) = [' '].intercalate (texts.map caseless) := by
  apply map_intercalate
  · rfl
  · intro before after
    rw [caseless, List.map_append]
    rfl

variable {items others : List Item} {d e : Document}

theorem joinedText_same (same : ItemsDifferInCase items others) :
    caseless (Document.joinedText items) = caseless (Document.joinedText others) := by
  have texts : (items.map (·.text.toList)).map caseless =
      (others.map (·.text.toList)).map caseless := by
    induction same with
    | nil => rfl
    | cons first _ ih =>
        simp only [List.map_cons, ih]
        rw [first]
  rw [Document.joinedText, Document.joinedText, caseless_intercalate, caseless_intercalate, texts]

theorem words_ofRecognition (same : ItemsDifferInCase items others) (path place : Path) :
    (Document.ofRecognition path items).map Document.words =
      (Document.ofRecognition place others).map Document.words := by
  have texts := joinedText_same same
  have blank : isBlankText (Document.joinedText items) =
      isBlankText (Document.joinedText others) := by
    rw [← isBlankText_caseless, texts, isBlankText_caseless]
  have words : extractWords (Document.joinedText items) =
      extractWords (Document.joinedText others) := by
    rw [← extractWords_caseless, texts, extractWords_caseless]
  simp only [Document.ofRecognition, blank, words]
  split
  · rfl
  · rfl

theorem words_same (same : DocumentsDifferInCase d e) : d.words = e.words := by
  obtain ⟨path, place, items, others, texts, first, second⟩ := same
  have words := words_ofRecognition texts path place
  rw [first, second] at words
  exact Option.some.inj words

namespace Query

theorem Node.holds_same (words : d.words = e.words) (node : Node) :
    node.holds d = node.holds e := by
  induction node with
  | literal text | identifier text =>
      simp only [Node.holds, hasWord, Document.contains, words]
  | not argument ih => rw [Node.holds, Node.holds, ih]
  | binary op left right first second =>
      cases op with
      | and | or => rw [Node.holds, Node.holds, first, second]

theorem parse_root (source : String) :
    (Query.parse source).map Query.root = parseText (lowerString source) := by
  rw [Query.parse]
  cases parseText (lowerString source) with
  | error e => rfl
  | ok root => rfl

theorem search_eq (documents : List Document) (source : String) :
    search documents source =
      (parseText (lowerString source)).map fun root => documents.filter root.holds := by
  rw [search, Query.parse]
  cases parseText (lowerString source) with
  | error e => rfl
  | ok root => rfl

end Query

/-- To filter a list is to take the entries at the places where the property holds. -/
theorem filterMap_places {α : Type} (p : α → Bool) (l : List α) :
    ((List.range l.length).filter fun i => l[i]?.any p).filterMap (l[·]?) = l.filter p := by
  induction l with
  | nil => rfl
  | cons a rest ih =>
      have later : ((List.range rest.length).map Nat.succ).filter (fun i => (a :: rest)[i]?.any p) =
          ((List.range rest.length).filter fun i => rest[i]?.any p).map Nat.succ :=
        List.filter_map
      rw [List.length_cons, List.range_succ_eq_map, List.filter_cons, later, List.filter_cons, ← ih]
      simp only [List.getElem?_cons_zero, Option.any_some]
      split
      · rw [List.filterMap_cons, List.filterMap_map]
        rfl
      · rw [List.filterMap_map]
        rfl

/-- The case of the letters from A to Z plays no part. Items whose texts differ in nothing else make
documents with the same words, or none; queries that differ in nothing else have the same tree or
the same fault at the same position; and searches of documents that come from such items, for such
queries, select the same places or fail alike. -/
theorem search_ignores_letter_case {documents twins : List Document} {query other : String}
    (texts : ItemsDifferInCase items others) (queries : DifferInCase query other)
    (pairs : List.Forall₂ DocumentsDifferInCase documents twins) :
    (∀ path place, (Document.ofRecognition path items).map Document.words =
      (Document.ofRecognition place others).map Document.words) ∧
    (Query.parse query).map Query.root = (Query.parse other).map Query.root ∧
    ((∃ e, search documents query = .error e ∧ search twins other = .error e) ∨
      ∃ places : List Nat, places.Pairwise (· < ·) ∧ (∀ i ∈ places, i < documents.length) ∧
        search documents query = .ok (places.filterMap (documents[·]?)) ∧
        search twins other = .ok (places.filterMap (twins[·]?))) := by
  have lowered := lowerString_same queries
  refine ⟨words_ofRecognition texts, ?_, ?_⟩
  · rw [Query.parse_root, Query.parse_root, lowered]
  · rw [Query.search_eq, Query.search_eq, ← lowered]
    cases Query.parseText (lowerString query) with
    | error e => exact .inl ⟨e, rfl, rfl⟩
    | ok root =>
        have size : documents.length = twins.length := pairs.length_eq
        have alike (i : Nat) (inside : i ∈ List.range documents.length) :
            documents[i]?.any root.holds = twins[i]?.any root.holds := by
          have first := List.mem_range.mp inside
          have second : i < twins.length := size ▸ first
          have words := words_same (pairs.get first second)
          rw [List.getElem?_eq_getElem first, List.getElem?_eq_getElem second]
          exact Query.Node.holds_same words root
        refine .inr ⟨(List.range documents.length).filter fun i => documents[i]?.any root.holds,
          List.pairwise_lt_range.filter _, ?_, ?_, ?_⟩
        · intro i among
          exact List.mem_range.mp (List.mem_filter.mp among).1
        · exact congrArg Except.ok (filterMap_places _ _).symm
        · rw [List.filter_congr alike, size]
          exact congrArg Except.ok (filterMap_places _ _).symm

/-- A sharp s and Greek capitals stand as they are on both sides; the other letters change their
case. -/
theorem search_ignores_letter_case_sharp :
    let items : List Item := [⟨"Straße ΟΔΟΣ", 0.5, []⟩, ⟨"Salt", 0.25, []⟩]
    let others : List Item := [⟨"sTRAßE ΟΔΟΣ", 0.75, []⟩, ⟨"sALT", 0.5, []⟩]
    let d := Document.ofWords "a.png" ⟨"a.png"⟩ ["straße", "οδος", "salt"]
    let e := Document.ofWords "b.png" ⟨"b.png"⟩ ["straße", "οδος", "salt"]
    ItemsDifferInCase items others ∧ DifferInCase "Salt & straße" "sALT & STRAßE" ∧
    Document.ofRecognition ⟨"a.png"⟩ items = some d ∧
    Document.ofRecognition ⟨"b.png"⟩ others = some e ∧
    ∃ places : List Nat, places.Pairwise (· < ·) ∧ (∀ i ∈ places, i < 1) ∧
      search [d] "Salt & straße" = .ok (places.filterMap ([d][·]?)) ∧
      search [e] "sALT & STRAßE" = .ok (places.filterMap ([e][·]?)) := by
  intro items others d e
  have texts : ItemsDifferInCase items others :=
    .cons (by decide +kernel) (.cons (by decide +kernel) .nil)
  have queries : DifferInCase "Salt & straße" "sALT & STRAßE" := by decide +kernel
  have first : Document.ofRecognition ⟨"a.png"⟩ items = some d := by decide +kernel
  have second : Document.ofRecognition ⟨"b.png"⟩ others = some e := by decide +kernel
  have pair : DocumentsDifferInCase d e := ⟨_, _, items, others, texts, first, second⟩
  refine ⟨texts, queries, first, second, ?_⟩
  obtain ⟨_, _, failed | selected⟩ :=
    search_ignores_letter_case texts queries (.cons pair .nil)
  · obtain ⟨e, failed, _⟩ := failed
    have found : (search [d] "Salt & straße").isOk = true := by decide +kernel
    rw [failed] at found
    cases found
  · exact selected

end ImageSearch
