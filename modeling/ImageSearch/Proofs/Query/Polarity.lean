import ImageSearch.Proofs.Query.IndexedWords
import ImageSearch.Proofs.Query.RoundTrip
import Mathlib.Algebra.Ring.Parity

set_option autoImplicit false

namespace ImageSearch.Query

open Text

variable {d e : Document} {node : Node} {source : String} {query : Query}

namespace Node

/-- The words of a tree from left to right, each with the number of negations around it; `around` of
them are around the whole tree. -/
def wordsUnder (around : Nat) : Node → List (String × Nat)
  | literal text | identifier text => [(text, around)]
  | not argument => argument.wordsUnder (around + 1)
  | binary _ left right => left.wordsUnder around ++ right.wordsUnder around

theorem map_fst_wordsUnder (node : Node) (around : Nat) :
    (node.wordsUnder around).map Prod.fst = node.words := by
  induction node generalizing around with
  | literal | identifier => rfl
  | not argument ih => exact ih (around + 1)
  | binary op left right first second =>
      rw [wordsUnder, words, List.map_append, first around, second around]

theorem mem_words_of_wordsUnder {around n : Nat} {w : String}
    (mem : (w, n) ∈ node.wordsUnder around) : w ∈ node.words := by
  rw [← map_fst_wordsUnder node around]
  exact List.mem_map_of_mem mem

/-- A word under so many negations does no harm from one document to another: an even number of
negations keeps what it says, an odd number reverses it. -/
def Harmless (d e : Document) (w : String) (n : Nat) : Prop :=
  (Even n → d.contains w = true → e.contains w = true) ∧
    (Odd n → e.contains w = true → d.contains w = true)

/-- The step from the words to the tree, for both signs at once: a negation changes the sign. -/
theorem holds_of_harmless {around : Nat} (small : ∀ w ∈ node.words, lowerString w = w)
    (harmless : ∀ w n, (w, n) ∈ node.wordsUnder around → Harmless d e w n) :
    (Even around → node.holds d = true → node.holds e = true) ∧
      (Odd around → node.holds e = true → node.holds d = true) := by
  induction node generalizing around with
  | literal text | identifier text =>
      rw [holds, holds, hasWord_of_lower (small text List.mem_cons_self),
        hasWord_of_lower (small text List.mem_cons_self)]
      exact harmless text around List.mem_cons_self
  | not argument ih =>
      obtain ⟨keeps, reverses⟩ := ih small harmless
      rw [holds, holds, Bool.not_eq_true', Bool.not_eq_true', Bool.eq_false_iff, Bool.eq_false_iff]
      constructor
      · intro even before after
        exact before (reverses even.add_one after)
      · intro odd before after
        exact before (keeps odd.add_one after)
  | binary op left right first second =>
      obtain ⟨keeps, reverses⟩ := first (fun w among => small w (List.mem_append_left _ among))
        fun w n among => harmless w n (List.mem_append_left _ among)
      obtain ⟨keeps', reverses'⟩ := second (fun w among => small w (List.mem_append_right _ among))
        fun w n among => harmless w n (List.mem_append_right _ among)
      cases op with
      | and =>
          simp only [holds, Bool.and_eq_true]
          exact ⟨fun even => And.imp (keeps even) (keeps' even),
            fun odd => And.imp (reverses odd) (reverses' odd)⟩
      | or =>
          simp only [holds, Bool.or_eq_true]
          exact ⟨fun even => Or.imp (keeps even) (keeps' even),
            fun odd => Or.imp (reverses odd) (reverses' odd)⟩

/-- A word is in both documents or in none; or the second one gains it, and it stands under even
numbers of negations only; or the second one loses it, and it stands under odd numbers only. -/
def Favours (node : Node) (d e : Document) (w : String) : Prop :=
  d.contains w = e.contains w ∨
    (d.contains w = false ∧ e.contains w = true ∧ ∀ n, (w, n) ∈ node.wordsUnder 0 → Even n) ∨
    (d.contains w = true ∧ e.contains w = false ∧ ∀ n, (w, n) ∈ node.wordsUnder 0 → Odd n)

theorem Favours.harmless {w : String} {n : Nat} (favours : node.Favours d e w)
    (mem : (w, n) ∈ node.wordsUnder 0) : Harmless d e w n := by
  rcases favours with same | ⟨missing, found, even⟩ | ⟨found, missing, odd⟩
  · exact ⟨fun _ before => same ▸ before, fun _ after => same ▸ after⟩
  · exact ⟨fun _ _ => found, fun odd _ => absurd (even n mem) (Nat.not_even_iff_odd.mpr odd)⟩
  · exact ⟨fun even _ => absurd even (Nat.not_even_iff_odd.mpr (odd n mem)), fun _ _ => found⟩

theorem holds_of_favours (small : ∀ w ∈ node.words, lowerString w = w)
    (favours : ∀ w ∈ node.words, node.Favours d e w) (holds : node.holds d = true) :
    node.holds e = true := by
  refine (holds_of_harmless small fun w n mem => ?_).1 Even.zero holds
  exact (favours w (mem_words_of_wordsUnder mem)).harmless mem

end Node

/-- The words of a query are in lower case. -/
theorem lowered_of_parse (parsed : Query.parse source = .ok query) :
    ∀ w ∈ query.root.words, lowerString w = w := by
  obtain ⟨root, read, rest⟩ := bind_eq_ok.mp parsed
  cases rest
  obtain ⟨_, _, letters⟩ := parseText_image read
  intro w mem
  have settled (c : Char) (inside : c ∈ w.toList) : Settled c := by
    have lowered := letters w mem inside
    rw [toList_lowerString] at lowered
    exact settled_of_mem_lower lowered
  rw [lowerString, lower_eq_self settled, String.ofList_toList]

/-- A query answers alike for two documents that have the same of its words. A document that it
selects stays selected when it gains words that stand under even numbers of negations only, and
loses words that stand under odd numbers only. -/
theorem holds_follows_words (parsed : Query.parse source = .ok query) (d e : Document) :
    ((∀ w ∈ query.root.words, d.contains w = e.contains w) →
      query.root.holds d = query.root.holds e) ∧
    ((∀ w ∈ query.root.words, query.root.Favours d e w) →
      query.root.holds d = true → query.root.holds e = true) := by
  have small := lowered_of_parse parsed
  refine ⟨fun same => ?_, fun favours => Node.holds_of_favours small favours⟩
  rw [Bool.eq_iff_iff]
  constructor
  · exact Node.holds_of_favours small fun w among => .inl (same w among)
  · exact Node.holds_of_favours small fun w among => .inl (same w among).symm

/-- The second document loses what stands under one negation and gains what stands under two. The
third one has another word more, which is not asked for. -/
theorem holds_follows_words_bake :
    let source := "(!BAKE|Salt)&(Salt|!!Egg)"
    let d := Document.ofWords "a.png" ⟨"a.png"⟩ ["bake", "salt"]
    let e := Document.ofWords "b.png" ⟨"b.png"⟩ ["egg", "salt"]
    let more := Document.ofWords "c.png" ⟨"c.png"⟩ ["bake", "flour", "salt"]
    ∃ query, Query.parse source = .ok query ∧
      query.root.wordsUnder 0 = [("bake", 1), ("salt", 0), ("salt", 0), ("egg", 2)] ∧
      (∀ w ∈ query.root.words, d.contains w = more.contains w) ∧
      query.root.holds d = query.root.holds more ∧
      (∀ w ∈ query.root.words, query.root.Favours d e w) ∧
      query.root.holds d = true ∧ query.root.holds e = true := by
  intro source d e more
  let salt : Node := .identifier "salt"
  let root : Node := .binary .and (.binary .or (.not (.identifier "bake")) salt)
    (.binary .or salt (.not (.not (.identifier "egg"))))
  have read : (Query.parse source).toOption = some ⟨source, root⟩ := by decide +kernel
  have parsed : Query.parse source = .ok ⟨source, root⟩ := by
    cases run : Query.parse source with
    | error reason => rw [run] at read; cases read
    | ok query => rw [run] at read; exact congrArg _ (Option.some.inj read)
  have signs : root.wordsUnder 0 = [("bake", 1), ("salt", 0), ("salt", 0), ("egg", 2)] := rfl
  have same : ∀ w ∈ root.words, d.contains w = more.contains w := by decide +kernel
  have lost : root.Favours d e "bake" := by
    refine .inr (.inr ⟨by decide +kernel, by decide +kernel, fun n mem => ?_⟩)
    have once : n = 1 := by simpa [signs] using mem
    exact once ▸ odd_one
  have kept : root.Favours d e "salt" := .inl (by decide +kernel)
  have gained : root.Favours d e "egg" := by
    refine .inr (.inl ⟨by decide +kernel, by decide +kernel, fun n mem => ?_⟩)
    have twice : n = 2 := by simpa [signs] using mem
    exact twice ▸ even_two
  have favours : ∀ w ∈ root.words, root.Favours d e w := by
    show ∀ w ∈ ["bake", "salt", "salt", "egg"], root.Favours d e w
    simp only [List.forall_mem_cons]
    exact ⟨lost, kept, kept, gained, fun _ missing => absurd missing List.not_mem_nil⟩
  have holds : root.holds d = true := by decide +kernel
  exact ⟨⟨source, root⟩, parsed, signs, same, (holds_follows_words parsed d more).1 same, favours,
    holds, (holds_follows_words parsed d e).2 favours holds⟩

end ImageSearch.Query
