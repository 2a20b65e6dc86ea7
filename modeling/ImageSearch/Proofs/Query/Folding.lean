import ImageSearch.Proofs.Document.Persistence
import ImageSearch.Proofs.Query.IndexedWords
import ImageSearch.Proofs.Text.Titlecase

set_option autoImplicit false

namespace ImageSearch.Query

open Text

variable {d : Document} {w : String}

/-- Without capitals, but with a letter in title case. -/
def slips (w : String) : Bool := !w.toList.any isUppercase && w.toList.any isTitlecase

/-- The slipping words are those that the test for capitals takes for lower case although they are
not. -/
theorem slips_iff : slips w = true ↔ w.toList.any isUppercase = false ∧ lowerString w ≠ w := by
  rw [slips, Bool.and_eq_true, Bool.not_eq_true']
  refine and_congr_right fun small => ?_
  have settled : lowerString w = w ↔ lower w.toList = w.toList := by
    rw [lowerString, ← String.toList_inj, String.toList_ofList]
  rw [ne_eq, settled, lower_eq_self_iff_titlecase small, Bool.not_eq_false]

theorem contains_iff : d.contains w = true ↔ w ∈ d.words.toList := WordSet.contains_iff

theorem contains_eq_false (lowered : d.Lowered) (capital : lowerString w ≠ w) :
    d.contains w = false := by
  apply Bool.eq_false_iff.mpr
  intro found
  exact capital (lowered w (contains_iff.mp found))

theorem not_slips (small : lowerString w = w) : slips w = false := by
  apply Bool.eq_false_iff.mpr
  intro slip
  exact (slips_iff.mp slip).2 small

/-- What the shortcut finds: the lower-case form, except for a slipping word. -/
theorem hasWord_eq (lowered : d.Lowered) (w : String) :
    hasWord d w = (d.contains (lowerString w) && !slips w) := by
  by_cases small : lowerString w = w
  · rw [hasWord_of_lower small, small, not_slips small, Bool.not_false, Bool.and_true]
  · cases capital : w.toList.any isUppercase with
    | true =>
        rw [hasWord, if_pos capital, slips, capital, Bool.not_true, Bool.false_and, Bool.not_false,
          Bool.and_true]
    | false =>
        have slip := slips_iff.mpr ⟨capital, small⟩
        rw [hasWord, if_neg (Bool.eq_false_iff.mp capital), contains_eq_false lowered small, slip,
          Bool.not_true, Bool.and_false]

/-- A word in lower case is looked up as it is. -/
theorem hasWord_lowerString (d : Document) (w : String) :
    hasWord d (lowerString w) = d.contains (lowerString w) :=
  hasWord_of_lower (lowerString_lowerString w)

theorem hasWord_eq_iff (lowered : d.Lowered) (w : String) :
    hasWord d w = d.contains (lowerString w) ↔
      (slips w = true → d.contains (lowerString w) = false) := by
  rw [hasWord_eq lowered]
  cases slips w with
  | true => simp
  | false => simp

namespace Node

def folded : Node → Node
  | literal text => literal (lowerString text)
  | identifier text => identifier (lowerString text)
  | not argument => not argument.folded
  | binary op left right => binary op left.folded right.folded

theorem holds_folded (lowered : d.Lowered) {node : Node}
    (clean : ∀ w ∈ node.words, slips w = true → d.contains (lowerString w) = false) :
    node.holds d = node.folded.holds d := by
  induction node with
  | literal text | identifier text =>
      have mine := (hasWord_eq_iff lowered text).mpr (clean text List.mem_cons_self)
      rw [folded, holds, holds, mine, hasWord_lowerString]
  | not argument ih => rw [folded, holds, holds, ih clean]
  | binary op left right first second =>
      have before := first fun w among => clean w (List.mem_append_left _ among)
      have after := second fun w among => clean w (List.mem_append_right _ among)
      cases op with
      | and | or => rw [folded, holds, holds, before, after]

end Node

/-- A document of a slipping word: the word is not found in it, its lower-case form is. -/
theorem ofWords_slips (slip : slips w = true) :
    hasWord (Document.ofWords "" ⟨""⟩ [w]) w = false ∧
      hasWord (Document.ofWords "" ⟨""⟩ [w]) (lowerString w) = true := by
  have lowered := (Document.Made.ofWords "" ⟨""⟩ [w]).lowered
  have found : (Document.ofWords "" ⟨""⟩ [w]).contains (lowerString w) = true :=
    contains_iff.mpr (WordSet.mem_ofList.mpr List.mem_cons_self)
  constructor
  · rw [hasWord_eq lowered, slip, Bool.not_true, Bool.and_false]
  · rw [hasWord_lowerString, found]

/-- The shortcut agrees with folding except on slipping words, which it never finds: a word is
looked up as its lower-case form unless it slips and this form is in the document; a tree holds as
its folded tree does if it has no such word; and every slipping word is told from its lower-case
form by some document. -/
theorem shortcut_agrees (made : d.Made) :
    (∀ w, hasWord d w = (d.contains (lowerString w) && !slips w)) ∧
    (∀ w, hasWord d w = d.contains (lowerString w) ↔
      (slips w = true → d.contains (lowerString w) = false)) ∧
    (∀ node : Node, (∀ w ∈ node.words, slips w = true → d.contains (lowerString w) = false) →
      node.holds d = node.folded.holds d) ∧
    ∀ w, slips w = true ↔ ∃ e : Document, e.Made ∧
      (Node.identifier w).holds e ≠ (Node.identifier w).folded.holds e := by
  have lowered := made.lowered
  refine ⟨hasWord_eq lowered, hasWord_eq_iff lowered, ?_, ?_⟩
  · intro node clean
    exact Node.holds_folded lowered clean
  · intro w
    constructor
    · intro slip
      obtain ⟨missed, found⟩ := ofWords_slips slip
      refine ⟨_, .ofWords "" ⟨""⟩ [w], ?_⟩
      rw [Node.folded, Node.holds, Node.holds, missed, found]
      exact Bool.false_ne_true
    · rintro ⟨e, made', differs⟩
      by_contra clean
      apply differs
      apply Node.holds_folded made'.lowered
      intro v among slip
      rw [List.mem_singleton.mp among] at slip
      exact absurd slip clean

/-- A word of the document that begins with a digraph, sought with this digraph in title case. -/
theorem digraph_missed :
    let d := Document.ofWords "a.png" ⟨"/a.png"⟩ ["ǆungla"]
    d.Made ∧ lowerString "ǅungla" = "ǆungla" ∧ hasWord d "ǆungla" = true ∧
      hasWord d "ǅungla" = false ∧
      (Node.identifier "ǅungla").holds d ≠ (Node.identifier "ǅungla").folded.holds d := by
  intro d
  have made : d.Made := .ofWords _ _ _
  have slip : slips "ǅungla" = true := by decide +kernel
  have small : lowerString "ǅungla" = "ǆungla" := by decide +kernel
  have found : hasWord d "ǆungla" = true := by decide +kernel
  have missed : hasWord d "ǅungla" = false := by
    rw [(shortcut_agrees made).1, slip, Bool.not_true, Bool.and_false]
  refine ⟨made, small, found, missed, ?_⟩
  rw [Node.folded, Node.holds, Node.holds, small, missed, found]
  exact Bool.false_ne_true

end ImageSearch.Query
