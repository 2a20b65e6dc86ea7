import ImageSearch.Proofs.Query.Acceptance
import ImageSearch.Proofs.Query.Scanning
import ImageSearch.Proofs.Text.Lowering

set_option autoImplicit false

namespace ImageSearch.Query

open ImageSearch.Text

namespace Node

/-- Every leaf has a text that is read as this leaf. -/
def Printable : Node → Prop
  | literal text => text.toList ≠ [] ∧ ¬ ('"' ∈ text.toList ∧ '\'' ∈ text.toList)
  | identifier text => text.toList ≠ [] ∧ (∀ c ∈ text.toList, isBareWordChar c = true) ∧
      ¬ text.toList.all Char.isDigit = true
  | not argument => argument.Printable
  | binary _ left right => left.Printable ∧ right.Printable

/-- How the text of a tree is derived. -/
def printed : Node → Derivation .unary
  | literal text => .primary (.quoted text)
  | identifier text => .primary (.word text)
  | not argument => .not argument.printed
  | binary .and left right => .primary (.group (.or (.andMore (.and left.printed) right.printed)))
  | binary .or left right =>
      .primary (.group (.orMore (.or (.and left.printed)) (.and right.printed)))

theorem tree_printed {t : Node} (printable : t.Printable) : t.printed.tree = t := by
  induction t with
  | literal text => rfl
  | identifier text => exact if_neg printable.2.2
  | not argument ih => exact congrArg Node.not (ih printable)
  | binary op left right ihl ihr =>
      have first := ihl printable.1
      have second := ihr printable.2
      cases op with
      | and | or => simp only [printed, Derivation.tree, first, second]

/-- The parentheses around a leaf and its negations are fewer than the tree is high. -/
theorem nesting_printed (t : Node) : t.printed.nesting < t.height := by
  induction t with
  | literal | identifier => exact Nat.zero_lt_one
  | not argument ih => exact Nat.succ_lt_succ ih
  | binary op left right ihl ihr =>
      cases op with
      | and | or =>
          simp only [printed, Derivation.nesting, height]
          omega

theorem tokenized_literal {text : String} (printable : (literal text).Printable)
    {rest : List Char} {ts : List Token} (later : Tokenized rest ts) :
    Tokenized (renderQuoted text.toList ++ rest) (.quoted text :: ts) := by
  obtain ⟨nonempty, apart⟩ := printable
  rw [renderQuoted]
  split
  · rename_i double
    have single : '\'' ∉ text.toList := fun also => apart ⟨double, also⟩
    have tokens := Tokenized.quoted (by decide) nonempty single later
    simpa using tokens
  · rename_i double
    have tokens := Tokenized.quoted (by decide) nonempty double later
    simpa using tokens

theorem endsWord_cons {c : Char} {rest : List Char} (ended : isBareWordChar c = false) :
    EndsWord (c :: rest) := by
  rintro d ⟨⟩
  exact ended

/-- The tokens of the text of a tree in front of another text. -/
theorem tokenized_render {t : Node} (printable : t.Printable) {rest : List Char}
    {ts : List Token} (stop : EndsWord rest) (later : Tokenized rest ts) :
    Tokenized (t.render ++ rest) (t.printed.tokens ++ ts) := by
  induction t generalizing rest ts with
  | literal text => exact tokenized_literal printable later
  | identifier text =>
      have tokens := Tokenized.word printable.1 printable.2.1 stop later
      rwa [String.ofList_toList] at tokens
  | not argument ih => exact .operator rfl (ih printable stop later)
  | binary op left right ihl ihr =>
      have close : Tokenized (')' :: rest) (.closing :: ts) := .operator rfl later
      have second := ihr printable.2 (endsWord_cons (by decide)) close
      have gap := Tokenized.blank (c := ' ') (by decide) second
      cases op with
      | and =>
          have first := ihl printable.1 (endsWord_cons (by decide))
            (.blank (c := ' ') (by decide) (.operator (c := '&') rfl gap))
          have whole := Tokenized.operator (c := '(') rfl first
          simpa [render, printed, Derivation.tokens, BinaryOp.symbol] using whole
      | or =>
          have first := ihl printable.1 (endsWord_cons (by decide))
            (.blank (c := ' ') (by decide) (.operator (c := '|') rfl gap))
          have whole := Tokenized.operator (c := '(') rfl first
          simpa [render, printed, Derivation.tokens, BinaryOp.symbol] using whole

theorem parseText_toText {t : Node} (printable : t.Printable) (low : t.height ≤ 256) :
    parseText t.toText = .ok t := by
  have whole : Tokenized t.render t.printed.tokens := by
    have ended : EndsWord [] := fun _ missing => by cases missing
    simpa using tokenized_render printable ended .nil
  obtain ⟨ts, scans, same⟩ := whole 0
  have scanned : scan t.toText.toList = .ok ts := by
    rw [toText, String.toList_ofList, scan, scanFrom_eq_ok]
    exact scans
  rw [parseText_of_scan scanned, parseTokens_eq_ok]
  refine ⟨.or (.and t.printed), same.symm, tree_printed printable, Derivation.fits_zero.mpr ⟨?_, ?_⟩⟩
  · have fewer := nesting_printed t
    simp only [Derivation.nesting]
    omega
  · rw [← tree_printed printable] at low
    exact low

theorem printable_iff {t : Node} : t.Printable ↔ ∀ leaf ∈ t.leaves, leaf.Printable := by
  induction t with
  | literal | identifier => simp [leaves]
  | not argument ih => exact ih
  | binary op left right ihl ihr => simp [Printable, leaves, ihl, ihr, or_imp, forall_and]

theorem mem_words {t : Node} {word : String} :
    word ∈ t.words ↔ ∃ leaf ∈ t.leaves, word ∈ leaf.words := by
  induction t with
  | literal | identifier => simp [leaves]
  | not argument ih => exact ih
  | binary op left right ihl ihr => simp [words, leaves, ihl, ihr, or_and_right, exists_or]

end Node

/-- The leaf of a token of a text. -/
theorem Token.Genuine.leaf {cs : List Char} {t : Token} {leaf : Node} (genuine : t.Genuine cs)
    (found : leaf? t = some leaf) :
    leaf.Printable ∧ ∀ word ∈ leaf.words, word.toList ⊆ cs := by
  cases t with
  | word text =>
      obtain ⟨nonempty, bare, part⟩ := genuine
      cases found
      split
      · refine ⟨⟨nonempty, fun both => ?_⟩, by simpa [Node.words] using part⟩
        have quote := quote_of_bare (bare _ both.1)
        cases quote
      · rename_i letters
        exact ⟨⟨nonempty, bare, letters⟩, by simpa [Node.words] using part⟩
  | quoted text =>
      obtain ⟨nonempty, ⟨c, quote, outside⟩, part⟩ := genuine
      cases found
      refine ⟨⟨nonempty, fun both => ?_⟩, by simpa [Node.words] using part⟩
      rcases (Bool.or_eq_true _ _).mp quote with same | same
      · rw [eq_of_beq same] at outside
        exact outside both.1
      · rw [eq_of_beq same] at outside
        exact outside both.2
  | and | or | not | opening | closing => cases found

theorem parseText_image {text : String} {t : Node} (parsed : parseText text = .ok t) :
    t.Printable ∧ t.height ≤ 256 ∧ ∀ word ∈ t.words, word.toList ⊆ text.toList := by
  obtain ⟨ts, scanned, _⟩ := bind_eq_ok.mp parsed
  rw [parseText_of_scan scanned] at parsed
  obtain ⟨d, same, rfl, within⟩ := parseTokens_eq_ok.mp parsed
  have genuine := (scans_of_scanFrom scanned).genuine
  have leaves (leaf : Node) (among : leaf ∈ d.tree.leaves) :
      leaf.Printable ∧ ∀ word ∈ leaf.words, word.toList ⊆ text.toList := by
    rw [d.leaves_tree, same] at among
    obtain ⟨token, inside, found⟩ := List.mem_filterMap.mp among
    obtain ⟨placed, there, rfl⟩ := List.mem_map.mp inside
    exact (genuine placed there).leaf found
  refine ⟨Node.printable_iff.mpr fun leaf among => (leaves leaf among).1, within.height, ?_⟩
  intro word mem
  obtain ⟨leaf, among, inside⟩ := Node.mem_words.mp mem
  exact (leaves leaf among).2 word inside

/-- The characters around the words of a tree are settled. -/
theorem settled_of_mem_render {t : Node}
    (letters : ∀ word ∈ t.words, ∀ c ∈ word.toList, Settled c) : ∀ c ∈ t.render, Settled c := by
  have marks : ∀ c ∈ ['"', '\'', '!', '(', ')', ' ', '&', '|'], Settled c := by
    intro c among
    simp only [List.mem_cons, List.not_mem_nil, or_false] at among
    rcases among with rfl | rfl | rfl | rfl | rfl | rfl | rfl | rfl
    all_goals exact settled_of_lowerCode? (by decide) rfl
  induction t with
  | literal text =>
      have inside := letters text List.mem_cons_self
      intro c mem
      rw [Node.render, Node.renderQuoted] at mem
      split at mem
      all_goals
        simp only [List.cons_append, List.mem_cons, List.mem_append, List.not_mem_nil,
          or_false] at mem
        rcases mem with rfl | mem | rfl
        · exact marks _ (by decide)
        · exact inside c mem
        · exact marks _ (by decide)
  | identifier text => exact letters text List.mem_cons_self
  | not argument ih =>
      intro c mem
      rcases List.mem_cons.mp mem with rfl | mem
      · exact marks _ (by decide)
      · exact ih letters c mem
  | binary op left right ihl ihr =>
      have first := ihl fun word mem => letters word (List.mem_append_left _ mem)
      have second := ihr fun word mem => letters word (List.mem_append_right _ mem)
      have symbol : Settled op.symbol := by
        cases op with
        | and | or => exact marks _ (by decide)
      intro c mem
      simp only [Node.render, List.cons_append, List.append_assoc, List.mem_cons, List.mem_append,
        List.not_mem_nil, or_false] at mem
      rcases mem with rfl | mem | rfl | rfl | rfl | mem | rfl
      · exact marks _ (by decide)
      · exact first c mem
      · exact marks _ (by decide)
      · exact symbol
      · exact marks _ (by decide)
      · exact second c mem
      · exact marks _ (by decide)

/-- Writing a tree and reading it are inverse to each other on the trees that the parser makes:
those that are printable and at most 256 high. A query is read again from the text it is shown
as. -/
theorem parse_toText :
    (∀ t : Node, parseText t.toText = .ok t ↔ t.Printable ∧ t.height ≤ 256) ∧
    (∀ text t, parseText text = .ok t → t.Printable ∧ t.height ≤ 256) ∧
    ∀ source query, Query.parse source = .ok query →
      ∃ again, Query.parse query.toText = .ok again ∧ again.root = query.root := by
  refine ⟨fun t => ⟨fun parsed => ?_, fun ⟨printable, low⟩ => ?_⟩, fun text t parsed => ?_, ?_⟩
  · obtain ⟨printable, low, _⟩ := parseText_image parsed
    exact ⟨printable, low⟩
  · exact Node.parseText_toText printable low
  · obtain ⟨printable, low, _⟩ := parseText_image parsed
    exact ⟨printable, low⟩
  · intro source query parsed
    obtain ⟨root, read, rest⟩ := bind_eq_ok.mp parsed
    cases rest
    obtain ⟨printable, low, letters⟩ := parseText_image read
    -- The words of the tree come from a text in lower case, so that they are read as they stand.
    have settled : ∀ c ∈ root.render, Settled c := by
      refine settled_of_mem_render fun word mem c inside => ?_
      have lowered := letters word mem inside
      rw [toList_lowerString] at lowered
      exact settled_of_mem_lower lowered
    have same : lowerString root.toText = root.toText := by
      rw [lowerString, Node.toText, String.toList_ofList, lower_eq_self settled]
    refine ⟨⟨root.toText, root⟩, ?_, rfl⟩
    show Query.parse root.toText = _
    rw [Query.parse, same, Node.parseText_toText printable low]
    rfl

end ImageSearch.Query
