import ImageSearch.Proofs.Query.Reading
import ImageSearch.Proofs.Text.Lowering

set_option autoImplicit false

namespace ImageSearch.Query

open ImageSearch.Text

/-- The characters that are tokens by themselves cut a text in two for lower-casing. -/
theorem divides_of_operator {c : Char} {t : Token} (operator : operator? c = some t) :
    Divides c := by
  have apart : operators.all dividing = true := by decide
  exact divides_of_dividing (List.all_eq_true.mp apart c (operator?_eq_some operator))

theorem operator?_symbol (op : BinaryOp) :
    ∃ t, operator? op.symbol = some t := by
  cases op with
  | and => exact ⟨.and, rfl⟩
  | or => exact ⟨.or, rfl⟩

theorem endsWord_operator {c : Char} {t : Token} (operator : operator? c = some t)
    (rest : List Char) : EndsWord (c :: rest) := by
  rintro d ⟨⟩
  exact (plain_of_operator operator).2

/-- Two query texts in parentheses with an operator between them. -/
def joinedTexts (op : BinaryOp) (p q : String) : String :=
  match op with
  | .and => "(" ++ p ++ ")&(" ++ q ++ ")"
  | .or => "(" ++ p ++ ")|(" ++ q ++ ")"

/-- A query text in parentheses after a negation. -/
def negatedText (p : String) : String := "!(" ++ p ++ ")"

namespace Derivation

def grouped (d : Derivation .or) : Derivation .unary := .primary (.group d)

def joined (op : BinaryOp) (d e : Derivation .or) : Derivation .or :=
  match op with
  | .and => .or (.andMore (.and d.grouped) e.grouped)
  | .or => .orMore (.or (.and d.grouped)) (.and e.grouped)

def negated (d : Derivation .or) : Derivation .or := .or (.and (.not d.grouped))

variable {op : BinaryOp} {d e : Derivation .or}

theorem tree_joined : (joined op d e).tree = .binary op d.tree e.tree := by
  cases op with
  | and | or => rfl

theorem nesting_joined : (joined op d e).nesting = max (d.nesting + 1) (e.nesting + 1) := by
  cases op with
  | and | or => rfl

theorem exceeds_joined (left : d.Fits 0) (right : e.Fits 0) :
    ¬ (joined op d e).Fits 0 ↔
      d.tree.height = 256 ∨ e.tree.height = 256 ∨ 256 ≤ d.nesting ∨ 256 ≤ e.nesting := by
  have first := fits_zero.mp left
  have second := fits_zero.mp right
  rw [fits_zero, tree_joined, nesting_joined, Node.height]
  omega

/-- A negation needs one more level than the parentheses. -/
theorem exceeds_negated (fits : d.Fits 0) :
    ¬ d.negated.Fits 0 ↔ d.tree.height = 256 ∨ 255 ≤ d.nesting := by
  have limits := fits_zero.mp fits
  rw [fits_zero]
  show ¬ (d.nesting + 1 + 1 ≤ 256 ∧ d.tree.height + 1 ≤ 256) ↔ _
  omega

end Derivation

theorem lower_joinedTexts (op : BinaryOp) (p q : String) :
    lower (joinedTexts op p q).toList =
      '(' :: (lower p.toList ++ ')' :: op.symbol :: '(' :: (lower q.toList ++ [')'])) := by
  have shape : (joinedTexts op p q).toList =
      [] ++ '(' :: (p.toList ++ ')' :: ([] ++ op.symbol :: ([] ++ '(' :: (q.toList ++ ')' :: [])))) := by
    cases op with
    | and | or => simp [joinedTexts, BinaryOp.symbol]
  obtain ⟨t, symbol⟩ := operator?_symbol op
  have opening : Divides '(' := divides_of_operator rfl
  have closing : Divides ')' := divides_of_operator rfl
  rw [shape, opening.lower_append, closing.lower_append,
    (divides_of_operator symbol).lower_append, opening.lower_append, closing.lower_append]
  rfl

theorem lower_negatedText (p : String) :
    lower (negatedText p).toList = '!' :: '(' :: (lower p.toList ++ [')']) := by
  have shape : (negatedText p).toList = [] ++ '!' :: ([] ++ '(' :: (p.toList ++ ')' :: [])) := by
    simp [negatedText]
  have mark : Divides '!' := divides_of_operator rfl
  have opening : Divides '(' := divides_of_operator rfl
  have closing : Divides ')' := divides_of_operator rfl
  rw [shape, mark.lower_append, opening.lower_append, closing.lower_append]
  rfl

variable {p q : String} {d e : Derivation .or}

theorem derives_joinedTexts (op : BinaryOp) (left : Derives p d) (right : Derives q e) :
    Derives (joinedTexts op p q) (.joined op d e) := by
  apply scan_of_tokenized
  rw [lower_joinedTexts]
  have last : Tokenized [')'] [.closing] := .operator rfl .nil
  have second := Tokenized.operator (c := '(') rfl
    (right.tokenized_append (endsWord_operator (t := .closing) rfl []) last)
  cases op with
  | and =>
      have gap := Tokenized.operator (c := ')') rfl (Tokenized.operator (c := '&') rfl second)
      have whole := Tokenized.operator (c := '(') rfl
        (left.tokenized_append (endsWord_operator (t := .closing) rfl _) gap)
      simpa [Derivation.joined, Derivation.grouped, Derivation.tokens, BinaryOp.symbol] using whole
  | or =>
      have gap := Tokenized.operator (c := ')') rfl (Tokenized.operator (c := '|') rfl second)
      have whole := Tokenized.operator (c := '(') rfl
        (left.tokenized_append (endsWord_operator (t := .closing) rfl _) gap)
      simpa [Derivation.joined, Derivation.grouped, Derivation.tokens, BinaryOp.symbol] using whole

theorem derives_negatedText (derives : Derives p d) : Derives (negatedText p) d.negated := by
  apply scan_of_tokenized
  rw [lower_negatedText]
  have last : Tokenized [')'] [.closing] := .operator rfl .nil
  have inside := derives.tokenized_append (endsWord_operator (t := .closing) rfl []) last
  exact .operator rfl (.operator rfl inside)

/-- Some word of a query text stands inside so many negations and parentheses. -/
def NestsTo (source : String) (depth : Nat) : Prop := ∃ d, Derives source d ∧ depth ≤ d.nesting

theorem Derives.nestsTo (derives : Derives p d) (depth : Nat) :
    NestsTo p depth ↔ depth ≤ d.nesting := by
  constructor
  · rintro ⟨e, other, deep⟩
    rwa [derives.unique other]
  · intro deep
    exact ⟨d, derives, deep⟩

/-- A search gives the documents with a property in their order, or it is refused for its depth, as
a condition says. -/
def Selects (result : Except ParseError (List Document)) (documents : List Document)
    (property : Document → Prop) [DecidablePred property] (full : Prop) : Prop :=
  (¬ full ∧ result = .ok (documents.filter property)) ∨
    (full ∧ ∃ e, result = .error e ∧ e.message = "query nested too deeply")

theorem Derives.selects (derives : Derives p d) (documents : List Document)
    {property : Document → Prop} [DecidablePred property] {full : Prop}
    (same : ∀ document ∈ documents, d.tree.holds document = true ↔ property document)
    (limit : ¬ d.Fits 0 ↔ full) : Selects (ImageSearch.search documents p) documents property full := by
  obtain ⟨good, bad⟩ := derives.search documents
  by_cases fits : d.Fits 0
  · apply Or.inl
    have selected : documents.filter d.tree.holds = documents.filter property := by
      apply List.filter_congr
      intro document among
      rw [Bool.eq_iff_iff, decide_eq_true_iff]
      exact same document among
    rw [good fits, selected]
    exact ⟨fun exceeds => limit.mpr exceeds fits, rfl⟩
  · obtain ⟨position, refused⟩ := bad fits
    exact Or.inr ⟨limit.mp fits, _, refused, rfl⟩

/-- Operands of a query can be put together as texts: the result selects the documents that both
select, that either selects, or that the one does not select. It is refused for its depth exactly if
the tree of an operand is 256 high or the text of an operand leaves no room for one more pair of
parentheses, with a negation before it or not. -/
theorem search_compositional {p q : String} {x y : Query} (left : Query.parse p = .ok x)
    (right : Query.parse q = .ok y) (documents : List Document) :
    ∃ found others, search documents p = .ok found ∧ search documents q = .ok others ∧
      Selects (search documents ("(" ++ p ++ ")&(" ++ q ++ ")")) documents
        (fun document => document ∈ found ∧ document ∈ others)
        (x.root.height = 256 ∨ y.root.height = 256 ∨ NestsTo p 256 ∨ NestsTo q 256) ∧
      Selects (search documents ("(" ++ p ++ ")|(" ++ q ++ ")")) documents
        (fun document => document ∈ found ∨ document ∈ others)
        (x.root.height = 256 ∨ y.root.height = 256 ∨ NestsTo p 256 ∨ NestsTo q 256) ∧
      Selects (search documents ("!(" ++ p ++ ")")) documents
        (fun document => document ∉ found)
        (x.root.height = 256 ∨ NestsTo p 255) := by
  obtain ⟨d, first, low, rfl⟩ := exists_derives left
  obtain ⟨e, second, low', rfl⟩ := exists_derives right
  have inFirst (document : Document) (among : document ∈ documents) :
      document ∈ documents.filter d.tree.holds ↔ d.tree.holds document = true := by
    rw [List.mem_filter]
    exact and_iff_right among
  have inSecond (document : Document) (among : document ∈ documents) :
      document ∈ documents.filter e.tree.holds ↔ e.tree.holds document = true := by
    rw [List.mem_filter]
    exact and_iff_right among
  have limit (op : BinaryOp) : ¬ (Derivation.joined op d e).Fits 0 ↔
      d.tree.height = 256 ∨ e.tree.height = 256 ∨ NestsTo p 256 ∨ NestsTo q 256 := by
    rw [first.nestsTo, second.nestsTo]
    exact Derivation.exceeds_joined low low'
  refine ⟨_, _, (first.search documents).1 low, (second.search documents).1 low', ?_, ?_, ?_⟩
  · refine (derives_joinedTexts .and first second).selects documents ?_ (limit .and)
    intro document among
    rw [inFirst document among, inSecond document among, Derivation.tree_joined]
    exact Bool.and_eq_true_iff
  · refine (derives_joinedTexts .or first second).selects documents ?_ (limit .or)
    intro document among
    rw [inFirst document among, inSecond document among, Derivation.tree_joined]
    exact Bool.or_eq_true_iff
  · refine (derives_negatedText first).selects documents ?_ ?_
    · intro document among
      rw [inFirst document among]
      show (!d.tree.holds document) = true ↔ _
      rw [Bool.not_eq_true', Bool.not_eq_true]
    · rw [first.nestsTo]
      exact Derivation.exceeds_negated low

/-- The sigma of the first operand is final on its own and in front of the parenthesis. -/
theorem search_compositional_sigma :
    let documents := [Document.ofWords "a.png" ⟨"a.png"⟩ ["οδος"],
      Document.ofWords "b.png" ⟨"b.png"⟩ ["οδος", "salt"]]
    Query.parse "ΟΔΟΣ" = .ok ⟨"ΟΔΟΣ", .identifier "οδος"⟩ ∧
    Query.parse "!salt" = .ok ⟨"!salt", .not (.identifier "salt")⟩ ∧
    ∃ found others, search documents "ΟΔΟΣ" = .ok found ∧ search documents "!salt" = .ok others ∧
      Selects (search documents "(ΟΔΟΣ)&(!salt)") documents
        (fun document => document ∈ found ∧ document ∈ others)
        (1 = 256 ∨ 2 = 256 ∨ NestsTo "ΟΔΟΣ" 256 ∨ NestsTo "!salt" 256) := by
  intro documents
  have left : Query.parse "ΟΔΟΣ" = .ok ⟨"ΟΔΟΣ", .identifier "οδος"⟩ := by with_unfolding_all rfl
  have right : Query.parse "!salt" = .ok ⟨"!salt", .not (.identifier "salt")⟩ := by
    with_unfolding_all rfl
  obtain ⟨found, others, first, second, both, _⟩ := search_compositional left right documents
  exact ⟨left, right, found, others, first, second, both⟩

end ImageSearch.Query
