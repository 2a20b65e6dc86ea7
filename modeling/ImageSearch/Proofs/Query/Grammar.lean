import ImageSearch.Query.Parse

set_option autoImplicit false

namespace ImageSearch.Query

inductive Rule where
  | or
  | and
  | unary
  | primary

/-- The grammar
```text
or      := and ('|' and)*
and     := unary ('&' unary)*
unary   := '!' unary | primary
primary := WORD | QUOTED | '(' or ')'
```
where a chain of operands grows at its right end. -/
inductive Derivation : Rule → Type where
  | or (only : Derivation .and) : Derivation .or
  | orMore (chain : Derivation .or) (last : Derivation .and) : Derivation .or
  | and (only : Derivation .unary) : Derivation .and
  | andMore (chain : Derivation .and) (last : Derivation .unary) : Derivation .and
  | not (argument : Derivation .unary) : Derivation .unary
  | primary (only : Derivation .primary) : Derivation .unary
  | word (text : String) : Derivation .primary
  | quoted (text : String) : Derivation .primary
  | group (inner : Derivation .or) : Derivation .primary

def Node.leaves : Node → List Node
  | .not argument => argument.leaves
  | .binary _ left right => left.leaves ++ right.leaves
  | leaf => [leaf]

namespace Derivation

/-- The tokens that are read. -/
def tokens {rule : Rule} : Derivation rule → List Token
  | .or only => only.tokens
  | .orMore chain last => chain.tokens ++ .or :: last.tokens
  | .and only => only.tokens
  | .andMore chain last => chain.tokens ++ .and :: last.tokens
  | .not argument => .not :: argument.tokens
  | .primary only => only.tokens
  | .word text => [.word text]
  | .quoted text => [.quoted text]
  | .group inner => .opening :: (inner.tokens ++ [.closing])

/-- The tree that is meant: a chain leans to the left, and parentheses leave no trace. -/
def tree {rule : Rule} : Derivation rule → Node
  | .or only => only.tree
  | .orMore chain last => .binary .or chain.tree last.tree
  | .and only => only.tree
  | .andMore chain last => .binary .and chain.tree last.tree
  | .not argument => .not argument.tree
  | .primary only => only.tree
  | .word text => if text.toList.all Char.isDigit then .literal text else .identifier text
  | .quoted text => .literal text
  | .group inner => inner.tree

/-- The greatest number of negations and parentheses around one leaf. -/
def nesting {rule : Rule} : Derivation rule → Nat
  | .or only => only.nesting
  | .orMore chain last => max chain.nesting last.nesting
  | .and only => only.nesting
  | .andMore chain last => max chain.nesting last.nesting
  | .not argument => argument.nesting + 1
  | .primary only => only.nesting
  | .word _ | .quoted _ => 0
  | .group inner => inner.nesting + 1

theorem tokens_ne_nil {rule : Rule} (d : Derivation rule) : d.tokens ≠ [] := by
  induction d with
  | or only ih | and only ih | primary only ih => exact ih
  | orMore | andMore => simp [tokens]
  | not | word | quoted | group => exact List.cons_ne_nil _ _

/-- The leaves are the words and the quoted texts, in order. -/
theorem leaves_tree {rule : Rule} (d : Derivation rule) :
    d.tree.leaves = d.tokens.filterMap leaf? := by
  induction d with
  | or only ih | and only ih | primary only ih => exact ih
  | orMore chain last left right | andMore chain last left right =>
      rw [tree, tokens, Node.leaves, List.filterMap_append, List.filterMap_cons_none rfl, left,
        right]
  | not argument ih => exact ih
  | word text =>
      have leaf : leaf? (.word text) = some (tree (.word text)) := rfl
      rw [tokens, List.filterMap_cons_some leaf, tree]
      split
      · rfl
      · rfl
  | quoted text => rfl
  | group inner ih =>
      rw [tree, tokens, List.filterMap_cons_none rfl, List.filterMap_append, ih]
      exact (List.append_nil _).symm

theorem count_tokens {rule : Rule} (d : Derivation rule) :
    d.tokens.count .opening = d.tokens.count .closing := by
  induction d with
  | or only ih | and only ih | primary only ih => exact ih
  | orMore chain last left right | andMore chain last left right =>
      simp [tokens, left, right]
  | not argument ih => simp [tokens, ih]
  | word | quoted => rfl
  | group inner ih => simp [tokens, ih]

end Derivation

/-- The operators that a rule has only inside parentheses. -/
def Rule.hides : Rule → Token → Prop
  | .or, _ => False
  | .and, t => t = .or
  | .unary, t | .primary, t => t = .or ∨ t = .and

/-- A member of two lists with a token between them is in the first, or is the token, or is in the
second. -/
theorem split_between {ts us before after : List Token} {link t : Token}
    (same : ts ++ link :: us = before ++ t :: after) :
    (∃ rest, ts = before ++ t :: rest ∧ after = rest ++ link :: us) ∨
      (ts = before ∧ link = t ∧ us = after) ∨
      ∃ rest, before = ts ++ link :: rest ∧ us = rest ++ t :: after := by
  rcases List.append_eq_append_iff.mp same with ⟨rest, first, second⟩ | ⟨rest, first, second⟩
  · cases rest with
    | nil =>
        simp only [List.nil_append, List.cons.injEq] at second
        exact .inr (.inl ⟨by simpa using first.symm, second⟩)
    | cons x rest =>
        simp only [List.cons_append, List.cons.injEq] at second
        obtain ⟨rfl, second⟩ := second
        exact .inr (.inr ⟨rest, first, second⟩)
  · cases rest with
    | nil =>
        simp only [List.nil_append, List.cons.injEq] at second
        exact .inr (.inl ⟨by simpa using first, second.1.symm, second.2.symm⟩)
    | cons x rest =>
        simp only [List.cons_append, List.cons.injEq] at second
        obtain ⟨rfl, second⟩ := second
        exact .inl ⟨rest, first, second⟩

namespace Derivation

/-- From every token on, at least as many parentheses are closed as opened, and more after an
operator that the rule hides. -/
theorem count_after {rule : Rule} (d : Derivation rule) {before after : List Token} {t : Token}
    (split : d.tokens = before ++ t :: after) :
    (t :: after).count .opening ≤ (t :: after).count .closing ∧
      (rule.hides t → after.count .opening < after.count .closing) := by
  induction d generalizing before after with
  | or only ih => exact ⟨(ih split).1, False.elim⟩
  | orMore chain last left right =>
      have balanced := last.count_tokens
      refine ⟨?_, False.elim⟩
      rcases split_between split with ⟨rest, first, rfl⟩ | ⟨_, rfl, rfl⟩ | ⟨rest, _, second⟩
      · have inside := (left first).1
        simp only [List.count_cons, List.count_append] at inside ⊢
        simp at inside ⊢
        omega
      · simp [balanced]
      · exact (right second).1
  | and only ih => exact ⟨(ih split).1, fun hidden => (ih split).2 (.inl hidden)⟩
  | andMore chain last left right =>
      have balanced := last.count_tokens
      rcases split_between split with ⟨rest, first, rfl⟩ | ⟨_, rfl, rfl⟩ | ⟨rest, _, second⟩
      · obtain ⟨inside, strict⟩ := left first
        simp only [List.count_cons, List.count_append] at inside strict ⊢
        simp at inside strict ⊢
        refine ⟨by omega, fun hidden => ?_⟩
        have more := strict hidden
        omega
      · exact ⟨by simp [balanced], fun hidden => by cases hidden⟩
      · exact ⟨(right second).1, fun hidden => (right second).2 (.inl hidden)⟩
  | not argument ih =>
      cases before with
      | nil =>
          simp only [tokens, List.nil_append, List.cons.injEq] at split
          obtain ⟨rfl, rfl⟩ := split
          exact ⟨by simp [argument.count_tokens], by simp [Rule.hides]⟩
      | cons x before =>
          simp only [tokens, List.cons_append, List.cons.injEq] at split
          exact ih split.2
  | primary only ih => exact ih split
  | word text | quoted text =>
      simp only [tokens, List.singleton_eq_append_iff] at split
      simp at split
      obtain ⟨_, rfl, rfl⟩ := split
      exact ⟨by simp, by simp [Rule.hides]⟩
  | group inner ih =>
      have balanced := inner.count_tokens
      cases before with
      | nil =>
          simp only [tokens, List.nil_append, List.cons.injEq] at split
          obtain ⟨rfl, rfl⟩ := split
          exact ⟨by simp [balanced], by simp [Rule.hides]⟩
      | cons x before =>
          simp only [tokens, List.cons_append, List.cons.injEq] at split
          rcases split_between split.2 with ⟨rest, first, rfl⟩ | ⟨_, rfl, rfl⟩ | ⟨rest, _, second⟩
          · have inside := (ih first).1
            simp only [List.count_cons, List.count_append] at inside ⊢
            simp at inside ⊢
            refine ⟨by omega, fun hidden => ?_⟩
            rcases hidden with rfl | rfl
            all_goals
              simp at inside
              omega
          · exact ⟨by simp, by simp [Rule.hides]⟩
          · simp at second

/-- No derivation of a rule ends in another one after an operator that the rule hides. -/
theorem not_hidden {rule inner : Rule} (d : Derivation rule) (e : Derivation inner) {t : Token}
    (hidden : rule.hides t) (before : List Token) : d.tokens ≠ before ++ t :: e.tokens := by
  intro split
  have more := (d.count_after split).2 hidden
  have balanced := e.count_tokens
  omega

/-- Tokens have at most one derivation. -/
theorem eq_of_tokens {rule : Rule} (d e : Derivation rule) (same : d.tokens = e.tokens) :
    d = e := by
  induction d with
  | or only ih =>
      cases e with
      | or other => rw [ih other same]
      | orMore chain last => exact absurd same (only.not_hidden last rfl _)
  | orMore chain last left right =>
      cases e with
      | or other => exact absurd same.symm (other.not_hidden last rfl _)
      | orMore chain' last' =>
          rcases split_between same with ⟨rest, _, second⟩ | ⟨first, _, second⟩ |
            ⟨rest, _, second⟩
          · exact absurd second (last'.not_hidden last rfl _)
          · rw [left chain' first, right last' second]
          · exact absurd second (last.not_hidden last' rfl _)
  | and only ih =>
      cases e with
      | and other => rw [ih other same]
      | andMore chain last => exact absurd same (only.not_hidden last (.inr rfl) _)
  | andMore chain last left right =>
      cases e with
      | and other => exact absurd same.symm (other.not_hidden last (.inr rfl) _)
      | andMore chain' last' =>
          rcases split_between same with ⟨rest, _, second⟩ | ⟨first, _, second⟩ |
            ⟨rest, _, second⟩
          · exact absurd second (last'.not_hidden last (.inr rfl) _)
          · rw [left chain' first, right last' second]
          · exact absurd second (last.not_hidden last' (.inr rfl) _)
  | not argument ih =>
      cases e with
      | not other => rw [ih other (List.cons.inj same).2]
      | primary other => cases other <;> simp [tokens] at same
  | primary only ih =>
      cases e with
      | not other => cases only <;> simp [tokens] at same
      | primary other => rw [ih other same]
  | word text => cases e <;> simp_all [tokens]
  | quoted text => cases e <;> simp_all [tokens]
  | group inner ih =>
      cases e with
      | word | quoted => simp [tokens] at same
      | group other =>
          simp only [tokens, List.cons.injEq, true_and, List.append_cancel_right_eq] at same
          rw [ih other same]

end Derivation

end ImageSearch.Query
