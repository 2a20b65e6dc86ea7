import ImageSearch.Proofs.Query.Grammar
import ImageSearch.Proofs.Results

set_option autoImplicit false

namespace ImageSearch.Query

def TooDeep {α : Type} (result : Except ParseError α) : Prop :=
  ∃ position, result = .error ⟨.tooDeep, position⟩

theorem TooDeep.bind {α β : Type} {result : Except ParseError α} (deep : TooDeep result)
    (next : α → Except ParseError β) : TooDeep (result >>= next) := by
  obtain ⟨position, rfl⟩ := deep
  exact ⟨position, rfl⟩

theorem grow_of_lt {height : Nat} (room : height < maxNesting) (position : Nat) :
    grow height position = .ok (height + 1) :=
  if_neg (Nat.not_le_of_lt room)

theorem grow_of_le {height : Nat} (full : maxNesting ≤ height) (position : Nat) :
    TooDeep (grow height position) :=
  ⟨position, if_pos full⟩

theorem accept_of_lt {p : Progress} (room : p.depth < maxNesting) (position : Nat) :
    p.accept position = .ok () :=
  if_neg (Nat.not_le_of_lt room)

theorem accept_of_le {p : Progress} (full : maxNesting ≤ p.depth) (position : Nat) :
    TooDeep (p.accept position) :=
  ⟨position, if_pos full⟩

theorem negate_of_lt {x : Operand} (room : x.height < maxNesting) (position : Nat) :
    x.negate position = .ok ⟨.not x.node, x.height + 1⟩ := by
  simp only [Operand.negate, grow_of_lt room]
  rfl

theorem negate_of_le {x : Operand} (full : maxNesting ≤ x.height) (position : Nat) :
    TooDeep (x.negate position) :=
  (grow_of_le full position).bind _

theorem join_of_lt {op : BinaryOp} {left right : Operand}
    (room : max left.height right.height < maxNesting) (position : Nat) :
    Operand.join op (some ⟨left, position⟩) right =
      .ok ⟨.binary op left.node right.node, max left.height right.height + 1⟩ := by
  simp only [Operand.join, grow_of_lt room]
  rfl

theorem join_of_le {op : BinaryOp} {left right : Operand}
    (full : maxNesting ≤ max left.height right.height) (position : Nat) :
    TooDeep (Operand.join op (some ⟨left, position⟩) right) :=
  (grow_of_le full position).bind _

/-- The nearest negation applies first. -/
theorem complete_negation (frame : Frame) (outer : List (Nat × Frame)) (position : Nat)
    (x : Operand) :
    Progress.complete ⟨none, { frame with negations := position :: frame.negations }, outer⟩ x =
      x.negate position >>= Progress.complete ⟨none, frame, outer⟩ := by
  simp only [Progress.complete, List.foldlM_cons, bind_assoc]
  rfl

namespace Derivation

variable {rule : Rule}

def operand (d : Derivation rule) : Operand := ⟨d.tree, d.tree.height⟩

/-- A derivation is within the limits when it stands below some negations and parentheses. -/
structure Fits (d : Derivation rule) (depth : Nat) : Prop where
  nesting : depth + d.nesting ≤ maxNesting
  height : d.tree.height ≤ maxNesting

theorem fits_not {argument : Derivation .unary} {depth : Nat} :
    argument.not.Fits depth ↔
      argument.Fits (depth + 1) ∧ argument.tree.height < maxNesting := by
  constructor
  · rintro ⟨shallow, low⟩
    simp only [nesting] at shallow
    exact ⟨⟨by omega, Nat.le_of_succ_le low⟩, low⟩
  · rintro ⟨⟨shallow, _⟩, low⟩
    refine ⟨?_, low⟩
    simp only [nesting]
    omega

theorem fits_group {inner : Derivation .or} {depth : Nat} :
    inner.group.Fits depth ↔ inner.Fits (depth + 1) := by
  constructor
  · rintro ⟨shallow, low⟩
    simp only [nesting] at shallow
    exact ⟨by omega, low⟩
  · rintro ⟨shallow, low⟩
    refine ⟨?_, low⟩
    simp only [nesting]
    omega

theorem fits_andMore {chain : Derivation .and} {last : Derivation .unary} {depth : Nat} :
    (chain.andMore last).Fits depth ↔ (chain.Fits depth ∧ last.Fits depth) ∧
      max chain.tree.height last.tree.height < maxNesting := by
  constructor
  · rintro ⟨shallow, low⟩
    simp only [nesting, tree, Node.height] at shallow low
    exact ⟨⟨⟨by omega, by omega⟩, ⟨by omega, by omega⟩⟩, low⟩
  · rintro ⟨⟨left, right⟩, low⟩
    have shallow := left.nesting
    have shallow' := right.nesting
    refine ⟨?_, low⟩
    simp only [nesting]
    omega

theorem fits_orMore {chain : Derivation .or} {last : Derivation .and} {depth : Nat} :
    (chain.orMore last).Fits depth ↔ (chain.Fits depth ∧ last.Fits depth) ∧
      max chain.tree.height last.tree.height < maxNesting := by
  constructor
  · rintro ⟨shallow, low⟩
    simp only [nesting, tree, Node.height] at shallow low
    exact ⟨⟨⟨by omega, by omega⟩, ⟨by omega, by omega⟩⟩, low⟩
  · rintro ⟨⟨left, right⟩, low⟩
    have shallow := left.nesting
    have shallow' := right.nesting
    refine ⟨?_, low⟩
    simp only [nesting]
    omega

/-- The tokens of a derivation complete an operand. -/
def CompletesOperand (d : Derivation rule) : Prop :=
  ∀ (frame : Frame) (outer : List (Nat × Frame)) (ts : List Placed),
    ts.map Placed.token = d.tokens → Progress.depth ⟨none, frame, outer⟩ ≤ maxNesting →
    (d.Fits (Progress.depth ⟨none, frame, outer⟩) →
      ts.foldlM Progress.take ⟨none, frame, outer⟩ =
        Progress.complete ⟨none, frame, outer⟩ d.operand) ∧
    (¬ d.Fits (Progress.depth ⟨none, frame, outer⟩) →
      TooDeep (ts.foldlM Progress.take ⟨none, frame, outer⟩))

/-- The tokens of a chain of ands leave its operand, to the right of a waiting or. -/
def CompletesAnd (d : Derivation .and) : Prop :=
  ∀ (left : Option Waiting) (outer : List (Nat × Frame)) (ts : List Placed),
    ts.map Placed.token = d.tokens →
    Progress.depth ⟨none, ⟨left, none, []⟩, outer⟩ ≤ maxNesting →
    (d.Fits (Progress.depth ⟨none, ⟨left, none, []⟩, outer⟩) →
      ts.foldlM Progress.take ⟨none, ⟨left, none, []⟩, outer⟩ =
        .ok ⟨some d.operand, ⟨left, none, []⟩, outer⟩) ∧
    (¬ d.Fits (Progress.depth ⟨none, ⟨left, none, []⟩, outer⟩) →
      TooDeep (ts.foldlM Progress.take ⟨none, ⟨left, none, []⟩, outer⟩))

/-- The tokens of a chain of ors leave its last operand beside the waiting rest of the chain, which
are joined at the next token. -/
def CompletesOr (d : Derivation .or) : Prop :=
  ∀ (outer : List (Nat × Frame)) (ts : List Placed),
    ts.map Placed.token = d.tokens → Progress.depth ⟨none, .empty, outer⟩ ≤ maxNesting →
    (d.Fits (Progress.depth ⟨none, .empty, outer⟩) →
      ∃ x left, ts.foldlM Progress.take ⟨none, .empty, outer⟩ =
        .ok ⟨some x, ⟨left, none, []⟩, outer⟩ ∧ Operand.join .or left x = .ok d.operand) ∧
    (¬ d.Fits (Progress.depth ⟨none, .empty, outer⟩) →
      TooDeep (ts.foldlM Progress.take ⟨none, .empty, outer⟩) ∨
        ∃ x left, ts.foldlM Progress.take ⟨none, .empty, outer⟩ =
          .ok ⟨some x, ⟨left, none, []⟩, outer⟩ ∧ TooDeep (Operand.join .or left x))

theorem completes_leaf {d : Derivation .primary} {t : Token} (single : d.tokens = [t])
    (leaf : leaf? t = some d.tree) (flat : d.nesting = 0) (low : d.tree.height = 1) :
    d.CompletesOperand := by
  intro frame outer ts same within
  have fits : d.Fits (Progress.depth ⟨none, frame, outer⟩) := by
    refine ⟨by omega, ?_⟩
    rw [low]
    decide
  refine ⟨fun _ => ?_, fun exceeds => absurd fits exceeds⟩
  rw [single, List.map_eq_singleton_iff] at same
  obtain ⟨token, rfl, rfl⟩ := same
  rw [List.foldlM_cons]
  simp only [Progress.take, Progress.takeOperand, leaf, operand, low]
  exact bind_pure _

theorem completes_not {argument : Derivation .unary} (ih : argument.CompletesOperand) :
    argument.not.CompletesOperand := by
  intro frame outer ts same within
  obtain ⟨t, rest, rfl, mark, same⟩ := List.map_eq_cons_iff.mp same
  have taken : Progress.take ⟨none, frame, outer⟩ t =
      (Progress.accept ⟨none, frame, outer⟩ t.position >>= fun _ =>
        .ok ⟨none, { frame with negations := t.position :: frame.negations }, outer⟩) := by
    simp only [Progress.take, Progress.takeOperand, mark, leaf?]
    rfl
  rw [List.foldlM_cons, taken, fits_not]
  by_cases room : Progress.depth ⟨none, frame, outer⟩ < maxNesting
  case neg =>
    refine ⟨fun fits => ?_, fun _ => ((accept_of_le (Nat.le_of_not_lt room) _).bind _).bind _⟩
    have shallow := fits.1.nesting
    omega
  have deeper : Progress.depth
      ⟨none, { frame with negations := t.position :: frame.negations }, outer⟩ =
        Progress.depth ⟨none, frame, outer⟩ + 1 := by
    simp only [Progress.depth, List.length_cons]
    omega
  obtain ⟨good, bad⟩ := ih { frame with negations := t.position :: frame.negations } outer rest
    same (by omega)
  rw [deeper] at good bad
  rw [accept_of_lt room]
  show (_ → rest.foldlM Progress.take _ = _) ∧ (_ → TooDeep (rest.foldlM Progress.take _))
  by_cases inside : argument.Fits (Progress.depth ⟨none, frame, outer⟩ + 1)
  case neg => exact ⟨fun fits => absurd fits.1 inside, fun _ => bad inside⟩
  rw [good inside, complete_negation]
  by_cases low : argument.tree.height < maxNesting
  · rw [negate_of_lt low]
    exact ⟨fun _ => rfl, fun exceeds => absurd ⟨inside, low⟩ exceeds⟩
  · exact ⟨fun fits => absurd fits.2 low,
      fun _ => (negate_of_le (Nat.le_of_not_lt low) _).bind _⟩

theorem completes_group {inner : Derivation .or} (ih : inner.CompletesOr) :
    inner.group.CompletesOperand := by
  intro frame outer ts same within
  obtain ⟨t, rest, rfl, mark, tail⟩ := List.map_eq_cons_iff.mp same
  obtain ⟨body, last, rfl, inside, close⟩ := List.map_eq_append_iff.mp tail
  obtain ⟨closing, rfl, shut⟩ := List.map_eq_singleton_iff.mp close
  have taken : Progress.take ⟨none, frame, outer⟩ t =
      (Progress.accept ⟨none, frame, outer⟩ t.position >>= fun _ =>
        .ok ⟨none, .empty, (t.position, frame) :: outer⟩) := by
    simp only [Progress.take, Progress.takeOperand, mark, leaf?]
    rfl
  -- The closing parenthesis joins the chain, which completes an operand of the frame outside.
  have closed (x : Operand) (left : Option Waiting) :
      [closing].foldlM Progress.take
          ⟨some x, ⟨left, none, []⟩, (t.position, frame) :: outer⟩ =
        Operand.join .or left x >>= Progress.complete ⟨none, frame, outer⟩ := by
    simp only [List.foldlM_cons, List.foldlM_nil, bind_pure, Progress.take, Progress.takeOperator,
      shut]
  rw [List.foldlM_cons, taken, fits_group]
  by_cases room : Progress.depth ⟨none, frame, outer⟩ < maxNesting
  case neg =>
    refine ⟨fun fits => ?_, fun _ => ((accept_of_le (Nat.le_of_not_lt room) _).bind _).bind _⟩
    have shallow := fits.nesting
    omega
  have deeper : Progress.depth ⟨none, .empty, (t.position, frame) :: outer⟩ =
      Progress.depth ⟨none, frame, outer⟩ + 1 := by
    simp only [Progress.depth, Frame.empty, List.length_nil, List.foldr_cons]
    omega
  obtain ⟨good, bad⟩ := ih ((t.position, frame) :: outer) body inside (by omega)
  rw [deeper] at good bad
  rw [accept_of_lt room]
  show (_ → (body ++ [closing]).foldlM Progress.take _ = _) ∧
    (_ → TooDeep ((body ++ [closing]).foldlM Progress.take _))
  rw [List.foldlM_append]
  by_cases within' : inner.Fits (Progress.depth ⟨none, frame, outer⟩ + 1)
  · obtain ⟨x, left, run, joined⟩ := good within'
    rw [run]
    refine ⟨fun _ => ?_, fun exceeds => absurd within' exceeds⟩
    show [closing].foldlM Progress.take _ = _
    rw [closed, joined]
    rfl
  · refine ⟨fun fits => absurd fits within', fun _ => ?_⟩
    rcases bad within' with deep | ⟨x, left, run, deep⟩
    · exact deep.bind _
    · rw [run]
      show TooDeep ([closing].foldlM Progress.take _)
      rw [closed]
      exact deep.bind _

theorem completes_and {only : Derivation .unary} (ih : only.CompletesOperand) :
    only.and.CompletesAnd := by
  intro left outer ts same within
  obtain ⟨good, bad⟩ := ih ⟨left, none, []⟩ outer ts same within
  exact ⟨fun fits => good ⟨fits.nesting, fits.height⟩,
    fun exceeds => bad fun fits => exceeds ⟨fits.nesting, fits.height⟩⟩

theorem completes_andMore {chain : Derivation .and} {last : Derivation .unary}
    (ih : chain.CompletesAnd) (next : last.CompletesOperand) :
    (chain.andMore last).CompletesAnd := by
  intro left outer ts same within
  obtain ⟨before, rest, rfl, first, tail⟩ := List.map_eq_append_iff.mp same
  obtain ⟨t, after, rfl, mark, second⟩ := List.map_eq_cons_iff.mp tail
  obtain ⟨good, bad⟩ := ih left outer before first within
  obtain ⟨good', bad'⟩ := next ⟨left, some ⟨chain.operand, t.position⟩, []⟩ outer after second
    within
  have taken : (t :: after).foldlM Progress.take ⟨some chain.operand, ⟨left, none, []⟩, outer⟩ =
      after.foldlM Progress.take
        ⟨none, ⟨left, some ⟨chain.operand, t.position⟩, []⟩, outer⟩ := by
    simp only [List.foldlM_cons, Progress.take, Progress.takeOperator, mark]
    rfl
  rw [List.foldlM_append, fits_andMore]
  by_cases inside : chain.Fits (Progress.depth ⟨none, ⟨left, none, []⟩, outer⟩)
  case neg => exact ⟨fun fits => absurd fits.1.1 inside, fun _ => (bad inside).bind _⟩
  rw [good inside]
  show (_ → (t :: after).foldlM Progress.take _ = _) ∧
    (_ → TooDeep ((t :: after).foldlM Progress.take _))
  rw [taken]
  by_cases inside' : last.Fits (Progress.depth ⟨none, ⟨left, none, []⟩, outer⟩)
  case neg => exact ⟨fun fits => absurd fits.1.2 inside', fun _ => bad' inside'⟩
  rw [good' inside']
  show (_ → (Operand.join .and (some ⟨chain.operand, t.position⟩) last.operand >>= _) = _) ∧
    (_ → TooDeep (Operand.join .and (some ⟨chain.operand, t.position⟩) last.operand >>= _))
  by_cases low : max chain.tree.height last.tree.height < maxNesting
  · rw [join_of_lt low]
    exact ⟨fun _ => rfl, fun exceeds => absurd ⟨⟨inside, inside'⟩, low⟩ exceeds⟩
  · exact ⟨fun fits => absurd fits.2 low,
      fun _ => (join_of_le (Nat.le_of_not_lt low) t.position).bind _⟩

theorem completes_or {only : Derivation .and} (ih : only.CompletesAnd) :
    only.or.CompletesOr := by
  intro outer ts same within
  obtain ⟨good, bad⟩ := ih none outer ts same within
  exact ⟨fun fits => ⟨only.operand, none, good ⟨fits.nesting, fits.height⟩, rfl⟩,
    fun exceeds => .inl (bad fun fits => exceeds ⟨fits.nesting, fits.height⟩)⟩

theorem completes_orMore {chain : Derivation .or} {last : Derivation .and}
    (ih : chain.CompletesOr) (next : last.CompletesAnd) : (chain.orMore last).CompletesOr := by
  intro outer ts same within
  obtain ⟨before, rest, rfl, first, tail⟩ := List.map_eq_append_iff.mp same
  obtain ⟨t, after, rfl, mark, second⟩ := List.map_eq_cons_iff.mp tail
  obtain ⟨good, bad⟩ := ih outer before first within
  obtain ⟨good', bad'⟩ := next (some ⟨chain.operand, t.position⟩) outer after second within
  have taken (x : Operand) (left : Option Waiting) :
      (t :: after).foldlM Progress.take ⟨some x, ⟨left, none, []⟩, outer⟩ =
        (Operand.join .or left x >>= fun whole => after.foldlM Progress.take
          ⟨none, ⟨some ⟨whole, t.position⟩, none, []⟩, outer⟩) := by
    simp only [List.foldlM_cons, Progress.take, Progress.takeOperator, mark, bind_assoc]
    rfl
  rw [List.foldlM_append, fits_orMore]
  by_cases inside : chain.Fits (Progress.depth ⟨none, .empty, outer⟩)
  case neg =>
    refine ⟨fun fits => absurd fits.1.1 inside, fun _ => .inl ?_⟩
    rcases bad inside with deep | ⟨x, left, run, deep⟩
    · exact deep.bind _
    · rw [run]
      show TooDeep ((t :: after).foldlM Progress.take _)
      rw [taken]
      exact deep.bind _
  obtain ⟨x, left, run, joined⟩ := good inside
  have going : (before.foldlM Progress.take ⟨none, .empty, outer⟩ >>= fun q =>
      (t :: after).foldlM Progress.take q) = after.foldlM Progress.take
        ⟨none, ⟨some ⟨chain.operand, t.position⟩, none, []⟩, outer⟩ := by
    rw [run]
    show (t :: after).foldlM Progress.take _ = _
    rw [taken, joined]
    rfl
  rw [going]
  by_cases inside' : last.Fits (Progress.depth ⟨none, .empty, outer⟩)
  case neg => exact ⟨fun fits => absurd fits.1.2 inside', fun _ => .inl (bad' inside')⟩
  rw [good' inside']
  by_cases low : max chain.tree.height last.tree.height < maxNesting
  · exact ⟨fun _ => ⟨_, _, rfl, join_of_lt low _⟩,
      fun exceeds => absurd ⟨⟨inside, inside'⟩, low⟩ exceeds⟩
  · exact ⟨fun fits => absurd fits.2 low,
      fun _ => .inr ⟨_, _, rfl, join_of_le (Nat.le_of_not_lt low) _⟩⟩

/-- What the machine does with the tokens of a derivation. -/
def Completes : (rule : Rule) → Derivation rule → Prop
  | .or, d => d.CompletesOr
  | .and, d => d.CompletesAnd
  | .unary, d | .primary, d => d.CompletesOperand

theorem completes (d : Derivation rule) : Completes rule d := by
  induction d with
  | or only ih => exact completes_or ih
  | orMore chain last left right => exact completes_orMore left right
  | and only ih => exact completes_and ih
  | andMore chain last left right => exact completes_andMore left right
  | not argument ih => exact completes_not ih
  | primary only ih =>
      intro frame outer ts same within
      obtain ⟨good, bad⟩ := ih frame outer ts same within
      exact ⟨fun fits => good ⟨fits.nesting, fits.height⟩,
        fun exceeds => bad fun fits => exceeds ⟨fits.nesting, fits.height⟩⟩
  | word text =>
      refine completes_leaf rfl rfl rfl ?_
      rw [tree]
      split
      · rfl
      · rfl
  | quoted text => exact completes_leaf rfl rfl rfl rfl
  | group inner ih => exact completes_group ih

end Derivation

/-- The tokens of a derivation have its tree, unless that exceeds a limit. -/
theorem parseTokens_of_derivation {d : Derivation .or} {ts : List Placed}
    (same : ts.map Placed.token = d.tokens) (textEnd : Nat) :
    (d.Fits 0 → parseTokens ts textEnd = .ok d.tree) ∧
      (¬ d.Fits 0 → TooDeep (parseTokens ts textEnd)) := by
  have nonempty : ts.isEmpty = false := by
    cases ts with
    | nil => exact absurd same.symm d.tokens_ne_nil
    | cons => rfl
  obtain ⟨good, bad⟩ := d.completes [] ts same (Nat.zero_le _)
  have parts : parseTokens ts textEnd = (ts.foldlM Progress.take Progress.start >>= fun progress =>
      progress.finish textEnd >>= fun x => .ok x.node) := by
    rw [parseTokens, nonempty]
    rfl
  rw [parts]
  constructor
  · intro fits
    obtain ⟨x, left, run, joined⟩ := good fits
    show (ts.foldlM Progress.take ⟨none, .empty, []⟩ >>= _) = _
    rw [run]
    show (Progress.finish ⟨some x, ⟨left, none, []⟩, []⟩ textEnd >>= _) = _
    rw [Progress.finish]
    simp only [joined]
    rfl
  · intro exceeds
    rcases bad exceeds with deep | ⟨x, left, run, deep⟩
    · exact deep.bind _
    · show TooDeep (ts.foldlM Progress.take ⟨none, .empty, []⟩ >>= _)
      rw [run]
      exact (deep.bind _).bind _

/-- The tokens of a waiting left operand and of its operator. -/
inductive Awaits (rule : Rule) (link : Token) : Option Waiting → List Token → Prop
  | nothing : Awaits rule link none []
  | operand (w : Waiting) (left : Derivation rule) :
      Awaits rule link (some w) (left.tokens ++ [link])

/-- The tokens of a frame up to the operand that is due. -/
def Frame.Reads (frame : Frame) (ts : List Token) : Prop :=
  ∃ ors ands, Awaits .or .or frame.orLeft ors ∧ Awaits .and .and frame.andLeft ands ∧
    ts = ors ++ (ands ++ List.replicate frame.negations.length .not)

/-- The tokens of the frames around the present one, each with its parenthesis. -/
inductive Surrounds : List (Nat × Frame) → List Token → Prop
  | nothing : Surrounds [] []
  | frame {position : Nat} {frame : Frame} {outer : List (Nat × Frame)} {before ts : List Token}
      (around : Surrounds outer before) (reads : frame.Reads ts) :
      Surrounds ((position, frame) :: outer) (before ++ ts ++ [.opening])

/-- The tokens that have led to a state. -/
def Progress.Reads (p : Progress) (ts : List Token) : Prop :=
  ∃ before, Surrounds p.outer before ∧
    match p.operand with
    | none => ∃ inside, p.frame.Reads inside ∧ ts = before ++ inside
    | some _ => ∃ ors, ∃ chain : Derivation .and, Awaits .or .or p.frame.orLeft ors ∧
        p.frame.andLeft = none ∧ p.frame.negations = [] ∧ ts = before ++ (ors ++ chain.tokens)

theorem Progress.start_reads : Progress.start.Reads [] :=
  ⟨[], .nothing, [], ⟨[], [], .nothing, .nothing, rfl⟩, rfl⟩

theorem exists_negated (d : Derivation .primary) (count : Nat) :
    ∃ u : Derivation .unary, u.tokens = List.replicate count .not ++ d.tokens := by
  induction count with
  | zero => exact ⟨.primary d, rfl⟩
  | succ count ih =>
      obtain ⟨u, same⟩ := ih
      refine ⟨.not u, ?_⟩
      rw [Derivation.tokens, same]
      rfl

theorem Awaits.and {waiting : Option Waiting} {ts : List Token}
    (awaits : Awaits .and .and waiting ts) (u : Derivation .unary) :
    ∃ chain : Derivation .and, chain.tokens = ts ++ u.tokens := by
  cases awaits with
  | nothing => exact ⟨.and u, rfl⟩
  | operand w left => exact ⟨.andMore left u, by simp [Derivation.tokens]⟩

theorem Awaits.or {waiting : Option Waiting} {ts : List Token}
    (awaits : Awaits .or .or waiting ts) (chain : Derivation .and) :
    ∃ d : Derivation .or, d.tokens = ts ++ chain.tokens := by
  cases awaits with
  | nothing => exact ⟨.or chain, rfl⟩
  | operand w left => exact ⟨.orMore left chain, by simp [Derivation.tokens]⟩

/-- The operand that is due takes its negations and the waiting and. -/
theorem Frame.Reads.chain {frame : Frame} {ts : List Token} (reads : frame.Reads ts)
    (due : Derivation .primary) :
    ∃ ors, ∃ chain : Derivation .and, Awaits .or .or frame.orLeft ors ∧
      ors ++ chain.tokens = ts ++ due.tokens := by
  obtain ⟨ors, ands, left, right, rfl⟩ := reads
  obtain ⟨u, negated⟩ := exists_negated due frame.negations.length
  obtain ⟨chain, joined⟩ := right.and u
  refine ⟨ors, chain, left, ?_⟩
  rw [joined, negated]
  simp only [List.append_assoc]

theorem Progress.complete_reads {p q : Progress} {x : Operand} {before inside : List Token}
    (around : Surrounds p.outer before) (reads : p.frame.Reads inside) (d : Derivation .primary)
    (done : p.complete x = .ok q) : q.Reads (before ++ inside ++ d.tokens) := by
  obtain ⟨ors, chain, left, same⟩ := reads.chain d
  obtain ⟨y, _, rest⟩ := bind_eq_ok.mp done
  obtain ⟨z, _, rest⟩ := bind_eq_ok.mp rest
  cases rest
  refine ⟨before, around, ors, chain, left, rfl, rfl, ?_⟩
  rw [same, List.append_assoc]

theorem Frame.empty_reads : Frame.empty.Reads [] := ⟨[], [], .nothing, .nothing, rfl⟩

theorem Frame.Reads.negate {frame : Frame} {ts : List Token} (reads : frame.Reads ts)
    (position : Nat) :
    Frame.Reads { frame with negations := position :: frame.negations } (ts ++ [.not]) := by
  obtain ⟨ors, ands, left, right, rfl⟩ := reads
  refine ⟨ors, ands, left, right, ?_⟩
  rw [List.length_cons, List.replicate_succ']
  simp only [List.append_assoc]

theorem exists_leaf {t : Token} {node : Node} (leaf : leaf? t = some node) :
    ∃ d : Derivation .primary, d.tokens = [t] := by
  cases t with
  | word text => exact ⟨.word text, rfl⟩
  | quoted text => exact ⟨.quoted text, rfl⟩
  | and | or | not | opening | closing => cases leaf

theorem Progress.takeOperand_reads {p q : Progress} {before inside : List Token} {t : Placed}
    (around : Surrounds p.outer before) (due : p.operand = none) (reads : p.frame.Reads inside)
    (taken : p.takeOperand t = .ok q) : q.Reads (before ++ inside ++ [t.token]) := by
  rw [Progress.takeOperand] at taken
  split at taken
  · rename_i node leaf
    obtain ⟨d, same⟩ := exists_leaf leaf
    rw [← same]
    exact complete_reads around reads d taken
  · split at taken
    · rename_i mark
      obtain ⟨_, _, rest⟩ := bind_eq_ok.mp taken
      cases rest
      refine ⟨before, around, ?_⟩
      rw [due, mark, List.append_assoc]
      exact ⟨inside ++ [.not], reads.negate t.position, rfl⟩
    · rename_i mark
      obtain ⟨_, _, rest⟩ := bind_eq_ok.mp taken
      cases rest
      refine ⟨before ++ inside ++ [t.token], ?_, ?_⟩
      · rw [mark]
        exact .frame around reads
      · rw [due]
        exact ⟨[], Frame.empty_reads, (List.append_nil _).symm⟩
    · cases taken

theorem Progress.takeOperator_reads {p q : Progress} {x : Operand} {t : Placed}
    {before ors : List Token} {chain : Derivation .and} (around : Surrounds p.outer before)
    (left : Awaits .or .or p.frame.orLeft ors) (fresh : p.frame.negations = [])
    (taken : p.takeOperator x t = .ok q) :
    q.Reads (before ++ (ors ++ chain.tokens) ++ [t.token]) := by
  rw [Progress.takeOperator] at taken
  split at taken
  · rename_i mark
    cases taken
    refine ⟨before, around, ors ++ (chain.tokens ++ [.and]),
      ⟨ors, chain.tokens ++ [.and], left, .operand ⟨x, t.position⟩ chain, ?_⟩, ?_⟩
    · simp only [fresh, List.length_nil, List.replicate_zero, List.append_nil]
    · simp only [mark, List.append_assoc]
  · obtain ⟨whole, _, rest⟩ := bind_eq_ok.mp taken
    obtain ⟨d, same⟩ := left.or chain
    rw [← same]
    split at rest
    · rename_i mark
      cases rest
      refine ⟨before, around, d.tokens ++ [.or],
        ⟨d.tokens ++ [.or], [], .operand ⟨whole, t.position⟩ d, .nothing,
          (List.append_nil _).symm⟩, ?_⟩
      rw [mark, List.append_assoc]
    · cases rest
    · rename_i position frame outer mark nested
      rw [nested] at around
      cases around with
      | frame around reads =>
          have closed := complete_reads (p := ⟨none, frame, outer⟩) around reads (.group d) rest
          simpa only [mark, Derivation.tokens, List.append_assoc, List.singleton_append,
            List.cons_append, List.nil_append] using closed
    · cases rest
    · cases rest

theorem Progress.take_reads {p q : Progress} {ts : List Token} {t : Placed} (reads : p.Reads ts)
    (taken : p.take t = .ok q) : q.Reads (ts ++ [t.token]) := by
  obtain ⟨before, around, reads⟩ := reads
  rw [Progress.take] at taken
  split at taken
  · rename_i due
    rw [due] at reads
    obtain ⟨inside, reads, rfl⟩ := reads
    exact takeOperand_reads around due reads taken
  · rename_i x done
    rw [done] at reads
    obtain ⟨ors, chain, left, _, fresh, rfl⟩ := reads
    exact takeOperator_reads around left fresh taken

theorem Progress.run_reads {p q : Progress} {before : List Token} {ts : List Placed}
    (reads : p.Reads before) (run : ts.foldlM Progress.take p = .ok q) :
    q.Reads (before ++ ts.map Placed.token) := by
  induction ts generalizing p before with
  | nil =>
      cases run
      rwa [List.map_nil, List.append_nil]
  | cons t ts ih =>
      rw [List.foldlM_cons] at run
      obtain ⟨next, taken, rest⟩ := bind_eq_ok.mp run
      have all := ih (take_reads reads taken) rest
      rwa [List.append_assoc, List.singleton_append] at all

theorem Progress.finish_reads {p : Progress} {ts : List Token} {x : Operand} {textEnd : Nat}
    (reads : p.Reads ts) (finished : p.finish textEnd = .ok x) :
    ∃ d : Derivation .or, d.tokens = ts := by
  obtain ⟨before, around, reads⟩ := reads
  rw [Progress.finish] at finished
  split at finished
  · cases finished
  · rename_i y done
    obtain ⟨whole, _, rest⟩ := bind_eq_ok.mp finished
    rw [done] at reads
    obtain ⟨ors, chain, left, _, _, rfl⟩ := reads
    obtain ⟨d, same⟩ := left.or chain
    split at rest
    · rename_i flat
      rw [flat] at around
      cases around
      exact ⟨d, same⟩
    · cases rest

/-- Tokens that the machine takes have a derivation. -/
theorem derivation_of_parseTokens {ts : List Placed} {textEnd : Nat} {tree : Node}
    (parsed : parseTokens ts textEnd = .ok tree) :
    ∃ d : Derivation .or, d.tokens = ts.map Placed.token := by
  rw [parseTokens] at parsed
  split at parsed
  · cases parsed
  · obtain ⟨p, run, rest⟩ := bind_eq_ok.mp parsed
    obtain ⟨x, finished, _⟩ := bind_eq_ok.mp rest
    exact Progress.finish_reads (Progress.run_reads Progress.start_reads run) finished

theorem parseTokens_eq_ok {ts : List Placed} {textEnd : Nat} {tree : Node} :
    parseTokens ts textEnd = .ok tree ↔
      ∃ d : Derivation .or, d.tokens = ts.map Placed.token ∧ d.tree = tree ∧ d.Fits 0 := by
  constructor
  · intro accepted
    obtain ⟨d, same⟩ := derivation_of_parseTokens accepted
    obtain ⟨good, bad⟩ := parseTokens_of_derivation same.symm textEnd
    by_cases within : d.Fits 0
    · exact ⟨d, same, Except.ok.inj ((good within).symm.trans accepted), within⟩
    · obtain ⟨position, refused⟩ := bad within
      cases refused.symm.trans accepted
  · rintro ⟨d, same, rfl, within⟩
    exact (parseTokens_of_derivation same.symm textEnd).1 within

theorem Derivation.fits_zero {rule : Rule} {d : Derivation rule} :
    d.Fits 0 ↔ d.nesting ≤ 256 ∧ d.tree.height ≤ 256 := by
  constructor
  · rintro ⟨shallow, low⟩
    exact ⟨Nat.zero_add d.nesting ▸ shallow, low⟩
  · rintro ⟨shallow, low⟩
    exact ⟨(Nat.zero_add d.nesting).symm ▸ shallow, low⟩

theorem parseText_of_scan {text : String} {ts : List Placed}
    (scanned : scan text.toList = .ok ts) :
    parseText text = parseTokens ts (textSize text.toList) := by
  rw [parseText, scanned]
  rfl

/-- The parser accepts exactly the grammar, within the limits: a text that can be scanned has a tree
if its tokens are derived with at most 256 negations and parentheses around a leaf and the tree of
the derivation, which is the only one, is at most 256 high; beyond a limit the message says so. -/
theorem parseText_accepts_grammar {text : String} {ts : List Placed}
    (scanned : scan text.toList = .ok ts) :
    (∀ t, parseText text = .ok t ↔ ∃ d : Derivation .or, d.tokens = ts.map Placed.token ∧
      d.tree = t ∧ d.nesting ≤ 256 ∧ t.height ≤ 256) ∧
    (∀ d e : Derivation .or, d.tokens = ts.map Placed.token → e.tokens = ts.map Placed.token →
      d = e) ∧
    ∀ d : Derivation .or, d.tokens = ts.map Placed.token →
      d.tree.leaves = (ts.map Placed.token).filterMap leaf? ∧
      (256 < d.nesting ∨ 256 < d.tree.height →
        ∃ e, parseText text = .error e ∧ e.message = "query nested too deeply") := by
  rw [parseText_of_scan scanned]
  refine ⟨fun t => ?_, fun d e first second => ?_, fun d same => ⟨?_, fun exceeds => ?_⟩⟩
  · rw [parseTokens_eq_ok]
    constructor
    · rintro ⟨d, same, rfl, within⟩
      exact ⟨d, same, rfl, Derivation.fits_zero.mp within⟩
    · rintro ⟨d, same, rfl, limits⟩
      exact ⟨d, same, rfl, Derivation.fits_zero.mpr limits⟩
  · exact d.eq_of_tokens e (first.trans second.symm)
  · rw [d.leaves_tree, same]
  · have outside : ¬ d.Fits 0 := fun within => by
      have limits := Derivation.fits_zero.mp within
      omega
    obtain ⟨position, refused⟩ := (parseTokens_of_derivation same.symm _).2 outside
    exact ⟨_, refused, rfl⟩

theorem parseText_mixed :
    scan "!a | b&(7)".toList = .ok [⟨0, .not⟩, ⟨1, .word "a"⟩, ⟨3, .or⟩, ⟨5, .word "b"⟩, ⟨6, .and⟩,
      ⟨7, .opening⟩, ⟨8, .word "7"⟩, ⟨9, .closing⟩] ∧
    parseText "!a | b&(7)" = .ok (.binary .or (.not (.identifier "a"))
      (.binary .and (.identifier "b") (.literal "7"))) := by
  have scanned : scan "!a | b&(7)".toList = .ok [⟨0, .not⟩, ⟨1, .word "a"⟩, ⟨3, .or⟩,
      ⟨5, .word "b"⟩, ⟨6, .and⟩, ⟨7, .opening⟩, ⟨8, .word "7"⟩, ⟨9, .closing⟩] := by
    with_unfolding_all rfl
  have accepted := (parseText_accepts_grammar scanned).1
  let left : Derivation .or := .or (.and (.not (.primary (.word "a"))))
  let group : Derivation .primary := .group (.or (.and (.primary (.word "7"))))
  let right : Derivation .and := .andMore (.and (.primary (.word "b"))) (.primary group)
  exact ⟨scanned, (accepted _).mpr
    ⟨.orMore left right, rfl, rfl, by decide, by decide⟩⟩

end ImageSearch.Query
