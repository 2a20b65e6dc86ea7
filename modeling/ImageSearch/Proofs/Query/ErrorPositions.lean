import ImageSearch.Proofs.Query.Acceptance
import ImageSearch.Proofs.Query.Lexemes

set_option autoImplicit false

namespace ImageSearch.Query

/-- A query begins with these tokens. -/
def Completable (ts : List Token) : Prop :=
  ∃ (d : Derivation .or) (more : List Token), d.tokens = ts ++ more

theorem Completable.of_append {ts : List Token} (more : List Token)
    (completable : Completable (ts ++ more)) :
    Completable ts := by
  obtain ⟨d, rest, same⟩ := completable
  exact ⟨d, more ++ rest, by rw [same, List.append_assoc]⟩

theorem Frame.Reads.close {frame : Frame} {ts : List Token} (reads : frame.Reads ts)
    (due : Derivation .primary) : ∃ d : Derivation .or, d.tokens = ts ++ due.tokens := by
  obtain ⟨ors, chain, left, same⟩ := reads.chain due
  obtain ⟨d, whole⟩ := left.or chain
  exact ⟨d, whole.trans same⟩

/-- A whole query inside is the operand that the frame around it waits for. -/
theorem Surrounds.close {outer : List (Nat × Frame)} {before : List Token}
    (around : Surrounds outer before) (inner : Derivation .or) :
    Completable (before ++ inner.tokens) := by
  induction around generalizing inner with
  | nothing => exact ⟨inner, [], (List.append_nil _).symm⟩
  | @frame _ frame outer before ts around reads ih =>
      obtain ⟨d, same⟩ := reads.close (.group inner)
      have whole := ih d
      rw [same] at whole
      apply Completable.of_append [.closing]
      simpa only [Derivation.tokens, List.append_assoc, List.cons_append, List.nil_append]
        using whole

theorem Progress.Reads.completable {p : Progress} {ts : List Token} (reads : p.Reads ts) :
    Completable ts := by
  obtain ⟨before, around, reads⟩ := reads
  split at reads
  · obtain ⟨inside, reads, rfl⟩ := reads
    obtain ⟨d, same⟩ := reads.close (.word "")
    have whole := around.close d
    rw [same, ← List.append_assoc] at whole
    exact whole.of_append _
  · obtain ⟨ors, chain, left, _, _, rfl⟩ := reads
    obtain ⟨d, same⟩ := left.or chain
    rw [← same]
    exact around.close d

theorem completable_of_run {p : Progress} {ts : List Placed}
    (run : ts.foldlM Progress.take Progress.start = .ok p) :
    Completable (ts.map Placed.token) :=
  (Progress.run_reads Progress.start_reads run).completable

/-- The error is about the depth of a query, or stands at this position. -/
def ParseError.Blames (e : ParseError) (position : Nat) : Prop :=
  e.fault = .tooDeep ∨ e.position = position

variable {e : ParseError}

theorem grow_error {height position : Nat} (failed : grow height position = .error e) :
    e.fault = .tooDeep := by
  rw [grow] at failed
  split at failed
  · cases failed
    rfl
  · cases failed

theorem accept_error {p : Progress} {position : Nat} (failed : p.accept position = .error e) :
    e.fault = .tooDeep := by
  rw [Progress.accept] at failed
  split at failed
  · cases failed
    rfl
  · cases failed

theorem negate_error {x : Operand} {position : Nat} (failed : x.negate position = .error e) :
    e.fault = .tooDeep := by
  rcases bind_eq_error.mp failed with high | ⟨height, _, rest⟩
  · exact grow_error high
  · cases rest

theorem join_error {op : BinaryOp} {left : Option Waiting} {right : Operand}
    (failed : Operand.join op left right = .error e) : e.fault = .tooDeep := by
  cases left with
  | none => cases failed
  | some w =>
      rcases bind_eq_error.mp failed with high | ⟨height, _, rest⟩
      · exact grow_error high
      · cases rest

theorem complete_error {p : Progress} {x : Operand} (failed : p.complete x = .error e) :
    e.fault = .tooDeep := by
  rcases bind_eq_error.mp failed with negations | ⟨y, _, rest⟩
  · obtain ⟨_, position, _, y, _, _, high⟩ := foldlM_eq_error.mp negations
    exact negate_error high
  · rcases bind_eq_error.mp rest with high | ⟨z, _, rest⟩
    · exact join_error high
    · cases rest

theorem takeOperand_error {p : Progress} {t : Placed} (failed : p.takeOperand t = .error e) :
    e.Blames t.position := by
  rw [Progress.takeOperand] at failed
  split at failed
  · exact .inl (complete_error failed)
  · split at failed
    · rcases bind_eq_error.mp failed with deep | ⟨_, _, rest⟩
      · exact .inl (accept_error deep)
      · cases rest
    · rcases bind_eq_error.mp failed with deep | ⟨_, _, rest⟩
      · exact .inl (accept_error deep)
      · cases rest
    · cases failed
      exact .inr rfl

theorem takeOperator_error {p : Progress} {x : Operand} {t : Placed}
    (failed : p.takeOperator x t = .error e) : e.Blames t.position := by
  rw [Progress.takeOperator] at failed
  split at failed
  · cases failed
  · rcases bind_eq_error.mp failed with high | ⟨whole, _, rest⟩
    · exact .inl (join_error high)
    · split at rest
      · cases rest
      · cases rest
        exact .inr rfl
      · exact .inl (complete_error rest)
      · cases rest
        exact .inr rfl
      · cases rest
        exact .inr rfl

theorem take_error {p : Progress} {t : Placed} (failed : p.take t = .error e) :
    e.Blames t.position := by
  rw [Progress.take] at failed
  split at failed
  · exact takeOperand_error failed
  · exact takeOperator_error failed

theorem finish_error {p : Progress} {textEnd : Nat} (failed : p.finish textEnd = .error e) :
    e.Blames textEnd := by
  rw [Progress.finish] at failed
  split at failed
  · cases failed
    exact .inr rfl
  · rcases bind_eq_error.mp failed with high | ⟨whole, _, rest⟩
    · exact .inl (join_error high)
    · split at rest
      · cases rest
      · cases rest
        exact .inr rfl

theorem parseTokens_eq_error {ts : List Placed} (nonempty : ts ≠ []) {textEnd : Nat} :
    parseTokens ts textEnd = .error e ↔ ts.foldlM Progress.take Progress.start = .error e ∨
      ∃ p, ts.foldlM Progress.take Progress.start = .ok p ∧ p.finish textEnd = .error e := by
  have parts : parseTokens ts textEnd = (ts.foldlM Progress.take Progress.start >>= fun progress =>
      progress.finish textEnd >>= fun x => .ok x.node) := by
    rw [parseTokens, if_neg (by rwa [List.isEmpty_iff])]
    rfl
  have last (p : Progress) : (p.finish textEnd >>= fun x => .ok x.node) = .error e ↔
      p.finish textEnd = .error e := by
    rw [bind_eq_error]
    refine or_iff_left ?_
    rintro ⟨x, _, rest⟩
    cases rest
  simp only [parts, bind_eq_error, last]

/-- Tokens that are refused for another reason than their depth have no derivation. -/
theorem not_derived {ts : List Placed} {textEnd : Nat} (refused : parseTokens ts textEnd = .error e)
    (shallow : e.fault ≠ .tooDeep) (d : Derivation .or) : d.tokens ≠ ts.map Placed.token := by
  intro same
  obtain ⟨good, bad⟩ := parseTokens_of_derivation same.symm textEnd
  by_cases fits : d.Fits 0
  · cases refused.symm.trans (good fits)
  · obtain ⟨position, deep⟩ := bad fits
    cases refused.symm.trans deep
    exact shallow rfl

/-- Whatever comes after a token that is refused, it is refused. -/
theorem not_completable_of_take {before : List Placed} {t : Placed} {p : Progress}
    (run : before.foldlM Progress.take Progress.start = .ok p) (failed : p.take t = .error e)
    (shallow : e.fault ≠ .tooDeep) : ¬ Completable ((before ++ [t]).map Placed.token) := by
  rintro ⟨d, more, same⟩
  let after : List Placed := more.map fun token => ⟨0, token⟩
  have stops : (before ++ t :: after).foldlM Progress.take Progress.start = .error e :=
    foldlM_eq_error.mpr ⟨before, t, after, p, rfl, run, failed⟩
  have refused : parseTokens (before ++ t :: after) 0 = .error e :=
    (parseTokens_eq_error (by simp)).mpr (.inl stops)
  apply not_derived refused shallow d
  have back : after.map Placed.token = more := by
    rw [List.map_map]
    exact List.map_id more
  simp only [same, List.map_append, List.map_cons, List.map_nil, back, List.append_assoc,
    List.singleton_append]

/-- The error stands at the first token that no query has there, or at the end of tokens that begin
a query and are none. -/
theorem parseTokens_blames {ts : List Placed} {textEnd : Nat} (nonempty : ts ≠ [])
    (refused : parseTokens ts textEnd = .error e) (shallow : e.fault ≠ .tooDeep) :
    (∃ before t after, ts = before ++ t :: after ∧ e.position = t.position ∧
      Completable (before.map Placed.token) ∧ ¬ Completable ((before ++ [t]).map Placed.token)) ∨
    (e.position = textEnd ∧ Completable (ts.map Placed.token)) := by
  rcases (parseTokens_eq_error nonempty).mp refused with stopped | ⟨p, run, failed⟩
  · obtain ⟨before, t, after, p, rfl, run, failed⟩ := foldlM_eq_error.mp stopped
    refine .inl ⟨before, t, after, rfl, (take_error failed).resolve_left shallow, ?_, ?_⟩
    · exact completable_of_run run
    · exact not_completable_of_take run failed shallow
  · exact .inr ⟨(finish_error failed).resolve_left shallow, completable_of_run run⟩

/-- Tokens up to one of them, by their ascending places. -/
theorem filter_ascending {before after : List Placed} {t : Placed}
    (ascending : (before ++ t :: after).Pairwise fun p q => p.position < q.position) :
    (before ++ t :: after).filter (fun p => p.position < t.position) = before ∧
      (before ++ t :: after).filter (fun p => p.position ≤ t.position) = before ++ [t] := by
  obtain ⟨_, later, across⟩ := List.pairwise_append.mp ascending
  have below (p : Placed) (among : p ∈ before) : p.position < t.position :=
    across p among t List.mem_cons_self
  have above (p : Placed) (among : p ∈ after) : t.position < p.position :=
    (List.pairwise_cons.mp later).1 p among
  constructor
  · rw [List.filter_append, List.filter_eq_self.mpr, List.filter_eq_nil_iff.mpr, List.append_nil]
    · intro p among
      rw [decide_eq_true_iff]
      rcases List.mem_cons.mp among with rfl | among
      · exact Nat.lt_irrefl _
      · exact Nat.lt_asymm (above p among)
    · intro p among
      exact decide_eq_true (below p among)
  · rw [List.filter_append, List.filter_eq_self.mpr, List.filter_cons_of_pos,
      List.filter_eq_nil_iff.mpr]
    · intro p among
      rw [decide_eq_true_iff]
      exact Nat.not_le_of_lt (above p among)
    · exact decide_eq_true (Nat.le_refl _)
    · intro p among
      exact decide_eq_true (Nat.le_of_lt (below p among))

/-- Syntax errors stand where they are made. When a text with tokens is refused for another reason
than its depth, the error stands at one of its tokens or at its end. The tokens before that place
begin a query; if a token stands there, no query begins with the tokens up to it, and at the end the
tokens are no query. -/
theorem parseText_error_position {text : String} {ts : List Placed} {e : ParseError}
    (scanned : scan text.toList = .ok ts) (nonempty : ts ≠ [])
    (refused : parseText text = .error e) (shallow : e.message ≠ "query nested too deeply") :
    ((∃ t ∈ ts, t.position = e.position) ∨ e.position = text.utf8ByteSize) ∧
    Completable ((ts.filter fun t => t.position < e.position).map Placed.token) ∧
    ((∃ t ∈ ts, t.position = e.position) →
      ¬ Completable ((ts.filter fun t => t.position ≤ e.position).map Placed.token)) ∧
    (e.position = text.utf8ByteSize → ∀ d : Derivation .or, d.tokens ≠ ts.map Placed.token) := by
  have layout := (scanFrom_eq_ok.mp scanned).layout
  have size : textSize text.toList = text.utf8ByteSize := by
    rw [textSize_eq, String.ofList_toList]
  have inside (t : Placed) (among : t ∈ ts) : t.position < text.utf8ByteSize := by
    have below := (layout.within t among).2
    omega
  have deep : e.fault ≠ .tooDeep := by
    intro same
    apply shallow
    rw [ParseError.message, same]
    rfl
  rw [parseText_of_scan scanned, size] at refused
  have underived := not_derived refused deep
  rcases parseTokens_blames nonempty refused deep with
    ⟨before, t, after, rfl, here, begun, stopped⟩ | ⟨there, begun⟩
  · obtain ⟨earlier, through⟩ := filter_ascending layout.ascending
    rw [here, earlier, through]
    have among : t ∈ before ++ t :: after := List.mem_append_right _ List.mem_cons_self
    exact ⟨.inl ⟨t, among, rfl⟩, begun, fun _ => stopped, fun _ => underived⟩
  · have all : ts.filter (fun t => t.position < e.position) = ts := by
      rw [List.filter_eq_self]
      intro t among
      rw [there]
      exact decide_eq_true (inside t among)
    rw [all]
    refine ⟨.inr there, begun, ?_, fun _ => underived⟩
    -- No token stands at the end of the text.
    rintro ⟨t, among, same⟩
    have below := inside t among
    omega

/-- After an and an or cannot come; the parenthesis that is open before it is not blamed. -/
theorem parseText_misplaced_or :
    scan "(a & | b".toList = .ok [⟨0, .opening⟩, ⟨1, .word "a"⟩, ⟨3, .and⟩, ⟨5, .or⟩,
      ⟨7, .word "b"⟩] ∧
    parseText "(a & | b" = .error ⟨.expectedOperand .or, 5⟩ ∧
    Completable [.opening, .word "a", .and] ∧
    ¬ Completable [.opening, .word "a", .and, .or] := by
  have scanned : scan "(a & | b".toList = .ok [⟨0, .opening⟩, ⟨1, .word "a"⟩, ⟨3, .and⟩, ⟨5, .or⟩,
      ⟨7, .word "b"⟩] := by
    with_unfolding_all rfl
  have refused : parseText "(a & | b" = .error ⟨.expectedOperand .or, 5⟩ := by
    rw [parseText_of_scan scanned]
    rfl
  obtain ⟨_, begun, stopped, _⟩ := parseText_error_position scanned (List.cons_ne_nil _ _) refused
    (by decide)
  exact ⟨scanned, refused, begun, stopped ⟨⟨5, .or⟩, by simp, rfl⟩⟩

end ImageSearch.Query
