import ImageSearch.Discovery
import ImageSearch.Proofs.Path.Parent

set_option autoImplicit false

namespace ImageSearch.Path

def unrooted (p : Path) : List Char :=
  if p.isRooted then p.text.toList.drop 1 else p.text.toList

/-- The names and turns back between the slashes of a text. -/
def stepsOf (cs : List Char) : List Component :=
  (Text.splitOnChar (· == '/') cs).filterMap component?

def steps (p : Path) : List Component := stepsOf p.unrooted

/-- A path without root whose first segment is a dot. -/
def beginsAtDot (p : Path) : Bool := !p.isRooted && p.segments.head? == some ['.']

theorem segments_eq (p : Path) : p.segments = p.unrooted.splitOnP (· == '/') :=
  Text.splitOnChar_eq_splitOnP _ _

theorem mem_unrooted {p : Path} {c : Char} (other : c ≠ '/') :
    c ∈ p.unrooted ↔ c ∈ p.text.toList := by
  rw [unrooted]
  split
  · rename_i rooted
    rw [isRooted, beq_iff_eq, List.head?_eq_some_iff] at rooted
    obtain ⟨rest, text⟩ := rooted
    rw [text, List.drop_one, List.tail_cons, List.mem_cons]
    exact (or_iff_right other).symm
  · rfl

theorem exists_segment_of_mem {p : Path} {c : Char} (mem : c ∈ p.text.toList) (other : c ≠ '/') :
    ∃ segment ∈ p.segments, c ∈ segment :=
  Text.exists_mem_splitOnChar ((mem_unrooted other).mpr mem) (beq_eq_false_iff_ne.mpr other)

theorem mem_of_mem_segment {p : Path} {segment : List Char} (among : segment ∈ p.segments)
    {c : Char} (mem : c ∈ segment) : c ∈ p.text.toList := by
  have other : c ≠ '/' := fun slash => slash_not_mem among (slash ▸ mem)
  exact (mem_unrooted other).mp (Text.mem_splitOnChar among c mem).1

theorem stepsOf_eq (cs : List Char) :
    stepsOf cs = (cs.splitOnP (· == '/')).filterMap component? := by
  rw [stepsOf, Text.splitOnChar_eq_splitOnP]

theorem stepsOf_append_slash (front back : List Char) :
    stepsOf (front ++ '/' :: back) = stepsOf front ++ stepsOf back := by
  rw [stepsOf_eq, stepsOf_eq, stepsOf_eq, List.splitOnP_append_cons front back rfl,
    List.filterMap_append]

theorem splitOnP_piece {piece : List Char} (whole : '/' ∉ piece) :
    piece.splitOnP (· == '/') = [piece] :=
  List.splitOnP_eq_singleton fun _ mem => beq_eq_false_iff_ne.mpr fun slash => whole (slash ▸ mem)

theorem stepsOf_piece {piece : List Char} (whole : '/' ∉ piece) :
    stepsOf piece = (component? piece).toList := by
  rw [stepsOf_eq, splitOnP_piece whole]
  cases meaning : component? piece with
  | none => simp [meaning]
  | some c => simp [meaning]

theorem component?_ne_current (segment : List Char) : component? segment ≠ some .current := by
  unfold component?
  split <;> simp

theorem component?_ne_root (segment : List Char) : component? segment ≠ some .root := by
  unfold component?
  split <;> simp

theorem current_not_mem_steps (p : Path) : .current ∉ p.steps := by
  intro mem
  obtain ⟨segment, _, meaning⟩ := List.mem_filterMap.mp mem
  exact component?_ne_current segment meaning

theorem root_not_mem_steps (p : Path) : .root ∉ p.steps := by
  intro mem
  obtain ⟨segment, _, meaning⟩ := List.mem_filterMap.mp mem
  exact component?_ne_root segment meaning

/-- A path is its root or leading dot, and then its steps. -/
theorem components_eq_steps (p : Path) :
    p.components = (if p.isRooted then [.root] else []) ++
      ((if p.beginsAtDot then [.current] else []) ++ p.steps) := by
  have steps : p.steps = p.segments.filterMap component? := rfl
  rw [components_eq, steps, beginsAtDot]
  congr 1
  cases p.segments with
  | nil => cases p.isRooted <;> rfl
  | cons first rest =>
      have later : (rest.map component?).filterMap id = rest.filterMap component? := by
        rw [List.filterMap_map]
        rfl
      cases rooted : p.isRooted with
      | true =>
          rw [marks, leading?, List.filterMap_cons, List.filterMap_cons, later]
          rfl
      | false =>
          by_cases dot : first = ['.']
          · subst dot
            rw [marks, List.filterMap_cons, later]
            rfl
          · have plain : leading? false first = component? first := by simp [leading?, dot]
            rw [marks, plain, List.filterMap_cons, List.filterMap_cons, later]
            simp [dot]

/-- Without its leading dot a path is its root and its steps. -/
theorem filter_components (p : Path) :
    p.components.filter (· != .current) = (if p.isRooted then [.root] else []) ++ p.steps := by
  have steps : p.steps.filter (· != .current) = p.steps :=
    List.filter_eq_self.mpr fun c mem => bne_iff_ne.mpr fun dot =>
      p.current_not_mem_steps (dot ▸ mem)
  rw [components_eq_steps, List.filter_append, List.filter_append, steps]
  cases p.isRooted <;> cases p.beginsAtDot <;> rfl

section Join

variable {p : Path} {piece : String}

theorem isRooted_piece (whole : '/' ∉ piece.toList) : isRooted ⟨piece⟩ = false := by
  cases text : piece.toList with
  | nil => simp [isRooted, text]
  | cons c rest =>
      rw [text] at whole
      simpa [isRooted, text] using fun slash : c = '/' => whole (slash ▸ List.mem_cons_self)

/-- There is one slash between a path and a piece, unless the path ends in one. -/
theorem toList_join (filled : p.text ≠ "") (whole : '/' ∉ piece.toList) :
    ∃ front, (p.text.toList = front ∨ p.text.toList = front ++ ['/']) ∧
      (p.join ⟨piece⟩).text.toList = front ++ '/' :: piece.toList := by
  rw [join, isRooted_piece whole, if_neg Bool.false_ne_true, String.isEmpty_eq_false_iff.mpr filled,
    Bool.false_or]
  by_cases slash : p.text.toList.getLast? = some '/'
  · obtain ⟨front, text⟩ := List.getLast?_eq_some_iff.mp slash
    refine ⟨front, .inr text, ?_⟩
    rw [if_pos (beq_iff_eq.mpr slash), String.toList_append, text, List.append_assoc]
    rfl
  · refine ⟨p.text.toList, .inl rfl, ?_⟩
    rw [if_neg (mt beq_iff_eq.mp slash), String.toList_append, String.toList_append,
      List.append_assoc]
    rfl

/-- Every character of a joined path comes from one of the two, or is the slash between them. -/
theorem mem_toList_join {q : Path} {c : Char} (mem : c ∈ (p.join q).text.toList) :
    c ∈ p.text.toList ∨ c = '/' ∨ c ∈ q.text.toList := by
  rw [join] at mem
  split at mem
  · exact .inr (.inr mem)
  · split at mem
    · rw [String.toList_append] at mem
      exact (List.mem_append.mp mem).imp_right .inr
    · rw [String.toList_append, String.toList_append] at mem
      rcases List.mem_append.mp mem with front | after
      · refine (List.mem_append.mp front).imp_right fun slash => .inl ?_
        exact List.mem_singleton.mp slash
      · exact .inr (.inr after)

theorem isRooted_join (filled : p.text ≠ "") (whole : '/' ∉ piece.toList) :
    (p.join ⟨piece⟩).isRooted = p.isRooted := by
  obtain ⟨front, begins, joined⟩ := toList_join filled whole
  rw [isRooted, isRooted, joined]
  cases front with
  | nil =>
      rcases begins with empty | slash
      · exact absurd (String.toList_eq_nil_iff.mp empty) filled
      · rw [slash]
        rfl
  | cons c front => rcases begins with same | slash <;> simp [*]

/-- The piece stands after a slash, or alone after the root. -/
theorem unrooted_join (filled : p.text ≠ "") (whole : '/' ∉ piece.toList) :
    (p.isRooted = true ∧ p.unrooted = [] ∧ (p.join ⟨piece⟩).unrooted = piece.toList) ∨
      ∃ front, (p.unrooted = front ∨ p.unrooted = front ++ ['/']) ∧
        (p.join ⟨piece⟩).unrooted = front ++ '/' :: piece.toList := by
  obtain ⟨front, begins, joined⟩ := toList_join filled whole
  rw [unrooted, unrooted, isRooted_join filled whole, joined]
  cases rooted : p.isRooted with
  | false => exact .inr ⟨front, begins, rfl⟩
  | true =>
      rw [isRooted, beq_iff_eq, List.head?_eq_some_iff] at rooted
      obtain ⟨rest, text⟩ := rooted
      rw [text] at begins ⊢
      cases front with
      | nil =>
          rcases begins with missing | root
          · cases missing
          · cases root
            exact .inl ⟨rfl, rfl, rfl⟩
      | cons c front =>
          refine .inr ⟨front, ?_, rfl⟩
          rcases begins with same | slash
          · cases same
            exact .inl rfl
          · cases slash
            exact .inr rfl

theorem steps_join (filled : p.text ≠ "") (whole : '/' ∉ piece.toList) :
    (p.join ⟨piece⟩).steps = p.steps ++ (component? piece.toList).toList := by
  rw [steps, steps, ← stepsOf_piece whole]
  rcases unrooted_join filled whole with ⟨_, root, joined⟩ | ⟨front, begins, joined⟩
  · rw [root, joined]
    rfl
  · rw [joined, stepsOf_append_slash]
    rcases begins with same | slash
    · rw [same]
    · rw [slash, stepsOf_append_slash]
      simp [stepsOf, Text.splitOnChar, component?]

theorem beginsAtDot_join (filled : p.text ≠ "") (whole : '/' ∉ piece.toList) :
    (p.join ⟨piece⟩).beginsAtDot = p.beginsAtDot := by
  have first (front back : List Char) : ((front ++ '/' :: back).splitOnP (· == '/')).head? =
      (front.splitOnP (· == '/')).head? := by
    rw [List.splitOnP_append_cons front back rfl]
    cases cut : front.splitOnP (· == '/') with
    | nil => exact absurd cut (List.splitOnP_ne_nil _ front)
    | cons segment more => rfl
  rw [beginsAtDot, beginsAtDot, isRooted_join filled whole, segments_eq, segments_eq]
  rcases unrooted_join filled whole with ⟨rooted, _, _⟩ | ⟨front, begins, joined⟩
  · rw [rooted]
    rfl
  · rw [joined, first]
    rcases begins with same | slash
    · rw [same]
    · rw [slash, first]

/-- To join a piece adds what it stands for. -/
theorem components_join (filled : p.text ≠ "") (whole : '/' ∉ piece.toList) :
    (p.join ⟨piece⟩).components = p.components ++ (component? piece.toList).toList := by
  rw [components_eq_steps, components_eq_steps, isRooted_join filled whole,
    beginsAtDot_join filled whole, steps_join filled whole]
  simp only [List.append_assoc]

theorem join_filled (filled : p.text ≠ "") (whole : '/' ∉ piece.toList) :
    (p.join ⟨piece⟩).text ≠ "" := by
  obtain ⟨front, _, joined⟩ := toList_join filled whole
  intro empty
  rw [empty] at joined
  exact List.append_ne_nil_of_right_ne_nil front (List.cons_ne_nil _ _) joined.symm

end Join

/-- A path that is not empty and does not begin with a dot. -/
structure Steady (p : Path) : Prop where
  filled : p.text ≠ ""
  undotted : p.beginsAtDot = false

section Steady

variable {p : Path} {piece : String}

theorem Steady.components (steady : p.Steady) :
    p.components = (if p.isRooted then [.root] else []) ++ p.steps := by
  rw [components_eq_steps, steady.undotted]
  rfl

theorem Steady.join (steady : p.Steady) (whole : '/' ∉ piece.toList) :
    (p.join ⟨piece⟩).Steady :=
  ⟨join_filled steady.filled whole, (beginsAtDot_join steady.filled whole).trans steady.undotted⟩

theorem Steady.entry (steady : p.Steady) (piece : String) : p.entry piece = p.join ⟨piece⟩ := by
  have other : p.components ≠ [.current] := by
    intro dot
    have mem : Component.current ∈ p.components := dot ▸ List.mem_singleton_self _
    rw [steady.components, List.mem_append] at mem
    rcases mem with root | step
    · cases rooted : p.isRooted <;> simp [rooted] at root
    · exact current_not_mem_steps p step
  rw [Path.entry, if_neg other]

theorem entry_dot (piece : String) : entry ⟨"."⟩ piece = ⟨piece⟩ := rfl

theorem steps_piece (whole : '/' ∉ piece.toList) :
    steps ⟨piece⟩ = (component? piece.toList).toList := by
  rw [steps, unrooted, isRooted_piece whole, ← stepsOf_piece whole]
  rfl

theorem steady_piece (whole : '/' ∉ piece.toList) (filled : piece ≠ "") (visible : piece ≠ ".") :
    Steady ⟨piece⟩ := by
  refine ⟨filled, ?_⟩
  have dotless : piece.toList ≠ ['.'] := fun dot => visible (String.toList_inj.mp dot)
  rw [beginsAtDot, segments_eq, unrooted, isRooted_piece whole, if_neg Bool.false_ne_true,
    splitOnP_piece whole]
  simpa using dotless

/-- The ways in which the search writes the place where it has come. -/
def Written (p : Path) : Prop := p = ⟨"."⟩ ∨ p.Steady

theorem Written.filled {p : Path} (written : p.Written) : p.text ≠ "" := by
  rcases written with rfl | steady
  · decide
  · exact steady.filled

/-- What an entry adds to a path. Only an empty piece after a lone dot leads nowhere. -/
theorem Written.entry {p : Path} (written : p.Written) {piece : String}
    (whole : '/' ∉ piece.toList) (visible : p = ⟨"."⟩ → piece ≠ "") :
    (p.entry piece).Written ∧ (p.entry piece).isRooted = p.isRooted ∧
      (p.entry piece).steps = p.steps ++ (component? piece.toList).toList ∧
      (∀ c ∈ piece.toList, c ∈ (p.entry piece).text.toList) ∧
      ∀ c ∈ (p.entry piece).text.toList, c ∈ p.text.toList ∨ c = '/' ∨ c ∈ piece.toList := by
  rcases written with rfl | steady
  · rw [entry_dot]
    refine ⟨?_, isRooted_piece whole, steps_piece whole, fun c mem => mem,
      fun c mem => .inr (.inr mem)⟩
    by_cases dot : piece = "."
    · exact .inl (congrArg mk dot)
    · exact .inr (steady_piece whole (visible rfl) dot)
  · rw [steady.entry]
    refine ⟨.inr (steady.join whole), isRooted_join steady.filled whole,
      steps_join steady.filled whole, ?_⟩
    refine ⟨fun c mem => ?_, fun c mem => mem_toList_join mem⟩
    obtain ⟨_, _, joined⟩ := toList_join steady.filled whole
    rw [joined]
    exact List.mem_append_right _ (List.mem_cons_of_mem _ mem)

end Steady

end ImageSearch.Path
