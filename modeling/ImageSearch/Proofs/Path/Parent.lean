import ImageSearch.Path
import ImageSearch.Proofs.Text.Splitting

set_option autoImplicit false

namespace ImageSearch.Path

/-- What segments mean, the first of them after a root or not. -/
def marks (rooted : Bool) : List (List Char) → List (Option Component)
  | [] => []
  | first :: rest => leading? rooted first :: rest.map component?

theorem length_marks (rooted : Bool) (segments : List (List Char)) :
    (marks rooted segments).length = segments.length := by
  cases segments <;> simp [marks]

/-- What a segment means does not depend on those after it. -/
theorem marks_append (rooted : Bool) (segments more : List (List Char)) :
    ∃ rest, marks rooted (segments ++ more) = marks rooted segments ++ rest := by
  cases segments with
  | nil => exact ⟨_, rfl⟩
  | cons first segments => exact ⟨more.map component?, by simp [marks]⟩

theorem marks_concat {last : List Char} (named : component? last = some (.name last))
    (rooted : Bool) (before : List (List Char)) :
    marks rooted (before ++ [last]) = marks rooted before ++ [some (.name last)] := by
  cases before with
  | nil =>
      have visible : last ≠ ['.'] := by
        rintro rfl
        cases named
      simp [marks, leading?, visible, named]
  | cons first before => simp [marks, named]

theorem marked_eq (p : Path) : p.marked = marks p.isRooted p.segments := by
  rw [marked]
  cases p.segments <;> rfl

theorem components_eq (p : Path) :
    p.components =
      (if p.isRooted then [.root] else []) ++ (marks p.isRooted p.segments).filterMap id := by
  rw [components, marked_eq]

theorem toList_text (p : Path) :
    p.text.toList = (if p.isRooted then ['/'] else []) ++ List.intercalate ['/'] p.segments := by
  rw [segments, Text.splitOnChar_eq_splitOnP]
  show _ = _ ++ List.intercalate ['/'] (List.splitOn '/' _)
  rw [List.intercalate_splitOn]
  cases rooted : p.isRooted with
  | false => rfl
  | true =>
      rw [isRooted, beq_iff_eq, List.head?_eq_some_iff] at rooted
      obtain ⟨rest, text⟩ := rooted
      simp [text]

theorem slash_not_mem {p : Path} {segment : List Char} (mem : segment ∈ p.segments) :
    '/' ∉ segment := by
  intro inside
  exact absurd (Text.mem_splitOnChar mem '/' inside).2 (by decide)

/-- A path made of segments has these segments, or an empty one instead of none. -/
theorem components_ofSegments {rooted : Bool} {segments : List (List Char)}
    (solid : ∀ segment ∈ segments, '/' ∉ segment)
    (unrooted : rooted = false → (List.intercalate ['/'] segments).head? ≠ some '/') :
    (ofSegments rooted segments).components =
      (if rooted then [.root] else []) ++ (marks rooted segments).filterMap id := by
  have root : (ofSegments rooted segments).isRooted = rooted := by
    cases rooted with
    | false => simpa [ofSegments, isRooted] using unrooted rfl
    | true => simp [ofSegments, isRooted]
  have cut : (ofSegments rooted segments).segments =
      (List.intercalate ['/'] segments).splitOn '/' := by
    rw [Path.segments, root, Text.splitOnChar_eq_splitOnP]
    cases rooted <;> simp [ofSegments] <;> rfl
  rw [components_eq, root, cut]
  cases segments with
  | nil => cases rooted <;> rfl
  | cons first rest => rw [List.splitOn_intercalate '/' solid (List.cons_ne_nil first rest)]

/-- Without the segments at the end that name nothing: a front of the segments that means the
same. -/
def withoutIdle (rooted : Bool) (segments : List (List Char)) : List (List Char) :=
  (dropIdle (segments.zip (marks rooted segments))).map Prod.fst

theorem dropIdle_append (entries : List (List Char × Option Component)) :
    ∃ idle, dropIdle entries ++ idle = entries ∧ ∀ entry ∈ idle, entry.2 = none := by
  refine ⟨(entries.reverse.takeWhile (·.2.isNone)).reverse, ?_, fun entry mem => ?_⟩
  · rw [dropIdle, ← List.reverse_append, List.takeWhile_append_dropWhile, List.reverse_reverse]
  · simpa using List.all_eq_true.mp List.all_takeWhile entry (List.mem_reverse.mp mem)

theorem withoutIdle_append (rooted : Bool) (segments : List (List Char)) :
    ∃ idle, withoutIdle rooted segments ++ idle = segments ∧
      (marks rooted (withoutIdle rooted segments)).filterMap id =
        (marks rooted segments).filterMap id := by
  obtain ⟨idle, split, nothing⟩ := dropIdle_append (segments.zip (marks rooted segments))
  have aligned := length_marks rooted segments
  have texts : withoutIdle rooted segments ++ idle.map Prod.fst = segments := by
    rw [withoutIdle, ← List.map_append, split, List.map_fst_zip (by omega)]
  have meanings : (dropIdle (segments.zip (marks rooted segments))).map Prod.snd ++
      idle.map Prod.snd = marks rooted segments := by
    rw [← List.map_append, split, List.map_snd_zip (by omega)]
  have none : (idle.map Prod.snd).filterMap id = [] := by
    rw [List.filterMap_eq_nil_iff]
    intro meaning mem
    obtain ⟨entry, among, rfl⟩ := List.mem_map.mp mem
    exact nothing entry among
  obtain ⟨rest, fronts⟩ := marks_append rooted (withoutIdle rooted segments) (idle.map Prod.fst)
  rw [texts, ← meanings] at fronts
  have same := (List.append_inj fronts (by simp [length_marks, withoutIdle])).1
  refine ⟨idle.map Prod.fst, texts, ?_⟩
  have visible := congrArg (List.filterMap id) meanings
  rw [List.filterMap_append, none, List.append_nil, same] at visible
  exact visible

/-- Segments at the front make a text at the front. -/
theorem intercalate_prefix (separator : List Char) (pieces more : List (List Char)) :
    List.intercalate separator pieces <+: List.intercalate separator (pieces ++ more) := by
  induction pieces with
  | nil => exact List.nil_prefix
  | cons first pieces ih =>
      cases pieces with
      | nil =>
          cases more with
          | nil => exact List.prefix_rfl
          | cons next more =>
              rw [List.singleton_append, List.intercalate_cons_cons, List.intercalate_singleton,
                List.append_assoc]
              exact List.prefix_append _ _
      | cons next pieces =>
          rw [List.cons_append, List.cons_append, List.intercalate_cons_cons,
            List.intercalate_cons_cons]
          exact (List.prefix_append_right_inj _).mpr ih

/-- The parent of a path that ends in a name. -/
theorem exists_parent {p : Path} {before : List (List Char)} {last : List Char}
    (cut : p.segments = before ++ [last]) (named : component? last = some (.name last)) :
    ∃ parent, p.parent? = some parent ∧ parent.text.toList <+: p.text.toList ∧
      p.components = parent.components ++ [.name last] := by
  have marked : p.marked = marks p.isRooted before ++ [some (.name last)] := by
    rw [marked_eq, cut, marks_concat named]
  have zipped : p.segments.zip p.marked =
      before.zip (marks p.isRooted before) ++ [(last, some (.name last))] := by
    rw [cut, marked, List.zip_append (length_marks _ _).symm]
    rfl
  obtain ⟨idle, split, same⟩ := withoutIdle_append p.isRooted before
  have whole : p.segments = withoutIdle p.isRooted before ++ (idle ++ [last]) := by
    rw [cut, ← List.append_assoc, split]
  have front : List.intercalate ['/'] (withoutIdle p.isRooted before) <+:
      List.intercalate ['/'] p.segments := by
    rw [whole]
    exact intercalate_prefix _ _ _
  refine ⟨ofSegments p.isRooted (withoutIdle p.isRooted before), ?_, ?_, ?_⟩
  · rw [parent?, zipped, dropIdle]
    simp [withoutIdle]
  · rw [toList_text p, ofSegments, String.toList_ofList]
    exact (List.prefix_append_right_inj _).mpr front
  · rw [components_ofSegments, same, components_eq, cut, marks_concat named,
      List.filterMap_append, List.append_assoc]
    · rfl
    · intro segment mem
      apply slash_not_mem (p := p)
      rw [whole]
      exact List.mem_append_left _ mem
    · -- a slash at the front would be the root of the path
      intro unrooted slash
      obtain ⟨rest, begins⟩ := List.head?_eq_some_iff.mp slash
      obtain ⟨more, text⟩ := front
      have rooted : p.isRooted = true := by
        rw [isRooted, toList_text p, unrooted, ← text, begins]
        rfl
      rw [unrooted] at rooted
      cases rooted

end ImageSearch.Path
