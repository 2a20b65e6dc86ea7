import ImageSearch.Proofs.Discovery.Listing
import ImageSearch.Proofs.Path.Order

set_option autoImplicit false

namespace ImageSearch

namespace Path

/-- The first segment that is no dot is empty. -/
def emptyAfterDots (segments : List (List Char)) : Bool :=
  (segments.dropWhile (· == ['.'])).head? == some []

/-- A path of dots and slashes in front, or of nothing else: the search below it finds nothing. -/
def stalls (p : Path) : Bool := p.text != "" && !p.isRooted && emptyAfterDots p.segments

def stepsOfPieces (pieces : List String) : List Component :=
  pieces.filterMap fun piece => component? piece.toList

theorem origin_eq {p : Path} (filled : p.text ≠ "") :
    p.origin = (⟨if p.isRooted then "/" else "."⟩, p.segments.map String.ofList) := by
  rw [origin, String.isEmpty_eq_false_iff.mpr filled, segments]
  cases p.isRooted <;> rfl

/-- A path that is not empty begins at the root or at a lone dot, with all of its segments. -/
theorem origin_of_filled {p : Path} (filled : p.text ≠ "") :
    p.origin.2 = p.segments.map String.ofList ∧ p.origin.1.Written ∧
      p.origin.1.isRooted = p.isRooted ∧ p.origin.1.steps = [] ∧
      '\x00' ∉ p.origin.1.text.toList ∧ (p.origin.1 = ⟨"."⟩ ↔ p.isRooted = false) := by
  rw [origin_eq filled]
  refine ⟨rfl, ?_⟩
  dsimp only
  cases p.isRooted with
  | true => exact ⟨.inr ⟨by decide, rfl⟩, rfl, rfl, by decide, by decide⟩
  | false => exact ⟨.inl rfl, rfl, rfl, by decide, by decide⟩

theorem origin_of_empty {p : Path} (empty : p.text = "") : p.origin = (⟨"/"⟩, []) := by
  rw [origin, empty]
  rfl

theorem stepsOfPieces_segments (p : Path) :
    stepsOfPieces (p.segments.map String.ofList) = p.steps := by
  have same (segment : List Char) :
      component? (String.ofList segment).toList = component? segment := by
    rw [String.toList_ofList]
  simp only [stepsOfPieces, List.filterMap_map, Function.comp_def, same]
  rfl

theorem slash_not_mem_pieces {p : Path} {piece : String}
    (mem : piece ∈ p.segments.map String.ofList) : '/' ∉ piece.toList := by
  obtain ⟨segment, among, rfl⟩ := List.mem_map.mp mem
  rw [String.toList_ofList]
  exact slash_not_mem among

end Path

namespace Disk

open ImageSearch.Path

variable {d : Disk} {path base : Path} {piece : String} {pieces : List String}

theorem follow_cons : d.follow path (piece :: pieces) = some base ↔
    (if piece = "." ∨ piece = ".." then d.isFolder path else d.holds (path.entry piece)) = true ∧
      d.follow (path.entry piece) pieces = some base := by
  rw [follow]
  split <;> split <;> simp [*]

theorem holds_empty (d : Disk) : d.holds ⟨""⟩ = false := rfl

/-- Where names lead, the path has them as its steps, and no empty piece came after a lone dot. -/
theorem follow_some (written : path.Written) (whole : ∀ piece ∈ pieces, '/' ∉ piece.toList)
    (found : d.follow path pieces = some base) :
    base.Written ∧ base.isRooted = path.isRooted ∧
      base.steps = path.steps ++ stepsOfPieces pieces ∧
      (∀ piece ∈ pieces, '\x00' ∉ piece.toList) ∧
      (path = ⟨"."⟩ → emptyAfterDots (pieces.map String.toList) = false) := by
  induction pieces generalizing path with
  | nil =>
      cases found
      exact ⟨written, rfl, (List.append_nil _).symm, List.forall_mem_nil _, fun _ => rfl⟩
  | cons piece rest ih =>
      obtain ⟨here, later⟩ := List.forall_mem_cons.mp whole
      obtain ⟨there, found⟩ := follow_cons.mp found
      -- after a lone dot the empty piece makes the empty path, where nothing is
      have visible : path = ⟨"."⟩ → piece ≠ "" := by
        rintro rfl rfl
        rw [if_neg (by decide), entry_dot, holds_empty] at there
        cases there
      obtain ⟨next, rooted, steps, chars, _⟩ := written.entry here visible
      obtain ⟨ends, rooted', steps', plain, onward⟩ := ih next later found
      refine ⟨ends, rooted'.trans rooted, ?_, List.forall_mem_cons.mpr ⟨?_, plain⟩, ?_⟩
      · rw [steps', steps, stepsOfPieces, stepsOfPieces, List.filterMap_cons, List.append_assoc]
        cases component? piece.toList <;> rfl
      · by_cases dotted : piece = "." ∨ piece = ".."
        · rcases dotted with rfl | rfl <;> decide
        · rw [if_neg dotted] at there
          obtain ⟨place, led⟩ := locate_of_holds there
          exact fun nul => (locate_steps.mp led).2.1 (chars _ nul)
      · rintro rfl
        rw [emptyAfterDots, List.map_cons, List.dropWhile_cons]
        by_cases dot : piece = "."
        · subst dot
          exact onward rfl
        · have other : piece.toList ≠ ['.'] := fun same => dot (String.toList_inj.mp same)
          have filled : piece.toList ≠ [] := fun none =>
            visible rfl (String.toList_eq_nil_iff.mp none)
          simp [other, filled]

/-- Pieces that lead to a folder are followed, unless an empty piece comes after a lone dot. -/
theorem follow_of_opens (proper : d.Proper) (written : path.Written)
    (whole : ∀ piece ∈ pieces, '/' ∉ piece.toList)
    (plain : ∀ piece ∈ pieces, '\x00' ∉ piece.toList) (plain' : '\x00' ∉ path.text.toList)
    (visible : path = ⟨"."⟩ → emptyAfterDots (pieces.map String.toList) = false)
    {middle place : List String} (begun : d.Opens (d.outset path) path.steps middle)
    (opens : d.Opens middle (stepsOfPieces pieces) place) :
    ∃ base, d.follow path pieces = some base ∧ '\x00' ∉ base.text.toList := by
  induction pieces generalizing path middle with
  | nil => exact ⟨path, rfl, plain'⟩
  | cons piece rest ih =>
      obtain ⟨here, later⟩ := List.forall_mem_cons.mp whole
      obtain ⟨clean, cleaner⟩ := List.forall_mem_cons.mp plain
      have some : path = ⟨"."⟩ → piece ≠ "" := by
        rintro rfl rfl
        cases visible rfl
      obtain ⟨next, rooted, steps, _, chars⟩ := written.entry here some
      have split : stepsOfPieces (piece :: rest) =
          (component? piece.toList).toList ++ stepsOfPieces rest := by
        rw [stepsOfPieces, stepsOfPieces, List.filterMap_cons]
        cases component? piece.toList <;> rfl
      rw [split] at opens
      obtain ⟨middle', first, onward⟩ := opens_append.mp opens
      have begun' : d.Opens (d.outset (path.entry piece)) (path.entry piece).steps middle' := by
        rw [outset, rooted, steps]
        exact opens_append.mpr ⟨middle, begun, first⟩
      have nextPlain : '\x00' ∉ (path.entry piece).text.toList := by
        intro nul
        rcases chars _ nul with before | slash | inside
        · exact plain' before
        · cases slash
        · exact clean inside
      have nextVisible : path.entry piece = ⟨"."⟩ →
          emptyAfterDots (rest.map String.toList) = false := by
        intro dot
        rcases written with rfl | steady
        · have same : piece = "." := congrArg Path.text dot
          subst same
          exact visible rfl
        · rw [steady.entry] at dot
          exact absurd (dot ▸ (steady.join here).undotted) (by decide)
      obtain ⟨base, found, basePlain⟩ := ih next later cleaner nextPlain nextVisible begun' onward
      refine ⟨base, follow_cons.mpr ⟨?_, found⟩, basePlain⟩
      split
      · exact isFolder_iff.mpr ⟨middle, (proper.opens_iff_locate written.filled plain').mp begun⟩
      · refine holds_of_folder (isFolder_iff.mpr ⟨middle', ?_⟩)
        exact (proper.opens_iff_locate next.filled nextPlain).mp begun'

theorem segments_toList (p : Path) :
    (p.segments.map String.ofList).map String.toList = p.segments := by
  have same : String.toList ∘ String.ofList = id := funext fun _ => String.toList_ofList
  rw [List.map_map, same, List.map_id]

/-- A path is followed to its own place. -/
theorem locate_of_follow {p : Path} (filled : p.text ≠ "")
    (found : d.follow p.origin.1 p.origin.2 = some base) :
    base.Written ∧ base.isRooted = p.isRooted ∧ base.steps = p.steps ∧ p.stalls = false ∧
      ∀ place, d.locate base = .ok place → d.locate p = .ok place := by
  obtain ⟨pieces, begins, same, none, _, lone⟩ := origin_of_filled filled
  rw [pieces] at found
  obtain ⟨written, rooted, steps, plain, visible⟩ :=
    follow_some begins (fun _ => slash_not_mem_pieces) found
  rw [same] at rooted
  rw [none, List.nil_append, stepsOfPieces_segments] at steps
  refine ⟨written, rooted, steps, ?_, fun place led => ?_⟩
  · rw [stalls]
    cases unrooted : p.isRooted with
    | true => simp
    | false =>
        have onward := visible (lone.mpr unrooted)
        rw [segments_toList] at onward
        simp [onward]
  · obtain ⟨_, _, walked⟩ := locate_steps.mp led
    rw [outset, rooted, steps] at walked
    refine locate_steps.mpr ⟨filled, fun nul => ?_, walked⟩
    obtain ⟨segment, among, nul⟩ := exists_segment_of_mem nul (by decide)
    refine plain (String.ofList segment) (List.mem_map_of_mem among) ?_
    rw [String.toList_ofList]
    exact nul

/-- A path to a folder is followed, unless it stalls. -/
theorem follow_of_locate (proper : d.Proper) {p : Path} {place : List String}
    (onward : p.stalls = false) (led : d.locate p = .ok place) (known : d.root.FolderAt place) :
    ∃ base, d.follow p.origin.1 p.origin.2 = some base ∧ d.locate base = .ok place := by
  obtain ⟨filled, plain, _⟩ := locate_steps.mp led
  have opens := (proper.opens_iff_locate filled plain).mpr ⟨led, known⟩
  rw [← stepsOfPieces_segments] at opens
  obtain ⟨pieces, begins, same, none, beginsPlain, lone⟩ := origin_of_filled filled
  have visible (dot : p.origin.1 = ⟨"."⟩) :
      emptyAfterDots ((p.segments.map String.ofList).map String.toList) = false := by
    rw [stalls, lone.mp dot] at onward
    rw [segments_toList]
    simpa [filled] using onward
  have piecesPlain : ∀ piece ∈ p.segments.map String.ofList, '\x00' ∉ piece.toList := by
    intro piece mem nul
    obtain ⟨segment, among, rfl⟩ := List.mem_map.mp mem
    rw [String.toList_ofList] at nul
    exact plain (mem_of_mem_segment among nul)
  have begun : d.Opens (d.outset p.origin.1) p.origin.1.steps (d.outset p) := by
    rw [none, outset, same]
    exact ⟨proper.outset p, rfl⟩
  obtain ⟨base, found, basePlain⟩ := follow_of_opens proper begins
    (fun _ => slash_not_mem_pieces) piecesPlain beginsPlain visible begun opens
  rw [← pieces] at found
  obtain ⟨written, rooted, steps, _⟩ := locate_of_follow filled found
  refine ⟨base, found, ((proper.opens_iff_locate written.filled basePlain).mp ?_).1⟩
  rw [outset, rooted, steps, ← stepsOfPieces_segments]
  exact opens

theorem follow_of_empty {p : Path} (empty : p.text = "") :
    d.follow p.origin.1 p.origin.2 = some ⟨"/"⟩ := by
  rw [origin_of_empty empty]
  rfl

end Disk

end ImageSearch
