import ImageSearch.Text.Split
import Mathlib.Data.List.TakeWhile

set_option autoImplicit false

namespace ImageSearch.Text

theorem mem_dropWhile {α : Type} {p : α → Bool} {x : α} {xs : List α} (among : x ∈ xs)
    (stays : ¬ p x = true) : x ∈ xs.dropWhile p := by
  rw [← List.takeWhile_append_dropWhile (p := p) (l := xs), List.mem_append] at among
  apply among.resolve_left
  intro inside
  exact stays (List.mem_takeWhile_imp inside)

/-- What is left of a trimmed text is not only white space. -/
theorem exists_solid_of_trim {cs : List Char} (filled : trim cs ≠ []) :
    ∃ c ∈ trim cs, isBlank c = false := by
  rw [trim] at filled ⊢
  generalize cs.dropWhile isBlank = begun at filled ⊢
  have some_left : begun.reverse.dropWhile isBlank ≠ [] := fun none => filled (by rw [none]; rfl)
  refine ⟨(begun.reverse.dropWhile isBlank).head some_left, ?_, ?_⟩
  · exact List.mem_reverse.mpr (List.head_mem some_left)
  · exact List.head_dropWhile_not isBlank some_left

theorem mem_trim {c : Char} (solid : isBlank c = false) (cs : List Char) :
    c ∈ trim cs ↔ c ∈ cs := by
  have stays : ¬ isBlank c = true := Bool.eq_false_iff.mp solid
  rw [trim, List.mem_reverse]
  constructor
  · intro left
    have begun := List.mem_reverse.mp ((List.dropWhile_suffix isBlank).subset left)
    exact (List.dropWhile_suffix isBlank).subset begun
  · intro among
    exact mem_dropWhile (List.mem_reverse.mpr (mem_dropWhile among stays)) stays

theorem trim_of_solid {cs : List Char} (solid : ∀ c ∈ cs, isBlank c = false) : trim cs = cs := by
  have whole {ds : List Char} (same : ∀ c ∈ ds, isBlank c = false) : ds.dropWhile isBlank = ds := by
    rw [List.dropWhile_eq_self_iff]
    intro some
    exact Bool.eq_false_iff.mp (same _ (List.getElem_mem some))
  rw [trim, whole solid, whole fun c among => solid c (List.mem_reverse.mp among),
    List.reverse_reverse]

end ImageSearch.Text
