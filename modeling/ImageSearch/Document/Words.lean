import ImageSearch.Text.Lower
import ImageSearch.Text.Split
import ImageSearch.Text.WordChar

set_option autoImplicit false

namespace ImageSearch

open Text

/-- Characters that survive: word characters, hyphens and white space. -/
def isKept (c : Char) : Bool := c == '-' || isWordChar c || isBlank c

def shortWord : Nat := 2

/-- Each entry once, at its first place. -/
def distinct : List (List Char) → List (List Char)
  | [] => []
  | w :: rest => w :: (distinct rest).filter (· ≠ w)

/-- Lower-case runs of kept characters, longer than two characters, each once. -/
def extractWords (text : List Char) : List (List Char) :=
  distinct ((splitBlank (lower (text.filter isKept))).filter (shortWord < ·.length))

/-- The strictly ascending list of its members. -/
structure WordSet where
  toList : List String
  ascending : toList.Pairwise (· < ·)
  deriving DecidableEq

namespace WordSet

def empty : WordSet := ⟨[], List.Pairwise.nil⟩

def place (w : String) : List String → List String
  | [] => [w]
  | x :: rest => if w < x then w :: x :: rest else if w = x then x :: rest else x :: place w rest

theorem mem_place {w v : String} {l : List String} : v ∈ place w l ↔ v = w ∨ v ∈ l := by
  induction l with
  | nil => simp [place]
  | cons x rest ih =>
    unfold place
    split
    · simp
    · split
      · next eq => subst eq; simp
      · simp only [List.mem_cons, ih]
        constructor
        · rintro (h | h | h) <;> simp [h]
        · rintro (h | h | h) <;> simp [h]

theorem place_ascending {w : String} {l : List String} (h : l.Pairwise (· < ·)) :
    (place w l).Pairwise (· < ·) := by
  induction l with
  | nil => simp [place]
  | cons x rest ih =>
    obtain ⟨below, tail⟩ := List.pairwise_cons.mp h
    unfold place
    split
    · next lt =>
      refine List.pairwise_cons.mpr ⟨fun v mem => ?_, h⟩
      rcases List.mem_cons.mp mem with rfl | mem
      · exact lt
      · exact String.lt_trans lt (below v mem)
    · next notLt =>
      split
      · exact h
      · next ne =>
        refine List.pairwise_cons.mpr ⟨fun v mem => ?_, ih tail⟩
        rcases mem_place.mp mem with rfl | mem
        · rcases Std.lt_trichotomy v x with lt | eq | gt
          · exact absurd lt notLt
          · exact absurd eq ne
          · exact gt
        · exact below v mem

def insert (s : WordSet) (w : String) : WordSet := ⟨place w s.toList, place_ascending s.ascending⟩

def ofList (words : List String) : WordSet := words.foldl insert empty

def contains (s : WordSet) (w : String) : Bool := s.toList.contains w

theorem mem_toList_insert {s : WordSet} {w v : String} :
    v ∈ (s.insert w).toList ↔ v = w ∨ v ∈ s.toList := mem_place

end WordSet

end ImageSearch
