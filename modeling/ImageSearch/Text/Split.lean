import ImageSearch.Text.Blank

set_option autoImplicit false

namespace ImageSearch.Text

def trim (cs : List Char) : List Char :=
  ((cs.dropWhile isBlank).reverse.dropWhile isBlank).reverse

def trimString (s : String) : String := String.ofList (trim s.toList)

def isBlankText (cs : List Char) : Bool := cs.all isBlank

/-- The pieces between separators, empty ones included; there is always at least one. -/
def splitOnChar (isSep : Char → Bool) : List Char → List (List Char)
  | [] => [[]]
  | c :: rest =>
    if isSep c then [] :: splitOnChar isSep rest
    else
      match splitOnChar isSep rest with
      | [] => [[c]]
      | piece :: pieces => (c :: piece) :: pieces

/-- The maximal runs of characters that are not white space. -/
def splitBlank (cs : List Char) : List (List Char) :=
  (splitOnChar isBlank cs).filter (!·.isEmpty)

theorem splitOnChar_ne_nil (isSep : Char → Bool) (cs : List Char) :
    splitOnChar isSep cs ≠ [] := by
  cases cs with
  | nil => simp [splitOnChar]
  | cons c rest =>
    unfold splitOnChar
    split
    · simp
    · split <;> simp

theorem ne_nil_of_mem_splitBlank {cs piece : List Char} (h : piece ∈ splitBlank cs) :
    piece ≠ [] := by
  simp only [splitBlank, List.mem_filter] at h
  intro nil
  simp [nil] at h

end ImageSearch.Text
