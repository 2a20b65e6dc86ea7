set_option autoImplicit false

namespace ImageSearch.Text

/-- Closed ranges of code points, ascending and apart. -/
abbrev CharRanges := List (Nat × Nat)

/-- The search stops at the first range that begins above the code point. -/
def CharRanges.has : CharRanges → Nat → Bool
  | [], _ => false
  | (lo, hi) :: rest, n => if n < lo then false else decide (n ≤ hi) || has rest n

def CharRanges.Ascending : CharRanges → Prop
  | [] => True
  | [r] => r.1 ≤ r.2
  | r :: s :: rest => r.1 ≤ r.2 ∧ r.2 < s.1 ∧ Ascending (s :: rest)

def CharRanges.codes (ranges : CharRanges) : List Nat :=
  ranges.flatMap fun range => List.range' range.1 (range.2 + 1 - range.1)

theorem CharRanges.mem_codes_of_has {ranges : CharRanges} {n : Nat} (has : ranges.has n = true) :
    n ∈ ranges.codes := by
  induction ranges with
  | nil => cases has
  | cons range rest ih =>
      rw [CharRanges.has] at has
      split at has
      · cases has
      · rw [codes, List.flatMap_cons, List.mem_append, List.mem_range'_1]
        rcases (Bool.or_eq_true _ _).mp has with here | later
        · have below := of_decide_eq_true here
          exact .inl (by omega)
        · exact .inr (ih later)

end ImageSearch.Text
