import ImageSearch.Proofs.Text.Alphabets
import ImageSearch.Proofs.Text.Trimming

set_option autoImplicit false

namespace ImageSearch.Text

namespace CharRanges

variable {ranges : CharRanges} {range : Nat × Nat} {n : Nat}

instance decidableAscending : (ranges : CharRanges) → Decidable ranges.Ascending
  | [] => isTrue trivial
  | [r] => inferInstanceAs (Decidable (r.1 ≤ r.2))
  | r :: s :: rest =>
    have := decidableAscending (s :: rest)
    inferInstanceAs (Decidable (r.1 ≤ r.2 ∧ r.2 < s.1 ∧ Ascending (s :: rest)))

theorem Ascending.tail (ascending : Ascending (range :: ranges)) : ranges.Ascending := by
  cases ranges with
  | nil => trivial
  | cons next rest => exact ascending.2.2

theorem Ascending.first_le (ascending : Ascending (range :: ranges)) : range.1 ≤ range.2 := by
  cases ranges with
  | nil => exact ascending
  | cons next rest => exact ascending.1

theorem Ascending.lt_of_mem (ascending : Ascending (range :: ranges)) {later : Nat × Nat}
    (among : later ∈ ranges) : range.2 < later.1 := by
  induction ranges generalizing range with
  | nil => cases among
  | cons next rest ih =>
      have step : range.2 < next.1 := ascending.2.1
      rcases List.mem_cons.mp among with rfl | beyond
      · exact step
      · have order := ascending.tail.first_le
        have above := ih ascending.tail beyond
        omega

/-- Among ascending ranges the search does not stop too early. -/
theorem has_of_mem (ascending : ranges.Ascending) (among : range ∈ ranges) (above : range.1 ≤ n)
    (below : n ≤ range.2) : ranges.has n = true := by
  induction ranges with
  | nil => cases among
  | cons head rest ih =>
      rcases List.mem_cons.mp among with rfl | later
      · rw [has, if_neg (by omega), decide_eq_true below, Bool.true_or]
      · have order := ascending.first_le
        have beyond := ascending.lt_of_mem later
        rw [has, if_neg (by omega), ih ascending.tail later, Bool.or_true]

theorem exists_of_mem_codes (coded : n ∈ ranges.codes) :
    ∃ range ∈ ranges, range.1 ≤ n ∧ n ≤ range.2 := by
  obtain ⟨range, among, inside⟩ := List.mem_flatMap.mp coded
  rw [List.mem_range'_1] at inside
  exact ⟨range, among, inside.1, by omega⟩

/-- What is in none of the ranges, by one pass over ascending numbers and ranges. -/
def missed : CharRanges → List Nat → List Nat
  | [], ns => ns
  | (lo, hi) :: rest, ns =>
    ns.takeWhile (Nat.blt · lo) ++
      missed rest ((ns.dropWhile (Nat.blt · lo)).dropWhile fun n => Nat.ble lo n && Nat.ble n hi)

theorem mem_missed {ns : List Nat} (ascending : ranges.Ascending) (among : n ∈ ns)
    (outside : ranges.has n = false) : n ∈ ranges.missed ns := by
  have apart (range : Nat × Nat) (mem : range ∈ ranges) : ¬ (range.1 ≤ n ∧ n ≤ range.2) := by
    rintro ⟨above, below⟩
    cases outside.symm.trans (has_of_mem ascending mem above below)
  clear ascending outside
  induction ranges generalizing ns with
  | nil => exact among
  | cons range rest ih =>
      rw [missed, List.mem_append]
      rw [← List.takeWhile_append_dropWhile (p := (Nat.blt · range.1)) (l := ns),
        List.mem_append] at among
      rcases among with below | rest
      · exact .inl below
      · refine .inr (ih (mem_dropWhile rest ?_) fun other mem => apart other (.tail _ mem))
        rw [Bool.and_eq_true, Nat.ble_eq, Nat.ble_eq]
        exact apart range List.mem_cons_self

end CharRanges

/-- Code points of the general category Lt. -/
def titlecaseRanges : CharRanges :=
  [(0x1C5, 0x1C5), (0x1C8, 0x1C8), (0x1CB, 0x1CB), (0x1F2, 0x1F2), (0x1F88, 0x1F8F),
   (0x1F98, 0x1F9F), (0x1FA8, 0x1FAF), (0x1FBC, 0x1FBC), (0x1FCC, 0x1FCC), (0x1FFC, 0x1FFC)]

def isTitlecase (c : Char) : Bool := titlecaseRanges.has c.toNat

def CaseRun.capitals (run : CaseRun) : List Nat :=
  (List.range run.count).map fun i => run.first + i * run.step

theorem uppercaseRanges_ascending : uppercaseRanges.Ascending := by
  decide +kernel

theorem titlecaseRanges_ascending : titlecaseRanges.Ascending := by
  decide +kernel

theorem missed_capitals :
    uppercaseRanges.missed (lowerRuns.flatMap CaseRun.capitals) = titlecaseRanges.codes := by
  decide +kernel

theorem settled_of_not_capital {c : Char} (small : isUppercase c = false)
    (untitled : isTitlecase c = false) : Settled c := by
  apply settled_of_lowerCode?
  · rintro rfl
    have capital : isUppercase 'İ' = true := by decide +kernel
    cases small.symm.trans capital
  · apply Option.eq_none_iff_forall_ne_some.mpr
    intro m found
    obtain ⟨run, among, i, inside, code, _⟩ := lowerCode?_eq_some found
    have capital : c.toNat ∈ lowerRuns.flatMap CaseRun.capitals :=
      List.mem_flatMap.mpr ⟨run, among, List.mem_map.mpr ⟨i, List.mem_range.mpr inside, code.symm⟩⟩
    have title := CharRanges.mem_missed uppercaseRanges_ascending capital small
    rw [missed_capitals] at title
    obtain ⟨range, mem, above, below⟩ := CharRanges.exists_of_mem_codes title
    cases untitled.symm.trans (CharRanges.has_of_mem titlecaseRanges_ascending mem above below)

theorem titlecaseRanges_unsettled : (titlecaseRanges.codes.all fun n =>
    lowerChar (Char.ofNat n) != [Char.ofNat n]) = true := by
  decide +kernel

theorem titlecaseRanges_apart : (titlecaseRanges.all fun title => uppercaseRanges.all fun upper =>
    Nat.blt title.2 upper.1 || Nat.blt upper.2 title.1) = true := by
  decide +kernel

theorem unsettled_of_titlecase {c : Char} (title : isTitlecase c = true) : ¬ Settled c := by
  have mine := List.all_eq_true.mp titlecaseRanges_unsettled c.toNat
    (CharRanges.mem_codes_of_has title)
  rw [Char.ofNat_toNat, bne_iff_ne] at mine
  exact fun settled => mine settled.1

theorem not_capital_of_titlecase {c : Char} (title : isTitlecase c = true) :
    isUppercase c = false := by
  apply Bool.eq_false_iff.mpr
  intro capital
  obtain ⟨range, among, above, below⟩ := CharRanges.exists_of_has title
  obtain ⟨other, among', above', below'⟩ := CharRanges.exists_of_has capital
  have apart := List.all_eq_true.mp (List.all_eq_true.mp titlecaseRanges_apart range among) other
    among'
  rw [Bool.or_eq_true, Nat.blt_eq, Nat.blt_eq] at apart
  omega

/-- Title case is what the test for capitals misses. -/
theorem isTitlecase_iff {c : Char} :
    isTitlecase c = true ↔ isUppercase c = false ∧ ¬ Settled c := by
  constructor
  · intro title
    exact ⟨not_capital_of_titlecase title, unsettled_of_titlecase title⟩
  · rintro ⟨small, unsettled⟩
    cases title : isTitlecase c with
    | true => rfl
    | false => exact absurd (settled_of_not_capital small title) unsettled

theorem lower_eq_self_iff {cs : List Char} : lower cs = cs ↔ ∀ c ∈ cs, Settled c := by
  constructor
  · intro same c among
    rw [← same] at among
    exact settled_of_mem_lower among
  · exact lower_eq_self

/-- A text without capitals is in lower case unless one of its letters is in title case. -/
theorem lower_eq_self_iff_titlecase {cs : List Char} (small : cs.any isUppercase = false) :
    lower cs = cs ↔ cs.any isTitlecase = false := by
  rw [List.any_eq_false] at small
  rw [lower_eq_self_iff, List.any_eq_false]
  refine forall₂_congr fun c among => ?_
  rw [isTitlecase_iff, and_iff_right (Bool.eq_false_iff.mpr (small c among)), Classical.not_not]

end ImageSearch.Text
