import ImageSearch.Document.Words
import ImageSearch.Proofs.Text.Lowering
import ImageSearch.Proofs.Text.Splitting

set_option autoImplicit false

namespace ImageSearch.Text

/-- One of the ranges holds all code points between two. -/
def CharRanges.covers : CharRanges → Nat → Nat → Bool
  | [], _, _ => false
  | (lo, hi) :: rest, first, last =>
    Nat.ble lo first && (Nat.ble last hi || covers rest first last)

theorem CharRanges.has_of_covers {ranges : CharRanges} {first last n : Nat}
    (covers : ranges.covers first last = true) (above : first ≤ n) (below : n ≤ last) :
    ranges.has n = true := by
  induction ranges with
  | nil => cases covers
  | cons range rest ih =>
      obtain ⟨lo, hi⟩ := range
      rw [CharRanges.covers, Bool.and_eq_true, Bool.or_eq_true, Nat.ble_eq, Nat.ble_eq] at covers
      obtain ⟨begun, here | later⟩ := covers
      · rw [CharRanges.has, if_neg (by omega), decide_eq_true (by omega), Bool.true_or]
      · rw [CharRanges.has, if_neg (by omega), ih later, Bool.or_true]

theorem CharRanges.exists_of_has {ranges : CharRanges} {n : Nat} (has : ranges.has n = true) :
    ∃ range ∈ ranges, range.1 ≤ n ∧ n ≤ range.2 := by
  induction ranges with
  | nil => cases has
  | cons range rest ih =>
      obtain ⟨lo, hi⟩ := range
      rw [CharRanges.has] at has
      split at has
      · cases has
      · rcases (Bool.or_eq_true _ _).mp has with here | later
        · have below := of_decide_eq_true here
          exact ⟨_, List.mem_cons_self, by omega, below⟩
        · obtain ⟨range, among, inside⟩ := ih later
          exact ⟨range, List.mem_cons_of_mem _ among, inside⟩

theorem numeral_of_decimalDigit {c : Char} (digit : isDecimalDigit c = true) :
    isNumeral c = true := by
  have within : (decimalDigitRanges.all fun range =>
      numeralRanges.covers range.1 range.2) = true := by
    decide +kernel
  obtain ⟨range, among, above, below⟩ := CharRanges.exists_of_has digit
  exact CharRanges.has_of_covers (List.all_eq_true.mp within range among) above below

theorem lowerRuns_alphabetic :
    (lowerRuns.all fun run => alphabeticRanges.covers run.target (run.target + run.span)) =
      true := by
  decide +kernel

theorem alphabetic_of_lowerCode? {n m : Nat} (found : lowerCode? lowerRuns n = some m) :
    alphabeticRanges.has m = true := by
  obtain ⟨run, among, i, inside, _, rfl⟩ := lowerCode?_eq_some found
  have low : i * run.step ≤ run.span := Nat.mul_le_mul_right run.step (by omega)
  exact CharRanges.has_of_covers (List.all_eq_true.mp lowerRuns_alphabetic run among) (by omega)
    (by omega)

/-- Every capital of a run is a letter; what lies between two of them need not be one. -/
theorem lowerRuns_capital :
    (lowerRuns.all fun run => alphabeticRanges.covers run.first (run.first + run.span) ||
      (List.range run.count).all fun i => alphabeticRanges.has (run.first + i * run.step)) =
      true := by
  decide +kernel

theorem alphabetic_of_capital {n m : Nat} (found : lowerCode? lowerRuns n = some m) :
    alphabeticRanges.has n = true := by
  obtain ⟨run, among, i, inside, rfl, _⟩ := lowerCode?_eq_some found
  rcases Bool.or_eq_true_iff.mp (List.all_eq_true.mp lowerRuns_capital run among) with whole | each
  · have low : i * run.step ≤ run.span := Nat.mul_le_mul_right run.step (by omega)
    apply CharRanges.has_of_covers whole
    · omega
    · omega
  · exact List.all_eq_true.mp each i (List.mem_range.mpr inside)

theorem valid_of_alphabetic {n : Nat} (letter : alphabeticRanges.has n = true) :
    n.isValidChar := by
  have apart : (alphabeticRanges.all fun range => Nat.blt range.2 0xD800 ||
      (Nat.blt 0xDFFF range.1 && Nat.blt range.2 0x110000)) = true := by
    decide +kernel
  obtain ⟨range, among, above, below⟩ := CharRanges.exists_of_has letter
  have mine := List.all_eq_true.mp apart range among
  simp only [Bool.or_eq_true, Bool.and_eq_true, Nat.blt_eq] at mine
  unfold Nat.isValidChar
  omega

theorem kept_of_alphabetic {c : Char} (letter : isAlphabetic c = true) : isKept c = true := by
  simp only [isKept, isWordChar, letter, Bool.true_or, Bool.or_true]

/-- A character is its own small form, or it is a letter. -/
theorem lowerChar_eq_or (c : Char) : lowerChar c = [c] ∨ isAlphabetic c = true := by
  rw [lowerChar]
  split
  · rename_i dotted
    subst dotted
    exact .inr (by decide)
  · split
    · rename_i m found
      exact .inr (alphabetic_of_capital found)
    · exact .inl rfl

/-- The small form of a character is the character, or letters and the dot above. -/
theorem mem_lowerChar {c d : Char} (mem : d ∈ lowerChar c) :
    d = c ∨ isAlphabetic d = true ∨ d = '\u0307' := by
  rw [lowerChar] at mem
  split at mem
  · rcases List.mem_cons.mp mem with rfl | mem
    · exact .inr (.inl (by decide))
    · exact .inr (.inr (List.mem_singleton.mp mem))
  · split at mem
    · rename_i m found
      have letter := alphabetic_of_lowerCode? found
      rw [List.mem_singleton.mp mem]
      refine .inr (.inl ?_)
      rw [isAlphabetic, Char.ofNat, dif_pos (valid_of_alphabetic letter)]
      exact letter
    · exact .inl (List.mem_singleton.mp mem)

theorem mem_lowerAfter {before cs : List Char} {d : Char} (mem : d ∈ lowerAfter before cs) :
    d ∈ cs ∨ isAlphabetic d = true ∨ d = '\u0307' := by
  induction cs generalizing before with
  | nil => cases mem
  | cons c rest ih =>
      rw [lowerAfter, List.mem_append] at mem
      rcases mem with here | later
      · split at here
        · have sigmas : isAlphabetic 'ς' = true ∧ isAlphabetic 'σ' = true := by decide
          rw [List.mem_singleton.mp here]
          split
          · exact .inr (.inl sigmas.1)
          · exact .inr (.inl sigmas.2)
        · rcases mem_lowerChar here with rfl | other
          · exact .inl List.mem_cons_self
          · exact .inr other
      · rcases ih later with among | other
        · exact .inl (List.mem_cons_of_mem c among)
        · exact .inr other

theorem mem_lower {cs : List Char} {d : Char} (mem : d ∈ lower cs) :
    d ∈ cs ∨ isAlphabetic d = true ∨ d = '\u0307' :=
  mem_lowerAfter mem

theorem kept_of_mem_lower {cs : List Char} {c : Char} (kept : ∀ d ∈ cs, isKept d = true)
    (mem : c ∈ lower cs) : isKept c = true := by
  rcases mem_lower mem with among | letter | rfl
  · exact kept c among
  · exact kept_of_alphabetic letter
  · decide

theorem kept_of_lowerAfter {before cs : List Char}
    (kept : ∀ d ∈ lowerAfter before cs, isKept d = true) : ∀ c ∈ cs, isKept c = true := by
  induction cs generalizing before with
  | nil => exact fun _ missing => absurd missing List.not_mem_nil
  | cons c rest ih =>
      rw [lowerAfter] at kept
      have later := ih fun d among => kept d (List.mem_append_right _ among)
      refine List.forall_mem_cons.mpr ⟨?_, later⟩
      rcases lowerChar_eq_or c with same | letter
      · by_cases sigma : c = 'Σ'
        · subst sigma
          decide
        · apply kept c
          rw [if_neg sigma, same]
          exact List.mem_append_left _ List.mem_cons_self
      · exact kept_of_alphabetic letter

/-- A text whose lower-case form is kept is kept as it stands. -/
theorem kept_of_lower {cs : List Char} (kept : ∀ d ∈ lower cs, isKept d = true) :
    ∀ c ∈ cs, isKept c = true :=
  kept_of_lowerAfter kept

theorem blankRanges_dividing : (blankRanges.codes.all fun n =>
    dividing (Char.ofNat n) && !isAlphabetic (Char.ofNat n)) = true := by
  decide +kernel

theorem divides_of_blank {c : Char} (blank : isBlank c = true) : Divides c := by
  have mine := List.all_eq_true.mp blankRanges_dividing c.toNat (CharRanges.mem_codes_of_has blank)
  rw [Char.ofNat_toNat, Bool.and_eq_true] at mine
  exact divides_of_dividing mine.1

theorem solid_of_alphabetic {c : Char} (letter : isAlphabetic c = true) : isBlank c = false := by
  cases blank : isBlank c with
  | false => rfl
  | true =>
      have mine := List.all_eq_true.mp blankRanges_dividing c.toNat
        (CharRanges.mem_codes_of_has blank)
      rw [Char.ofNat_toNat, letter, Bool.not_true, Bool.and_false] at mine
      cases mine

theorem solid_of_mem_lower {cs : List Char} {c : Char} (solid : ∀ d ∈ cs, isBlank d = false)
    (mem : c ∈ lower cs) : isBlank c = false := by
  rcases mem_lower mem with among | letter | rfl
  · exact solid c among
  · exact solid_of_alphabetic letter
  · decide

theorem splitBlank_lower (cs : List Char) :
    splitBlank (lower cs) = ((splitBlank cs).map lower).filter (!·.isEmpty) := by
  apply splitBlank_map
  · exact lower_nil
  · exact fun _ solid _ mem => solid_of_mem_lower solid mem
  · exact fun before c after blank => (divides_of_blank blank).lower_append before after

/-- Runs are stripped and lowered each by itself. -/
theorem splitBlank_lower_filter (cs : List Char) :
    splitBlank (lower (cs.filter isKept)) =
      ((splitBlank cs).map fun piece => lower (piece.filter isKept)).filter (!·.isEmpty) := by
  apply splitBlank_map (f := fun piece => lower (piece.filter isKept))
  · rfl
  · intro piece solid c mem
    exact solid_of_mem_lower (fun d among => solid d (List.mem_filter.mp among).1) mem
  · intro before c after blank
    have kept : isKept c = true := by rw [isKept, blank, Bool.or_true]
    rw [List.filter_append, List.filter_cons_of_pos kept]
    exact (divides_of_blank blank).lower_append _ _

/-- Marks, connectors and join controls are kept of a text, but not all of them may stand in a bare
word. -/
theorem joins_of_not_bare {c : Char} (kept : isKept c = true) (solid : isBlank c = false)
    (bare : isBareWordChar c = false) :
    isMark c = true ∨ isConnector c = true ∨ isJoinControl c = true := by
  simp only [isBareWordChar, isAlphanumeric, Bool.or_eq_false_iff] at bare
  obtain ⟨⟨⟨letter, numeral⟩, _⟩, hyphen⟩ := bare
  have digit : isDecimalDigit c = false := by
    cases digit : isDecimalDigit c with
    | false => rfl
    | true => exact absurd (numeral_of_decimalDigit digit) (by rw [numeral]; decide)
  simpa only [isKept, isWordChar, hyphen, solid, letter, digit, Bool.false_or, Bool.or_false,
    Bool.or_eq_true, or_assoc] using kept

/-- The other way round, only numbers that are neither letters nor decimal digits may stand in a
bare word and are not kept of a text. -/
theorem number_of_not_kept {c : Char} (bare : isBareWordChar c = true)
    (stripped : isKept c = false) :
    isNumeral c = true ∧ isDecimalDigit c = false ∧ isAlphabetic c = false := by
  simp only [isKept, isWordChar, Bool.or_eq_false_iff] at stripped
  obtain ⟨⟨hyphen, ⟨⟨⟨letter, _⟩, digit⟩, connector⟩, _⟩, _⟩ := stripped
  have low : (c == '_') = false := by
    cases same : c == '_' with
    | false => rfl
    | true =>
        have joins : isConnector '_' = true := by decide
        rw [eq_of_beq same, joins] at connector
        cases connector
  simp only [isBareWordChar, isAlphanumeric, letter, low, hyphen, Bool.false_or,
    Bool.or_false] at bare
  exact ⟨bare, digit, letter⟩

end ImageSearch.Text
