import ImageSearch.Document.Basic
import ImageSearch.Proofs.Text.Lowering

set_option autoImplicit false

namespace ImageSearch.Text

def caseless (cs : List Char) : List Char := cs.map Char.toLower

/-- A function that gives the same for each of the 26 capitals and its small letter gives the same
for every character and its small letter. -/
theorem toLower_same {α : Type} {f : Char → α}
    (same : ∀ n ∈ List.range' 65 26, f (Char.ofNat n).toLower = f (Char.ofNat n)) (c : Char) :
    f c.toLower = f c := by
  by_cases capital : c.toNat ∈ List.range' 65 26
  · have mine := same c.toNat capital
    rwa [Char.ofNat_toNat] at mine
  · have small : c.toLower = c := by
      apply dif_neg
      rintro ⟨above, below⟩
      have low : 65 ≤ c.toNat := UInt32.le_iff_toNat_le.mp above
      have high : c.toNat ≤ 90 := UInt32.le_iff_toNat_le.mp below
      apply capital
      rw [List.mem_range'_1]
      omega
    rw [small]

theorem isBlank_toLower (c : Char) : isBlank c.toLower = isBlank c :=
  toLower_same (by decide) c

theorem isKept_toLower (c : Char) : isKept c.toLower = isKept c :=
  toLower_same (by decide) c

theorem isCased_toLower (c : Char) : isCased c.toLower = isCased c :=
  toLower_same (by decide) c

theorem isCaseIgnorable_toLower (c : Char) : isCaseIgnorable c.toLower = isCaseIgnorable c :=
  toLower_same (by decide) c

theorem lowerChar_toLower (c : Char) : lowerChar c.toLower = lowerChar c :=
  toLower_same (by decide) c

theorem sigma_toLower (c : Char) : c.toLower = 'Σ' ↔ c = 'Σ' := by
  have same : (c.toLower == 'Σ') = (c == 'Σ') := toLower_same (f := (· == 'Σ')) (by decide) c
  rw [← beq_iff_eq, same, beq_iff_eq]

theorem casedAhead_caseless (cs : List Char) : casedAhead (caseless cs) = casedAhead cs := by
  have ignorable : isCaseIgnorable ∘ Char.toLower = isCaseIgnorable :=
    funext isCaseIgnorable_toLower
  rw [casedAhead, casedAhead, caseless, List.dropWhile_map, ignorable]
  cases cs.dropWhile isCaseIgnorable with
  | nil => rfl
  | cons c rest => exact isCased_toLower c

theorem lowerAfter_caseless (before cs : List Char) :
    lowerAfter (caseless before) (caseless cs) = lowerAfter before cs := by
  induction cs generalizing before with
  | nil => rfl
  | cons c rest ih =>
      have later : lowerAfter (c.toLower :: caseless before) (caseless rest) =
          lowerAfter (c :: before) rest := ih (c :: before)
      have final : isFinalSigma (caseless before) (caseless rest) = isFinalSigma before rest := by
        rw [isFinalSigma, isFinalSigma, casedAhead_caseless, casedAhead_caseless]
      show lowerAfter (caseless before) (c.toLower :: caseless rest) = _
      rw [lowerAfter, lowerAfter, later, final, lowerChar_toLower]
      simp only [sigma_toLower]

/-- The full lower-case form does not depend on the case of the letters from A to Z. -/
theorem lower_caseless (cs : List Char) : lower (caseless cs) = lower cs :=
  lowerAfter_caseless [] cs

theorem isBlankText_caseless (cs : List Char) : isBlankText (caseless cs) = isBlankText cs := by
  have same : isBlank ∘ Char.toLower = isBlank := funext isBlank_toLower
  rw [isBlankText, isBlankText, caseless, List.all_map, same]

theorem extractWords_caseless (text : List Char) :
    extractWords (caseless text) = extractWords text := by
  have same : isKept ∘ Char.toLower = isKept := funext isKept_toLower
  have stripped : (caseless text).filter isKept = caseless (text.filter isKept) := by
    rw [caseless, List.filter_map, same]
    rfl
  rw [extractWords, stripped, lower_caseless, extractWords]

end ImageSearch.Text
