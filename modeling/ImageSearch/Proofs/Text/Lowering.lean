import ImageSearch.Text.Lower

set_option autoImplicit false

namespace ImageSearch.Text

/-- The distance from the first capital to the last one, and from the first small letter to the
last one. -/
def CaseRun.span (run : CaseRun) : Nat := (run.count - 1) * run.step

/-- No small letter of a run is a capital of the other one: they lie outside, or between the
capitals. -/
def CaseRun.avoids (run other : CaseRun) : Bool :=
  Nat.blt (run.target + run.span) other.first || Nat.blt (other.first + other.span) run.target ||
    (Nat.beq other.step 2 && (Nat.beq run.step 2 || Nat.beq run.count 1) &&
      Nat.beq ((run.target + other.first) % 2) 1)

/-- The capital I with a dot has two characters for its small form. -/
def dottedCapital : CaseRun := ⟨0x130, 1, 1, 0x69⟩

theorem lowerRuns_avoid :
    (lowerRuns.all fun run => (dottedCapital :: lowerRuns).all run.avoids) = true := by
  decide +kernel

theorem CaseRun.map?_eq_some {run : CaseRun} {n m : Nat} (found : run.map? n = some m) :
    ∃ i < run.count, n = run.first + i * run.step ∧ m = run.target + i * run.step := by
  rw [CaseRun.map?] at found
  split at found
  · rename_i inside
    obtain ⟨above, whole, below⟩ := inside
    refine ⟨(n - run.first) / run.step, below, ?_⟩
    rw [Nat.div_mul_cancel (Nat.dvd_of_mod_eq_zero whole)]
    refine ⟨?_, (Option.some.inj found).symm⟩
    omega
  · cases found

theorem lowerCode?_eq_some {runs : List CaseRun} {n m : Nat}
    (found : lowerCode? runs n = some m) :
    ∃ run ∈ runs, ∃ i < run.count, n = run.first + i * run.step ∧
      m = run.target + i * run.step := by
  induction runs with
  | nil => cases found
  | cons run rest ih =>
      rw [lowerCode?] at found
      split at found
      · cases found
      · rcases Option.or_eq_some_iff.mp found with here | ⟨_, later⟩
        · exact ⟨run, List.mem_cons_self, CaseRun.map?_eq_some here⟩
        · obtain ⟨other, among, small⟩ := ih later
          exact ⟨other, List.mem_cons_of_mem run among, small⟩

theorem lowerCode?_eq_none {runs : List CaseRun} {n : Nat}
    (outside : ∀ run ∈ runs, run.map? n = none) : lowerCode? runs n = none := by
  induction runs with
  | nil => rfl
  | cons run rest ih =>
      have later := ih fun other among => outside other (List.mem_cons_of_mem run among)
      rw [lowerCode?, outside run List.mem_cons_self, later]
      split
      · rfl
      · rfl

theorem CaseRun.map?_of_avoids {run other : CaseRun} {i : Nat}
    (avoids : run.avoids other = true) (inside : i < run.count) :
    other.map? (run.target + i * run.step) = none := by
  have low : i * run.step ≤ run.span := Nat.mul_le_mul_right run.step (by omega)
  rw [CaseRun.map?, if_neg]
  rintro ⟨above, whole, below⟩
  have high : run.target + i * run.step - other.first ≤ other.span := by
    rw [← Nat.div_mul_cancel (Nat.dvd_of_mod_eq_zero whole)]
    exact Nat.mul_le_mul_right other.step (by omega)
  simp only [CaseRun.avoids, Bool.or_eq_true, Bool.and_eq_true, Nat.blt_eq, Nat.beq_eq] at avoids
  rcases avoids with (before | after) | ⟨⟨double, _ | one⟩, odd⟩
  · omega
  · omega
  · rw [double] at whole
    have even : i * run.step % 2 = 0 := by
      simp_all
    omega
  · have first : i = 0 := by omega
    subst first
    rw [double] at whole
    omega

/-- The character is its own lower-case form, wherever it stands. -/
def Settled (c : Char) : Prop := lowerChar c = [c] ∧ c ≠ 'Σ'

theorem settled_of_lowerCode? {c : Char} (undotted : c ≠ 'İ')
    (small : lowerCode? lowerRuns c.toNat = none) : Settled c := by
  refine ⟨by rw [lowerChar, if_neg undotted, small], ?_⟩
  rintro rfl
  have capital : lowerCode? lowerRuns 'Σ'.toNat = some 0x3C3 := by decide
  cases small.symm.trans capital

theorem settled_of_mem_lowerChar {c d : Char} (mem : d ∈ lowerChar c) : Settled d := by
  rw [lowerChar] at mem
  split at mem
  · have both : Settled 'i' ∧ Settled '\u0307' :=
      ⟨settled_of_lowerCode? (by decide) (by decide),
        settled_of_lowerCode? (by decide) (by decide)⟩
    rcases List.mem_cons.mp mem with rfl | mem
    · exact both.1
    · rw [List.mem_singleton.mp mem]
      exact both.2
  · rename_i undotted
    split at mem
    · rename_i m found
      obtain ⟨run, among, i, inside, _, rfl⟩ := lowerCode?_eq_some found
      have avoids := List.all_eq_true.mp (List.all_eq_true.mp lowerRuns_avoid run among)
      have outside (other : CaseRun) (among : other ∈ dottedCapital :: lowerRuns) :
          other.map? (run.target + i * run.step) = none :=
        CaseRun.map?_of_avoids (avoids other among) inside
      rw [List.mem_singleton.mp mem]
      by_cases valid : Nat.isValidChar (run.target + i * run.step)
      · have code : (Char.ofNat (run.target + i * run.step)).toNat =
            run.target + i * run.step := by
          rw [Char.ofNat, dif_pos valid]
          rfl
        refine settled_of_lowerCode? (fun dotted => ?_) ?_
        · have apart := outside dottedCapital List.mem_cons_self
          rw [← code, dotted] at apart
          cases apart
        · rw [code]
          exact lowerCode?_eq_none fun other among =>
            outside other (List.mem_cons_of_mem dottedCapital among)
      -- A number that is no code point stands for the null character.
      · rw [Char.ofNat, dif_neg valid]
        exact settled_of_lowerCode? (by decide) rfl
    · rename_i small
      rw [List.mem_singleton.mp mem]
      exact settled_of_lowerCode? undotted small

theorem lowerAfter_eq_self {before cs : List Char} (settled : ∀ c ∈ cs, Settled c) :
    lowerAfter before cs = cs := by
  induction cs generalizing before with
  | nil => rfl
  | cons c rest ih =>
      obtain ⟨same, other⟩ := settled c List.mem_cons_self
      rw [lowerAfter, if_neg other, same, ih fun d among => settled d (List.mem_cons_of_mem c among)]
      rfl

theorem lower_eq_self {cs : List Char} (settled : ∀ c ∈ cs, Settled c) : lower cs = cs :=
  lowerAfter_eq_self settled

theorem settled_of_mem_lowerAfter {before cs : List Char} {c : Char}
    (mem : c ∈ lowerAfter before cs) : Settled c := by
  induction cs generalizing before with
  | nil => cases mem
  | cons d rest ih =>
      rw [lowerAfter, List.mem_append] at mem
      rcases mem with here | later
      · split at here
        · have sigmas : Settled 'ς' ∧ Settled 'σ' :=
            ⟨settled_of_lowerCode? (by decide) (by decide),
              settled_of_lowerCode? (by decide) (by decide)⟩
          rw [List.mem_singleton.mp here]
          split
          · exact sigmas.1
          · exact sigmas.2
        · exact settled_of_mem_lowerChar here
      · exact ih later

theorem settled_of_mem_lower {cs : List Char} {c : Char} (mem : c ∈ lower cs) : Settled c :=
  settled_of_mem_lowerAfter mem

theorem lower_lower (cs : List Char) : lower (lower cs) = lower cs :=
  lower_eq_self fun _ mem => settled_of_mem_lower mem

theorem lowerString_lowerString (s : String) : lowerString (lowerString s) = lowerString s := by
  rw [lowerString, toList_lowerString, lower_lower, lowerString]

theorem lowerChar_ne_nil (c : Char) : lowerChar c ≠ [] := by
  rw [lowerChar]
  split
  · exact List.cons_ne_nil _ _
  · split
    · exact List.cons_ne_nil _ _
    · exact List.cons_ne_nil _ _

theorem lower_ne_nil {cs : List Char} (nonempty : cs ≠ []) : lower cs ≠ [] := by
  cases cs with
  | nil => exact absurd rfl nonempty
  | cons c rest =>
      rw [lower, lowerAfter]
      apply List.append_ne_nil_of_left_ne_nil
      split
      · exact List.cons_ne_nil _ _
      · exact lowerChar_ne_nil c

/-- Neither a cased letter nor one that the search for a cased letter looks through. -/
structure Divides (c : Char) : Prop where
  seen : isCaseIgnorable c = false
  caseless : isCased c = false
  settled : Settled c

def dividing (c : Char) : Bool :=
  !isCaseIgnorable c && !isCased c && (lowerCode? lowerRuns c.toNat).isNone && c != 'İ'

theorem divides_of_dividing {c : Char} (check : dividing c = true) : Divides c := by
  simp only [dividing, Bool.and_eq_true, Bool.not_eq_true', Option.isNone_iff_eq_none,
    bne_iff_ne] at check
  obtain ⟨⟨⟨seen, caseless⟩, small⟩, undotted⟩ := check
  exact ⟨seen, caseless, settled_of_lowerCode? undotted small⟩

theorem Divides.casedAhead_append {c : Char} (divides : Divides c) (cs more : List Char) :
    casedAhead (cs ++ c :: more) = casedAhead cs := by
  induction cs with
  | nil =>
      rw [List.nil_append, casedAhead, List.dropWhile_cons_of_neg (by simp [divides.seen])]
      exact divides.caseless
  | cons d cs ih =>
      by_cases ignorable : isCaseIgnorable d = true
      · have skip (tail : List Char) : casedAhead (d :: tail) = casedAhead tail := by
          rw [casedAhead, List.dropWhile_cons_of_pos ignorable, casedAhead]
        rw [List.cons_append, skip, skip, ih]
      · have stop (tail : List Char) : casedAhead (d :: tail) = isCased d := by
          rw [casedAhead, List.dropWhile_cons_of_neg ignorable]
        rw [List.cons_append, stop, stop]

theorem Divides.isFinalSigma_before {c : Char} (divides : Divides c)
    (before more after : List Char) :
    isFinalSigma (before ++ c :: more) after = isFinalSigma before after := by
  rw [isFinalSigma, isFinalSigma, divides.casedAhead_append]

theorem Divides.isFinalSigma_after {c : Char} (divides : Divides c)
    (before after more : List Char) :
    isFinalSigma before (after ++ c :: more) = isFinalSigma before after := by
  rw [isFinalSigma, isFinalSigma, divides.casedAhead_append]

/-- What stands before the dividing character does not matter after it. -/
theorem Divides.lowerAfter_before {c : Char} (divides : Divides c)
    (before more cs : List Char) :
    lowerAfter (before ++ c :: more) cs = lowerAfter before cs := by
  induction cs generalizing before with
  | nil => rfl
  | cons d rest ih =>
      have deeper : lowerAfter (d :: (before ++ c :: more)) rest = lowerAfter (d :: before) rest :=
        ih (d :: before)
      rw [lowerAfter, deeper, divides.isFinalSigma_before]
      rfl

theorem Divides.lowerAfter_append {c : Char} (divides : Divides c) (before cs rest : List Char) :
    lowerAfter before (cs ++ c :: rest) = lowerAfter before cs ++ c :: lower rest := by
  induction cs generalizing before with
  | nil =>
      obtain ⟨same, other⟩ := divides.settled
      rw [List.nil_append, lowerAfter_nil, lowerAfter, if_neg other, same]
      exact congrArg (c :: ·) (divides.lowerAfter_before [] before rest)
  | cons d cs ih =>
      rw [List.cons_append, lowerAfter, ih, divides.isFinalSigma_after, ← List.append_assoc]
      rfl

theorem Divides.lower_append {c : Char} (divides : Divides c) (cs rest : List Char) :
    lower (cs ++ c :: rest) = lower cs ++ c :: lower rest :=
  divides.lowerAfter_append [] cs rest

end ImageSearch.Text
