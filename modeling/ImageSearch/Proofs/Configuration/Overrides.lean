import ImageSearch.Configuration.Check
import ImageSearch.Configuration.Override
import ImageSearch.Proofs.Text.Splitting
import ImageSearch.Proofs.Text.Trimming

set_option autoImplicit false

namespace ImageSearch

open Text

section Problems

theorem languageProblems_eq (languages : List String) :
    (languages.zipIdx.flatMap fun (language, index) =>
        onlyIf (!isLanguage language) (Problem.invalidLanguage index language)) =
      (languages.zipIdx.filter fun entry => !isLanguage entry.1).map fun entry =>
        .invalidLanguage entry.2 entry.1 := by
  induction languages.zipIdx with
  | nil => rfl
  | cons entry rest ih =>
      obtain ⟨language, index⟩ := entry
      rw [List.flatMap_cons, ih, List.filter_cons]
      dsimp only
      cases isLanguage language with
      | false => rfl
      | true => rfl

variable {s : WorkerSettings}

theorem WorkerSettings.problems_of_filled (python : isBlankText s.python.toList = false)
    (script : s.script.text.isEmpty = false) (languages : s.languages ≠ []) :
    s.problems = (s.languages.zipIdx.filter fun entry => !isLanguage entry.1).map fun entry =>
      .invalidLanguage entry.2 entry.1 := by
  rw [problems, languageProblems_eq, python, script, List.isEmpty_eq_false_iff.mpr languages]
  rfl

theorem WorkerSettings.problems_eq_nil : s.problems = [] ↔
    isBlankText s.python.toList = false ∧ s.script.text.isEmpty = false ∧ s.languages ≠ [] ∧
      ∀ language ∈ s.languages, isLanguage language = true := by
  simp only [problems, languageProblems_eq, List.append_eq_nil_iff, onlyIf_eq_nil,
    List.map_eq_nil_iff, List.filter_eq_nil_iff, List.isEmpty_eq_false_iff, and_assoc]
  refine and_congr_right fun _ => and_congr_right fun _ => and_congr_right fun _ => ?_
  constructor
  · intro sound language mem
    obtain ⟨i, inside, rfl⟩ := List.mem_iff_getElem.mp mem
    simpa using sound (s.languages[i], i) (by simp [List.mem_zipIdx_iff_getElem?, inside])
  · intro sound entry mem
    simp [sound entry.1 (List.fst_mem_of_mem_zipIdx mem)]

end Problems

namespace Environment

variable {env : Environment} {name s : String}

theorem filled?_eq_some : env.filled? name = some s ↔
    ∃ value, env.get? name = some value ∧ trim value.toList = s.toList ∧ s.toList ≠ [] := by
  rw [filled?, Option.bind_eq_bind, Option.bind_eq_some_iff]
  refine exists_congr fun value => and_congr_right fun _ => ?_
  dsimp only
  generalize trim value.toList = left
  cases left with
  | nil => exact iff_of_false (fun same => by cases same) fun ⟨same, filled⟩ => filled same.symm
  | cons c rest =>
      rw [List.isEmpty_cons, if_neg Bool.false_ne_true, Option.some.injEq, ← String.toList_inj,
        String.toList_ofList]
      exact ⟨fun same => ⟨same, same ▸ List.cons_ne_nil c rest⟩, And.left⟩

theorem not_blank_of_filled? (filled : env.filled? name = some s) :
    isBlankText s.toList = false := by
  obtain ⟨value, _, trimmed, some_left⟩ := filled?_eq_some.mp filled
  obtain ⟨c, among, solid⟩ := exists_solid_of_trim (trimmed ▸ some_left)
  exact List.all_eq_false.mpr ⟨c, trimmed ▸ among, by simp [solid]⟩

/-- The items between the commas of the list of languages, trimmed, blank ones included; there are
none without the variable. -/
def languageItems (env : Environment) : List (List Char) :=
  match env.get? "OCRGREP_LANGUAGES" with
  | none => []
  | some value => (splitOnChar (· == ',') (trim value.toList)).map trim

end Environment

namespace Configuration

variable {env : Environment} {c : Configuration}

theorem environmentLanguages?_eq (env : Environment) :
    environmentLanguages? env =
      let languages := (env.languageItems.filter (!·.isEmpty)).map String.ofList
      if languages = [] then none else some languages := by
  rw [environmentLanguages?, Environment.languageItems, Environment.filled?]
  cases env.get? "OCRGREP_LANGUAGES" with
  | none => rfl
  | some value =>
      simp only [Option.bind_eq_bind, Option.bind_some]
      generalize trim value.toList = left
      cases left with
      | nil => rfl
      | cons first rest => simp [parseList, listEntries]

/-- Of the sections, only the worker's is checked for something that the environment sets. -/
theorem withEnvironment_problems (valid : c.problems = []) (env : Environment) :
    (c.withEnvironment env).problems = (c.withEnvironment env).worker.problems := by
  rw [problems, List.append_eq_nil_iff, List.append_eq_nil_iff] at valid
  obtain ⟨⟨_, scan⟩, output⟩ := valid
  have scan' : (c.withEnvironment env).scan.problems = [] := scan
  have output' : (c.withEnvironment env).output.problems = [] := output
  rw [problems, scan', output', List.append_nil, List.append_nil]

/-- An item is a language unless there is white space in it. -/
theorem isLanguage_ofList {item : List Char} (filled : item.isEmpty = false) :
    (!isLanguage (String.ofList item)) = item.any isBlank := by
  have some : (String.ofList item).isEmpty = false := by
    rw [← filled, Bool.eq_iff_iff, String.isEmpty_iff, List.isEmpty_iff, ← String.toList_inj,
      String.toList_ofList]
    rfl
  rw [isLanguage, some, String.toList_ofList, Bool.not_false, Bool.true_and, List.not_all_eq_any_not]
  simp

theorem problems_items {items : List (List Char)} (filled : ∀ item ∈ items, item.isEmpty = false) :
    (((items.map String.ofList).zipIdx.filter fun entry => !isLanguage entry.1).map fun entry =>
        Problem.invalidLanguage entry.2 entry.1) =
      (items.zipIdx.filter fun entry => entry.1.any isBlank).map fun entry =>
        .invalidLanguage entry.2 (String.ofList entry.1) := by
  rw [List.zipIdx_map, List.filter_map, List.map_map]
  have same : ∀ entry ∈ items.zipIdx, (!isLanguage (String.ofList entry.1)) =
      entry.1.any isBlank :=
    fun entry mem => isLanguage_ofList (filled entry.1 (List.fst_mem_of_mem_zipIdx mem))
  exact congrArg _ (List.filter_congr same)

/-- The problems after the variables are applied to a sound configuration. -/
theorem withEnvironment_problems_eq (valid : c.problems = []) (env : Environment) :
    (c.withEnvironment env).problems =
      ((env.languageItems.filter (!·.isEmpty)).zipIdx.filter fun entry =>
        entry.1.any isBlank).map fun entry =>
          .invalidLanguage entry.2 (String.ofList entry.1) := by
  obtain ⟨python, script, some_language, sound⟩ : isBlankText c.worker.python.toList = false ∧
      c.worker.script.text.isEmpty = false ∧ c.worker.languages ≠ [] ∧
        ∀ language ∈ c.worker.languages, isLanguage language = true := by
    rw [← WorkerSettings.problems_eq_nil]
    exact (List.append_eq_nil_iff.mp (List.append_eq_nil_iff.mp valid).1).1
  have python' : isBlankText (c.withEnvironment env).worker.python.toList = false := by
    show isBlankText ((environmentPython? env).getD c.worker.python).toList = false
    cases given : environmentPython? env with
    | none => exact python
    | some s =>
        rcases Option.or_eq_some_iff.mp given with present | ⟨_, former⟩
        · exact Environment.not_blank_of_filled? present
        · exact Environment.not_blank_of_filled? former
  have script' : (c.withEnvironment env).worker.script.text.isEmpty = false := by
    show (((env.filled? "OCRGREP_WORKER_SCRIPT").map Path.mk).getD c.worker.script).text.isEmpty =
      false
    cases given : env.filled? "OCRGREP_WORKER_SCRIPT" with
    | none => exact script
    | some s =>
        obtain ⟨_, _, _, filled⟩ := Environment.filled?_eq_some.mp given
        exact Bool.eq_false_iff.mpr fun none => filled (String.toList_eq_nil_iff.mpr
          (String.isEmpty_iff.mp none))
  rw [withEnvironment_problems valid]
  have given : (c.withEnvironment env).worker.languages =
      (environmentLanguages? env).getD c.worker.languages := rfl
  rw [environmentLanguages?_eq] at given
  have filled : ∀ item ∈ env.languageItems.filter (!·.isEmpty), item.isEmpty = false :=
    fun item mem => by simpa using (List.mem_filter.mp mem).2
  dsimp only at given
  split at given
  · rename_i nothing
    rw [List.map_eq_nil_iff.mp nothing]
    refine WorkerSettings.problems_eq_nil.mpr ⟨python', script', ?_⟩
    rw [given]
    exact ⟨some_language, sound⟩
  · rename_i something
    rw [WorkerSettings.problems_of_filled python' script' (given ▸ something), given]
    exact problems_items filled

theorem withEnvironment_withEnvironment (env : Environment) (c : Configuration) :
    (c.withEnvironment env).withEnvironment env = c.withEnvironment env := by
  have again {α : Type} (given : Option α) (before : α) :
      given.getD (given.getD before) = given.getD before := by
    cases given with
    | none => rfl
    | some _ => rfl
  have again' {α : Type} (given before : Option α) :
      given.or (given.or before) = given.or before := by
    cases given with
    | none => rfl
    | some _ => rfl
  simp only [withEnvironment, again, again']

/-- The environment leaves a sound configuration sound, unless an item of its list of languages has
white space inside. Then there is one error for each such item, at its place among the items that
are not blank, and no other. The same variables change nothing when they are applied again. -/
theorem withEnvironment_remarks (c : Configuration) (valid : c.problems = [])
    (env : Environment) :
    let after := c.withEnvironment env
    let items := env.languageItems.filter (!·.isEmpty)
    (after.problems ≠ [] ↔ ∃ item ∈ env.languageItems, ∃ d ∈ item, isBlank d = true) ∧
    after.problems.map Problem.remark =
      ((items.zipIdx.filter fun entry => entry.1.any isBlank).map fun entry =>
        ⟨indexed "worker.languages" entry.2,
          s!"Invalid language code {quoted (String.ofList entry.1)}"⟩) ∧
    after.withEnvironment env = after := by
  intro after items
  have whole := withEnvironment_problems_eq valid env
  refine ⟨?_, ?_, withEnvironment_withEnvironment env c⟩
  · rw [whole, ne_eq, List.map_eq_nil_iff]
    constructor
    · intro some
      obtain ⟨entry, mem⟩ := List.exists_mem_of_ne_nil _ some
      obtain ⟨mem, spaced⟩ := List.mem_filter.mp mem
      exact ⟨entry.1, (List.mem_filter.mp (List.fst_mem_of_mem_zipIdx mem)).1,
        List.any_eq_true.mp spaced⟩
    · rintro ⟨item, mem, d, inside, blank⟩ none
      rw [List.filter_eq_nil_iff] at none
      have among : item ∈ env.languageItems.filter (!·.isEmpty) :=
        List.mem_filter.mpr ⟨mem, by cases item with | nil => cases inside | cons => rfl⟩
      obtain ⟨i, short, rfl⟩ := List.mem_iff_getElem.mp among
      refine none (_, i) (List.mk_mem_zipIdx_iff_getElem?.mpr (List.getElem?_eq_getElem short)) ?_
      exact List.any_eq_true.mpr ⟨d, inside, blank⟩
  · rw [whole, List.map_map]
    rfl

/-- Two of the three codes have white space inside; the blank item has no place. -/
theorem withEnvironment_remarks_spaced :
    let c := Configuration.default none
    let env : Environment := [("PYTHON_PATH", " py "), ("OCRGREP_LANGUAGES", " en, f r , ,de\tx"),
      ("OCRGREP_TIMEOUT_SECS", "soon")]
    let after := c.withEnvironment env
    c.problems = [] ∧ after.problems.map Problem.remark =
      [⟨"worker.languages[1]", "Invalid language code \"f r\""⟩,
        ⟨"worker.languages[2]", "Invalid language code \"de\\tx\""⟩] ∧
      after.worker.python = "py" ∧ after.worker.timeoutSecs = 120 ∧
        after.withEnvironment env = after := by
  intro c env after
  have valid : c.problems = [] := by decide +kernel
  obtain ⟨_, remarks, again⟩ := withEnvironment_remarks c valid env
  refine ⟨valid, remarks.trans ?_, by decide +kernel, by decide +kernel, again⟩
  decide +kernel

end Configuration

end ImageSearch
