import ImageSearch.Configuration.Runtime
import ImageSearch.Proofs.Path.Joining
import ImageSearch.Proofs.Text.Splitting

set_option autoImplicit false

namespace ImageSearch

namespace Worker

variable {entries : List (List Char)} {entry : List Char}

theorem splitSearchPath_eq (cs : List Char) : splitSearchPath cs = cs.splitOn ':' :=
  Text.splitOnChar_eq_splitOnP _ cs

theorem separator_not_mem {cs : List Char} (among : entry ∈ splitSearchPath cs) : ':' ∉ entry := by
  intro inside
  have plain := (Text.mem_splitOnChar among ':' inside).2
  cases plain

/-- Entries without the separator are found again, empty ones included. -/
theorem splitSearchPath_join (some : entries ≠ []) (whole : ∀ entry ∈ entries, ':' ∉ entry) :
    splitSearchPath (joinSearchPath entries) = entries := by
  rw [splitSearchPath_eq]
  exact List.splitOn_intercalate ':' whole some

theorem separator_not_mem_inherited {inherited : Option String}
    (among : entry ∈ inheritedEntries inherited) : ':' ∉ entry := by
  cases inherited with
  | none => cases among
  | some path => exact separator_not_mem among

namespace Settings

variable {s : Settings} {inherited : Option String}

/-- A search path is made exactly of folders whose names do not hold the separator. -/
theorem searchPath?_eq_some {path : String} : s.searchPath? inherited = some path ↔
    (s.searchPaths ≠ [] ∧ ∀ folder ∈ s.searchPaths, ':' ∉ folder.text.toList) ∧
      String.ofList (joinSearchPath
        (s.searchPaths.map (·.text.toList) ++ inheritedEntries inherited)) = path := by
  have made : ((s.searchPaths.map (·.text.toList)).isEmpty ||
      (s.searchPaths.map (·.text.toList)).any (·.contains ':')) = false ↔
        s.searchPaths ≠ [] ∧ ∀ folder ∈ s.searchPaths, ':' ∉ folder.text.toList := by
    simp
  rw [searchPath?, ← made]
  cases (s.searchPaths.map (·.text.toList)).isEmpty ||
      (s.searchPaths.map (·.text.toList)).any (·.contains ':') with
  | true => simp
  | false => simp

theorem split_searchPath {path : String} (made : s.searchPath? inherited = some path) :
    splitSearchPath path.toList =
      s.searchPaths.map (·.text.toList) ++ inheritedEntries inherited := by
  obtain ⟨⟨some, whole⟩, rfl⟩ := searchPath?_eq_some.mp made
  rw [String.toList_ofList]
  apply splitSearchPath_join
  · exact List.append_ne_nil_of_left_ne_nil (mt List.map_eq_nil_iff.mp some) _
  · intro entry among
    rcases List.mem_append.mp among with own | other
    · obtain ⟨folder, mem, rfl⟩ := List.mem_map.mp own
      exact whole folder mem
    · exact separator_not_mem_inherited other

end Settings

end Worker

namespace Configuration

variable {c : Configuration} {inContainer : Bool} {home : Option Path} {installation : Path}

/-- The worker of a configuration has one folder of its own, that of the installation's programs,
and no search path of its own. -/
theorem workerSettings_installed
    (installed : c.worker.installation? (c.worker.resolvedMode inContainer) home =
      some installation) :
    let s := c.workerSettings (c.worker.runtimeEnvironment inContainer home)
    s.searchPaths = [installation.join ⟨"bin"⟩] ∧ s.environment.get? "PATH" = none := by
  have runtime : c.worker.runtimeEnvironment inContainer home =
      ⟨c.worker.resolvedMode inContainer, [installation.join ⟨"bin"⟩],
        [("PYTHONPATH", (c.worker.packages installation).text)]⟩ := by
    rw [WorkerSettings.runtimeEnvironment, installed]
  rw [runtime]
  exact ⟨rfl, rfl⟩

end Configuration

open Worker

/-- The search path of any worker, and that of a configuration's worker. -/
theorem searchPath_entries :
    (∀ (s : Worker.Settings) (inherited : Option String),
      ((s.searchPath? inherited).isSome ↔
        s.searchPaths ≠ [] ∧ ∀ folder ∈ s.searchPaths, ':' ∉ folder.text.toList) ∧
      ∀ path, s.searchPath? inherited = some path → splitSearchPath path.toList =
        s.searchPaths.map (·.text.toList) ++ inheritedEntries inherited) ∧
    ∀ (c : Configuration) (inContainer : Bool) (home : Option Path) (inherited : Option String)
      (installation : Path),
      c.worker.installation? (c.worker.resolvedMode inContainer) home = some installation →
      ':' ∉ installation.text.toList →
      ∃ path, (c.workerSettings (c.worker.runtimeEnvironment inContainer home)).workerPath?
          inherited = some path ∧
        splitSearchPath path.toList =
          (installation.join ⟨"bin"⟩).text.toList :: inheritedEntries inherited := by
  have made (s : Worker.Settings) (inherited : Option String) : (s.searchPath? inherited).isSome ↔
      s.searchPaths ≠ [] ∧ ∀ folder ∈ s.searchPaths, ':' ∉ folder.text.toList := by
    rw [Option.isSome_iff_exists]
    constructor
    · rintro ⟨path, is⟩
      exact (Settings.searchPath?_eq_some.mp is).1
    · exact fun sound => ⟨_, Settings.searchPath?_eq_some.mpr ⟨sound, rfl⟩⟩
  refine ⟨fun s inherited => ⟨made s inherited, fun path => Settings.split_searchPath⟩, ?_⟩
  intro c inContainer home inherited installation installed whole
  obtain ⟨own, unset⟩ := Configuration.workerSettings_installed installed
  have sound : ':' ∉ (installation.join ⟨"bin"⟩).text.toList := by
    intro separator
    rcases Path.mem_toList_join separator with before | slash | after
    · exact whole before
    · cases slash
    · revert after
      decide
  obtain ⟨path, is⟩ := Option.isSome_iff_exists.mp
    ((made (c.workerSettings (c.worker.runtimeEnvironment inContainer home)) inherited).mpr
      (by simpa [own] using sound))
  refine ⟨path, ?_, ?_⟩
  · rw [Settings.workerPath?, unset, is]
    rfl
  · rw [Settings.split_searchPath is, own]
    rfl

/-- The tilde stands for the home folder; the inherited path has an empty entry and a repeated one,
and the worker finds both in their places. -/
theorem searchPath_entries_home :
    let worker := { WorkerSettings.default with
      runtime := .localHome, venv := some ⟨"~/venvs/ocr/"⟩ }
    let c := { Configuration.default none with worker }
    let home : Path := ⟨"/home/ada"⟩
    worker.installation? (worker.resolvedMode true) home = some ⟨"/home/ada/venvs/ocr"⟩ ∧
      ∃ path, (c.workerSettings (worker.runtimeEnvironment true home)).workerPath?
          (some "/bin::/bin") = some path ∧
        (splitSearchPath path.toList).map String.ofList =
          ["/home/ada/venvs/ocr/bin", "/bin", "", "/bin"] := by
  intro worker c home
  have installed : worker.installation? (worker.resolvedMode true) home =
      some ⟨"/home/ada/venvs/ocr"⟩ := by
    decide +kernel
  obtain ⟨path, given, entries⟩ := searchPath_entries.2 c true home (some "/bin::/bin")
    ⟨"/home/ada/venvs/ocr"⟩ installed (by decide)
  refine ⟨installed, path, given, ?_⟩
  rw [entries]
  decide +kernel

end ImageSearch
