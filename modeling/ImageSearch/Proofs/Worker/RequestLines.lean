import ImageSearch.Configuration.Check
import ImageSearch.Configuration.Override
import ImageSearch.Proofs.Text.Splitting
import ImageSearch.Worker.Request

set_option autoImplicit false

namespace ImageSearch

open Text

theorem isLanguage_iff {language : String} : isLanguage language = true ↔
    language ≠ "" ∧ ∀ ch ∈ language.toList, isBlank ch = false := by
  simp [isLanguage]

theorem isLanguage_of_problems {c : Configuration} (valid : c.problems = []) {language : String}
    (among : language ∈ c.worker.languages) : isLanguage language = true := by
  rw [Configuration.problems, List.append_eq_nil_iff, List.append_eq_nil_iff,
    WorkerSettings.problems, List.append_eq_nil_iff, List.flatMap_eq_nil_iff] at valid
  obtain ⟨index, inside, rfl⟩ := List.mem_iff_getElem.mp among
  have mine := valid.1.1.2 (c.worker.languages[index], index)
    (List.mk_mem_zipIdx_iff_getElem?.mpr (List.getElem?_eq_getElem inside))
  simpa using onlyIf_eq_nil.mp mine

namespace Worker.Request

variable {r s : Request} {line : String}

theorem isCommand_iff {command : String} : isCommand command = true ↔
    command ≠ "" ∧ ∀ c ∈ command.toList, isBlank c = false := by
  simp [isCommand]

theorem unbroken_iff {cs : List Char} :
    cs.any isLineBreak = false ↔ '\n' ∉ cs ∧ '\r' ∉ cs := by
  simp only [List.any_eq_false, isLineBreak, Bool.or_eq_true, beq_iff_eq, not_or]
  constructor
  · intro apart
    exact ⟨fun feed => (apart _ feed).1 rfl, fun cr => (apart _ cr).2 rfl⟩
  · rintro ⟨feed, cr⟩ c mem
    exact ⟨fun same => feed (same ▸ mem), fun same => cr (same ▸ mem)⟩

theorem line_eq_ok : r.line = .ok line ↔ isCommand r.command = true ∧
    (∀ arg ∈ r.args, '\n' ∉ arg.toList ∧ '\r' ∉ arg.toList) ∧ line = String.ofList r.render := by
  have unbroken : r.args.find? (·.toList.any isLineBreak) = none ↔
      ∀ arg ∈ r.args, '\n' ∉ arg.toList ∧ '\r' ∉ arg.toList := by
    simp only [List.find?_eq_none, Bool.not_eq_true, unbroken_iff]
  rw [← unbroken, Request.line]
  cases isCommand r.command with
  | false => simp
  | true =>
      cases r.args.find? (·.toList.any isLineBreak) with
      | none => simp [eq_comm]
      | some arg => simp

/-- A request without its line feed: the command and the arguments with a space between each two. -/
theorem render_eq (r : Request) :
    r.render = [' '].intercalate (r.command.toList :: r.args.map String.toList) ++ ['\n'] := by
  have joined (args : List String) (first : List Char) :
      first ++ args.flatMap (fun arg => ' ' :: arg.toList) =
        [' '].intercalate (first :: args.map String.toList) := by
    induction args generalizing first with
    | nil => rw [List.map_nil, List.intercalate_singleton, List.flatMap_nil, List.append_nil]
    | cons arg rest ih =>
        rw [List.map_cons, intercalate_cons_cons, ← ih]
        rfl
  rw [render, joined]

theorem framed_of_line (encodes : r.line = .ok line) :
    ∃ body, line.toList = body ++ ['\n'] ∧ '\n' ∉ body ∧ '\r' ∉ body := by
  obtain ⟨named, unbroken, rfl⟩ := line_eq_ok.mp encodes
  obtain ⟨_, solid⟩ := isCommand_iff.mp named
  have command : r.command.toList.any isLineBreak = false :=
    unbroken_iff.mpr ⟨fun feed => absurd (solid _ feed) (by decide),
      fun cr => absurd (solid _ cr) (by decide)⟩
  have args : (r.args.flatMap fun arg => ' ' :: arg.toList).any isLineBreak = false := by
    rw [List.any_flatMap, List.any_eq_false]
    intro arg among
    rw [List.any_cons, unbroken_iff.mpr (unbroken arg among)]
    decide
  refine ⟨_, String.toList_ofList, unbroken_iff.mp ?_⟩
  rw [List.any_append, command, args, Bool.false_or]

/-- The command is what stands before the first white space. -/
theorem takeWhile_render (named : isCommand r.command = true) :
    r.render.takeWhile (!isBlank ·) = r.command.toList := by
  obtain ⟨_, solid⟩ := isCommand_iff.mp named
  rw [render, List.append_assoc, List.takeWhile_append_of_pos]
  · cases r.args with
    | nil => exact List.append_nil _
    | cons arg rest => exact List.append_nil _
  · intro c mem
    rw [solid c mem, Bool.not_false]

/-- A request to load languages falls apart at its spaces. -/
theorem split_load {languages : List String}
    (solid : ∀ language ∈ languages, isLanguage language = true) :
    splitOnChar (· == ' ') (load languages).render.dropLast =
      "init".toList :: languages.map String.toList := by
  rw [render_eq, List.dropLast_concat, splitOnChar_eq_splitOnP]
  apply List.splitOn_intercalate ' '
  · intro piece mem space
    rcases List.mem_cons.mp mem with rfl | mem
    · have outside : ' ' ∉ "init".toList := by decide
      exact outside space
    · obtain ⟨language, among, rfl⟩ := List.mem_map.mp mem
      have blank := (isLanguage_iff.mp (solid language among)).2 ' ' space
      exact absurd blank (by decide)
  · exact List.cons_ne_nil _ _

theorem line_load {languages : List String}
    (solid : ∀ language ∈ languages, isLanguage language = true) :
    (load languages).line = .ok (String.ofList (load languages).render) := by
  have named : isCommand "init" = true := by decide
  refine line_eq_ok.mpr ⟨named, ?_, rfl⟩
  intro language among
  have inside := (isLanguage_iff.mp (solid language among)).2
  exact ⟨fun feed => absurd (inside _ feed) (by decide), fun cr => absurd (inside _ cr) (by decide)⟩

theorem line_read {path : Path} (feed : '\n' ∉ path.text.toList) (cr : '\r' ∉ path.text.toList) :
    (read path).line = .ok ("read_text " ++ path.text ++ "\n") := by
  have named : isCommand "read_text" = true := by decide
  refine line_eq_ok.mpr ⟨named, ?_, ?_⟩
  · intro arg among
    rw [List.mem_singleton.mp among]
    exact ⟨feed, cr⟩
  · rw [← String.toList_inj, String.toList_ofList]
    simp [render, read]

/-- The requests of a run: a configuration without problems, whatever has been overridden in it,
gives the languages, and the paths of the images have no line breaks. -/
inductive Regular : Request → Prop
  | load {c : Configuration} (valid : c.problems = []) : Regular (.load c.worker.languages)
  | read {path : Path} (feed : '\n' ∉ path.text.toList) (cr : '\r' ∉ path.text.toList) :
      Regular (.read path)
  | close : Regular .close

theorem Regular.encodes (regular : Regular r) : r.line = .ok (String.ofList r.render) := by
  cases regular with
  | load valid => exact line_load fun _ among => isLanguage_of_problems valid among
  | @read path feed cr =>
      have encodes := line_read feed cr
      rw [encodes, (line_eq_ok.mp encodes).2.2]
  | close => rfl

/-- Regular requests with one line are one request. -/
theorem Regular.eq_of_render (first : Regular r) (second : Regular s) (same : r.render = s.render) :
    r = s := by
  have commands : r.command = s.command := by
    rw [← String.toList_inj, ← takeWhile_render (line_eq_ok.mp first.encodes).1, same,
      takeWhile_render (line_eq_ok.mp second.encodes).1]
  cases first with
  | @load c valid =>
      cases second with
      | @load d valid' =>
          have pieces := split_load fun _ among => isLanguage_of_problems valid among
          rw [same, split_load fun _ among => isLanguage_of_problems valid' among] at pieces
          have languages : c.worker.languages = d.worker.languages :=
            ((List.map_inj_right fun _ _ => String.toList_inj.mp).mp (List.cons.inj pieces).2).symm
          rw [languages]
      | read | close => simp [Request.load, Request.read, Request.close] at commands
  | @read path =>
      cases second with
      | @read other =>
          have texts : path.text = other.text := by
            simpa [render, Request.read, String.toList_inj] using same
          rw [Request.read, Request.read, texts]
      | load | close => simp [Request.load, Request.read, Request.close] at commands
  | close =>
      cases second with
      | close => rfl
      | load | read => simp [Request.load, Request.read, Request.close] at commands

/-- A request has a line exactly if its command is a word without white space and no argument has a
line break; a line ends in its only line feed and has no carriage return. Loading and reading are
never refused where the configuration has no problem and the path has no line break. The languages
are then the pieces between the spaces, the path is what stands between the command and the line
feed, and two such requests with the same line are the same. -/
theorem lines_recoverable :
    (∀ r : Request, (∃ line, r.line = .ok line) ↔
      (r.command ≠ "" ∧ ∀ c ∈ r.command.toList, isBlank c = false) ∧
        ∀ arg ∈ r.args, '\n' ∉ arg.toList ∧ '\r' ∉ arg.toList) ∧
    (∀ (r : Request) line, r.line = .ok line →
      ∃ body, line.toList = body ++ ['\n'] ∧ '\n' ∉ body ∧ '\r' ∉ body) ∧
    (∀ c : Configuration, c.problems = [] → ∃ line, (load c.worker.languages).line = .ok line ∧
      splitOnChar (· == ' ') line.toList.dropLast =
        "init".toList :: c.worker.languages.map String.toList) ∧
    (∀ path : Path, '\n' ∉ path.text.toList → '\r' ∉ path.text.toList →
      (read path).line = .ok ("read_text " ++ path.text ++ "\n")) ∧
    ∀ r s, Regular r → Regular s → r.line = s.line → r = s := by
  refine ⟨?_, fun r line encodes => framed_of_line encodes, ?_, ?_, ?_⟩
  · intro r
    rw [← isCommand_iff]
    constructor
    · rintro ⟨line, encodes⟩
      obtain ⟨named, unbroken, _⟩ := line_eq_ok.mp encodes
      exact ⟨named, unbroken⟩
    · rintro ⟨named, unbroken⟩
      exact ⟨_, line_eq_ok.mpr ⟨named, unbroken, rfl⟩⟩
  · intro c valid
    have solid (language : String) (among : language ∈ c.worker.languages) :
        isLanguage language = true := isLanguage_of_problems valid among
    refine ⟨_, line_load solid, ?_⟩
    rw [String.toList_ofList, split_load solid]
  · exact fun path feed cr => line_read feed cr
  · intro r s first second same
    rw [first.encodes, second.encodes] at same
    apply first.eq_of_render second
    have texts := congrArg String.toList (Except.ok.inj same)
    rwa [String.toList_ofList, String.toList_ofList] at texts

/-- A list of languages from the environment, with blanks of two kinds around its entries; a path
that ends in a space and has two spaces inside; and the same list of languages from elsewhere. -/
theorem lines_recoverable_overridden :
    let c := (Configuration.default none).withEnvironment
      [("OCRGREP_LANGUAGES", " fr ,\u3000ch_sim, ")]
    let d := { Configuration.default none with
      worker := { WorkerSettings.default with languages := ["fr", "ch_sim"] } }
    let path : Path := ⟨"/a  b.png "⟩
    c.problems = [] ∧ d.problems = [] ∧ c.worker.languages = ["fr", "ch_sim"] ∧
    (∃ body, "init fr ch_sim\n".toList = body ++ ['\n'] ∧ '\n' ∉ body ∧ '\r' ∉ body) ∧
    (∃ line, (load c.worker.languages).line = .ok line ∧
      splitOnChar (· == ' ') line.toList.dropLast = ["init".toList, "fr".toList, "ch_sim".toList]) ∧
    '\n' ∉ path.text.toList ∧ '\r' ∉ path.text.toList ∧
    (read path).line = .ok "read_text /a  b.png \n" ∧
    Regular (load c.worker.languages) ∧ Regular (load d.worker.languages) ∧
    (load c.worker.languages).line = (load d.worker.languages).line ∧
    load c.worker.languages = load d.worker.languages := by
  intro c d path
  have valid : c.problems = [] := by decide +kernel
  have other : d.problems = [] := by decide +kernel
  have languages : c.worker.languages = ["fr", "ch_sim"] := by decide +kernel
  have feed : '\n' ∉ path.text.toList := by decide
  have cr : '\r' ∉ path.text.toList := by decide
  have line : (load c.worker.languages).line = .ok "init fr ch_sim\n" := by
    rw [languages]
    exact line_eq_ok.mpr ⟨by decide, by decide, by decide +kernel⟩
  have same : (load c.worker.languages).line = (load d.worker.languages).line := by
    rw [languages]
  obtain ⟨_, framed, loads, reads, apart⟩ := lines_recoverable
  refine ⟨valid, other, languages, framed _ _ line, ?_, feed, cr, ?_, .load valid, .load other,
    same, apart _ _ (.load valid) (.load other) same⟩
  · have pieces := loads c valid
    rwa [languages] at pieces ⊢
  · rw [reads path feed cr]
    exact congrArg Except.ok (by decide +kernel)

end Worker.Request

end ImageSearch
