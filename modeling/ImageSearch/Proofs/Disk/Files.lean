import ImageSearch.Disk
import ImageSearch.Proofs.Path.Parent
import ImageSearch.Proofs.Results

set_option autoImplicit false

namespace ImageSearch

namespace Tree

theorem child?_putEntry_self (name : String) (t : Tree) (entries : List (String × Tree)) :
    (folder (putEntry name t entries)).child? name = some t := by
  induction entries with
  | nil => simp [putEntry, child?]
  | cons entry rest ih =>
      obtain ⟨n, old⟩ := entry
      rw [putEntry]
      split
      · simp [child?]
      · split
        · simp [child?]
        · rename_i other _
          rw [child?, List.find?_cons_of_neg (by simpa using Ne.symm other)]
          exact ih

/-- To place a name leaves what the other names lead to. -/
theorem child?_putEntry_of_ne {name other : String} (apart : other ≠ name) (t : Tree)
    (entries : List (String × Tree)) :
    (folder (putEntry name t entries)).child? other = (folder entries).child? other := by
  induction entries with
  | nil => simp [putEntry, child?, Ne.symm apart]
  | cons entry rest ih =>
      obtain ⟨n, old⟩ := entry
      rw [putEntry]
      split
      · rename_i same
        subst same
        rw [child?, child?, List.find?_cons_of_neg (by simpa using Ne.symm apart),
          List.find?_cons_of_neg (by simpa using Ne.symm apart)]
      · split
        · rw [child?, List.find?_cons_of_neg (by simpa using Ne.symm apart)]
          rfl
        · by_cases here : n = other
          · simp [child?, here]
          · rw [child?, child?, List.find?_cons_of_neg (by simpa using here),
              List.find?_cons_of_neg (by simpa using here)]
            exact ih

/-- To put the same again changes nothing. -/
theorem putEntry_putEntry (name : String) (t : Tree) (entries : List (String × Tree)) :
    putEntry name t (putEntry name t entries) = putEntry name t entries := by
  induction entries with
  | nil => simp [putEntry]
  | cons entry rest ih =>
      obtain ⟨n, old⟩ := entry
      by_cases same : name = n
      · simp [putEntry, same]
      · by_cases before : name < n
        · simp [putEntry, same, before]
        · simp [putEntry, same, before, ih]

theorem put_put (t new : Tree) (place : List String) :
    (t.put new place).put new place = t.put new place := by
  induction place generalizing t with
  | nil => rfl
  | cons name rest ih =>
      cases t with
      | file content => rfl
      | folder entries =>
          rw [put, put, child?_putEntry_self, Option.getD_some, ih, putEntry_putEntry]

/-- A folder stands at the place. -/
def FolderAt (t : Tree) (place : List String) : Prop :=
  ∃ entries, t.at? place = some (folder entries)

theorem not_folderAt_file (content : Content) (place : List String) :
    ¬(file content).FolderAt place := by
  rintro ⟨entries, found⟩
  cases place with
  | nil => cases found
  | cons name rest => cases found

theorem folderAt_cons {t : Tree} {name : String} {rest : List String} :
    t.FolderAt (name :: rest) ↔ ∃ inner, t.child? name = some inner ∧ inner.FolderAt rest := by
  simp only [FolderAt, at?, Option.bind_eq_some_iff]
  constructor
  · rintro ⟨entries, inner, child, found⟩
    exact ⟨inner, child, entries, found⟩
  · rintro ⟨inner, child, entries, found⟩
    exact ⟨entries, inner, child, found⟩

/-- What is put in place of no folder leaves every folder a folder. -/
theorem FolderAt.put {t : Tree} {place : List String} (new : Tree) {target : List String}
    (free : ¬t.FolderAt target) (known : t.FolderAt place) : (t.put new target).FolderAt place := by
  induction target generalizing t place with
  | nil =>
      cases t with
      | file content => exact absurd known (not_folderAt_file content place)
      | folder entries => exact absurd ⟨entries, rfl⟩ free
  | cons name rest ih =>
      cases t with
      | file content => exact known
      | folder entries =>
          rw [Tree.put]
          cases place with
          | nil => exact ⟨_, rfl⟩
          | cons n place =>
              obtain ⟨inner, child, known⟩ := folderAt_cons.mp known
              rw [folderAt_cons]
              -- the place shares its first name with the target, or lies in another entry
              by_cases same : n = name
              · subst same
                refine ⟨_, child?_putEntry_self _ _ _, ?_⟩
                rw [child, Option.getD_some]
                refine ih (fun taken => free ?_) known
                exact folderAt_cons.mpr ⟨inner, child, taken⟩
              · rw [child?_putEntry_of_ne same]
                exact ⟨inner, child, known⟩

/-- In a folder, a name leads to what was put there. -/
theorem at?_put {t : Tree} {place : List String} (known : t.FolderAt place) (new : Tree)
    (name : String) : (t.put new (place ++ [name])).at? (place ++ [name]) = some new := by
  induction place generalizing t with
  | nil =>
      obtain ⟨entries, found⟩ := known
      cases found
      rw [List.nil_append, put, put, at?, child?_putEntry_self]
      rfl
  | cons n place ih =>
      obtain ⟨inner, child, inside⟩ := folderAt_cons.mp known
      cases t with
      | file content => cases child
      | folder entries =>
          rw [List.cons_append, put, at?, child?_putEntry_self, child]
          exact ih inside

end Tree

namespace Disk

theorem step_name {d : Disk} {place next : List String} {text : List Char} :
    d.step place (.name text) = .ok next ↔
      d.root.FolderAt place ∧ next = place ++ [String.ofList text] := by
  rw [step, Tree.FolderAt]
  cases d.root.at? place with
  | none => simp
  | some t => cases t <;> simp [eq_comm]

/-- One step of a walk, and the place that it needs where the walk turns back. -/
theorem walk_cons {d : Disk} {place target : List String} {c : Path.Component}
    {rest : List Path.Component} :
    d.walk place (c :: rest) = .ok target ↔
      ∃ next, d.step place c = .ok next ∧
        (∀ text more, c = .name text → rest = .parent :: more → d.root.FolderAt next) ∧
        d.walk next rest = .ok target := by
  rw [walk, bind_eq_ok]
  refine exists_congr fun next => and_congr_right fun stepped => ?_
  split
  · rename_i text more
    have back : (∀ text' more', Path.Component.name text = .name text' →
        Path.Component.parent :: more = .parent :: more' → d.root.FolderAt next) ↔
          d.root.FolderAt next := by
      simp
    rw [back, Tree.FolderAt]
    rcases d.root.at? next with _ | _ | _
    · simp [throw, throwThe, MonadExceptOf.throw]
    · simp [throw, throwThe, MonadExceptOf.throw]
    · simp
  · rename_i onward
    exact ⟨fun walked => ⟨fun text more name back => (onward text more name back).elim, walked⟩,
      And.right⟩

/-- Where folders stay folders, walks lead where they led before. -/
theorem walk_of_folders {d d' : Disk}
    (keeps : ∀ place, d.root.FolderAt place → d'.root.FolderAt place) {place target : List String}
    {components : List Path.Component} (walked : d.walk place components = .ok target) :
    d'.walk place components = .ok target := by
  induction components generalizing place with
  | nil => exact walked
  | cons c rest ih =>
      obtain ⟨next, stepped, back, onward⟩ := walk_cons.mp walked
      refine walk_cons.mpr ⟨next, ?_, fun text more name turn => ?_, ih onward⟩
      · cases c with
        | name text =>
            obtain ⟨known, rfl⟩ := step_name.mp stepped
            exact step_name.mpr ⟨keeps place known, rfl⟩
        | root => exact stepped
        | current => exact stepped
        | parent => exact stepped
      · exact keeps next (back text more name turn)

/-- A walk to a name goes through a folder. -/
theorem walk_concat_name {d : Disk} {place target : List String}
    {components : List Path.Component} {text : List Char}
    (walked : d.walk place (components ++ [.name text]) = .ok target) :
    ∃ parent, d.walk place components = .ok parent ∧ d.root.FolderAt parent ∧
      target = parent ++ [String.ofList text] := by
  induction components generalizing place with
  | nil =>
      obtain ⟨next, stepped, _, ended⟩ := walk_cons.mp walked
      obtain ⟨known, rfl⟩ := step_name.mp stepped
      cases ended
      exact ⟨place, rfl, known, rfl⟩
  | cons c rest ih =>
      obtain ⟨next, stepped, back, onward⟩ := walk_cons.mp walked
      obtain ⟨parent, led, known, last⟩ := ih onward
      refine ⟨parent, walk_cons.mpr ⟨next, stepped, fun name more here turn => ?_, led⟩, known,
        last⟩
      rw [turn] at back
      exact back name _ here rfl

theorem locate_ok {d : Disk} {p : Path} {place : List String} :
    d.locate p = .ok place ↔ p.text.isEmpty = false ∧ p.text.toList.contains '\x00' = false ∧
      d.walk d.workingFolder p.components = .ok place := by
  rw [locate]
  cases p.text.isEmpty <;> cases p.text.toList.contains '\x00' <;> simp

theorem find_of_at {d : Disk} {p : Path} {place : List String} {t : Tree}
    (led : d.locate p = .ok place) (held : d.root.at? place = some t)
    (fits : t.isFolder = true ∨ wantsFolder p = false) : d.find p = .ok t := by
  rw [find, led]
  simp only [bind, Except.bind, held]
  cases t with
  | folder entries => rfl
  | file content =>
      rcases fits with other | file
      · cases other
      · rw [file]
        rfl

theorem writeText_ok {d d' : Disk} {p : Path} {s : String} :
    d.writeText p s = .ok d' ↔ ∃ place, d.locate p = .ok place ∧ ¬d.root.FolderAt place ∧
      wantsFolder p = false ∧ d' = { d with root := d.root.put (.file (.text s)) place } := by
  rw [writeText, bind_eq_ok]
  refine exists_congr fun place => and_congr_right fun _ => ?_
  rw [Tree.FolderAt]
  rcases d.root.at? place with _ | _ | _ <;> cases wantsFolder p <;>
    simp [throw, throwThe, MonadExceptOf.throw, bind, Except.bind, pure, Except.pure, eq_comm]

theorem ends_in_name {p : Path} (filled : p.text.isEmpty = false) (file : wantsFolder p = false) :
    ∃ before last, p.segments = before ++ [last] ∧ Path.component? last = some (.name last) := by
  have some : p.segments ≠ [] := Text.splitOnChar_ne_nil _ _
  refine ⟨p.segments.dropLast, p.segments.getLast some,
    (List.dropLast_concat_getLast some).symm, ?_⟩
  rw [wantsFolder, List.getLast?_eq_some_getLast some, filled] at file
  generalize p.segments.getLast some = last at file
  unfold Path.component?
  split
  · cases file
  · cases file
  · cases file
  · rfl

theorem locate_of_file {d : Disk} {p : Path} {place : List String} (led : d.locate p = .ok place)
    (file : wantsFolder p = false) :
    ∃ parent folder name, p.parent? = some parent ∧ parent.text.toList <+: p.text.toList ∧
      d.walk d.workingFolder parent.components = .ok folder ∧ d.root.FolderAt folder ∧
        place = folder ++ [name] := by
  obtain ⟨filled, _, walked⟩ := locate_ok.mp led
  obtain ⟨before, last, cut, named⟩ := ends_in_name filled file
  obtain ⟨parent, above, front, components⟩ := Path.exists_parent cut named
  rw [components] at walked
  obtain ⟨folder, begun, known, whole⟩ := walk_concat_name walked
  exact ⟨parent, folder, _, above, front, begun, known, whole⟩

section Written

variable {d d' : Disk} {p : Path} {s : String}

/-- To write a file leaves every folder where it was. -/
theorem folderAt_of_written (written : d.writeText p s = .ok d') (place : List String)
    (known : d.root.FolderAt place) : d'.root.FolderAt place := by
  obtain ⟨target, _, free, _, rfl⟩ := writeText_ok.mp written
  exact known.put _ free

theorem locate_of_written (written : d.writeText p s = .ok d') {q : Path} {place : List String}
    (led : d.locate q = .ok place) : d'.locate q = .ok place := by
  have keeps := folderAt_of_written written
  obtain ⟨_, _, _, _, rfl⟩ := writeText_ok.mp written
  obtain ⟨filled, plain, walked⟩ := locate_ok.mp led
  exact locate_ok.mpr ⟨filled, plain, walk_of_folders keeps walked⟩

theorem readText_writeText (written : d.writeText p s = .ok d') : d'.readText p = .ok s := by
  obtain ⟨place, led, _, file, made⟩ := writeText_ok.mp written
  obtain ⟨_, folder, name, _, _, _, known, whole⟩ := locate_of_file led file
  have held : d'.root.at? place = some (.file (.text s)) := by
    rw [made, whole]
    exact Tree.at?_put known _ name
  rw [readText, find_of_at (locate_of_written written led) held (.inr file)]
  rfl

theorem writeText_writeText (written : d.writeText p s = .ok d') :
    d'.writeText p s = .ok d' := by
  obtain ⟨place, led, _, file, made⟩ := writeText_ok.mp written
  have again := locate_of_written written led
  obtain ⟨_, folder, name, _, _, _, known, whole⟩ := locate_of_file led file
  refine writeText_ok.mpr ⟨place, again, ?_, file, ?_⟩
  · rintro ⟨entries, taken⟩
    rw [made, whole, Tree.at?_put known _ name] at taken
    cases taken
  · rw [made, Tree.put_put]

/-- The folder of a written file need not be made again. -/
theorem makeFolders_parent (written : d.writeText p s = .ok d') {parent : Path}
    (above : p.parent? = some parent) (filled : parent.text.isEmpty = false) :
    d'.makeFolders parent = .ok d' := by
  obtain ⟨place, led, _, file, _⟩ := writeText_ok.mp written
  have again := locate_of_written written led
  obtain ⟨parent', folder, name, above', front, walked, ⟨entries, known⟩, _⟩ :=
    locate_of_file again file
  rw [above] at above'
  cases above'
  have plain : parent.text.toList.contains '\x00' = false := by
    have whole := (locate_ok.mp again).2.1
    rw [← Bool.not_eq_true, List.contains_iff_mem] at whole ⊢
    exact fun inside => whole (front.subset inside)
  have reached : d'.locate parent = .ok folder := locate_ok.mpr ⟨filled, plain, walked⟩
  have taken : d'.makeFolder parent = .error .alreadyExists := by
    rw [makeFolder, reached]
    simp only [bind, Except.bind, known]
    rfl
  have found : d'.isFolder parent = true := by
    rw [isFolder, find_of_at reached known (.inl rfl)]
    rfl
  rw [makeFolders, makeFoldersWithin, filled, taken, found]
  rfl

end Written

end Disk

end ImageSearch
