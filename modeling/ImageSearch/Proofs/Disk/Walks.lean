import ImageSearch.Proofs.Disk.Files
import ImageSearch.Proofs.Path.Joining

set_option autoImplicit false

namespace ImageSearch

namespace Tree

/-- A name that an entry of a folder may have. -/
def isEntryName (name : String) : Bool :=
  !(["", ".", ".."].contains name) && !name.toList.contains '/' && !name.toList.contains '\x00'

mutual

def isProper : Tree → Bool
  | file _ => true
  | folder entries => decide (entries.map Prod.fst).Nodup && areProper entries

def areProper : List (String × Tree) → Bool
  | [] => true
  | (name, t) :: rest => isEntryName name && t.isProper && areProper rest

end

theorem areProper_iff {entries : List (String × Tree)} : areProper entries = true ↔
    ∀ entry ∈ entries, isEntryName entry.1 = true ∧ entry.2.isProper = true := by
  induction entries with
  | nil => exact iff_of_true rfl (List.forall_mem_nil _)
  | cons entry rest ih =>
      rw [areProper, Bool.and_eq_true, Bool.and_eq_true, ih, List.forall_mem_cons]

theorem isProper_folder {entries : List (String × Tree)} : (folder entries).isProper = true ↔
    (entries.map Prod.fst).Nodup ∧
      ∀ entry ∈ entries, isEntryName entry.1 = true ∧ entry.2.isProper = true := by
  rw [isProper, Bool.and_eq_true, decide_eq_true_iff, areProper_iff]

section EntryNames

variable {name : String}

theorem isEntryName_iff : isEntryName name = true ↔
    (name ≠ "" ∧ name ≠ "." ∧ name ≠ "..") ∧ '/' ∉ name.toList ∧ '\x00' ∉ name.toList := by
  simp [isEntryName, and_assoc]

theorem component?_entryName (proper : isEntryName name = true) :
    Path.component? name.toList = some (.name name.toList) := by
  obtain ⟨⟨filled, dot, dots⟩, _⟩ := isEntryName_iff.mp proper
  have other {s : String} (apart : name ≠ s) : name.toList ≠ s.toList := mt String.toList_inj.mp apart
  unfold Path.component?
  split
  · rename_i same
    exact absurd same (other filled)
  · rename_i same
    exact absurd same (other dot)
  · rename_i same
    exact absurd same (other dots)
  · rfl

end EntryNames

variable {t : Tree}

/-- In a folder without a name twice, a name leads to its entry. -/
theorem child?_eq_some {entries : List (String × Tree)} (once : (entries.map Prod.fst).Nodup)
    {name : String} : (folder entries).child? name = some t ↔ (name, t) ∈ entries := by
  induction entries with
  | nil => exact iff_of_false nofun List.not_mem_nil
  | cons entry rest ih =>
      obtain ⟨n, inner⟩ := entry
      obtain ⟨new, once⟩ := List.nodup_cons.mp once
      rw [child?, List.mem_cons]
      by_cases same : n = name
      · subst same
        rw [List.find?_cons_of_pos (by simp), Option.map_some, Option.some.injEq]
        refine ⟨fun same => .inl (congrArg _ same.symm), fun mem => ?_⟩
        rcases mem with here | later
        · exact (congrArg Prod.snd here).symm
        · exact absurd (List.mem_map_of_mem later) new
      · rw [List.find?_cons_of_neg (by simpa using same)]
        refine (ih once).trans ⟨.inr, fun mem => mem.resolve_left fun here => ?_⟩
        exact same (congrArg Prod.fst here).symm

theorem at?_append (t : Tree) (place more : List String) :
    t.at? (place ++ more) = (t.at? place).bind (·.at? more) := by
  induction place generalizing t with
  | nil => rfl
  | cons name rest ih =>
      rw [List.cons_append, at?, at?, Option.bind_assoc]
      exact Option.bind_congr fun inner _ => ih inner

theorem isProper_at {t inner : Tree} (proper : t.isProper = true) {place : List String}
    (found : t.at? place = some inner) : inner.isProper = true := by
  induction place generalizing t with
  | nil =>
      cases found
      exact proper
  | cons name rest ih =>
      obtain ⟨next, child, inside⟩ := Option.bind_eq_some_iff.mp found
      cases t with
      | file content => cases child
      | folder entries =>
          obtain ⟨once, all⟩ := isProper_folder.mp proper
          have mem : (name, next) ∈ entries := (child?_eq_some once).mp child
          exact ih (all _ mem).2 inside

/-- The folders around a folder. -/
theorem FolderAt.front {place inner : List String} (known : t.FolderAt inner)
    (front : place <+: inner) : t.FolderAt place := by
  obtain ⟨more, rfl⟩ := front
  obtain ⟨entries, found⟩ := known
  rw [at?_append, Option.bind_eq_some_iff] at found
  obtain ⟨inner, here, found⟩ := found
  cases inner with
  | folder inside => exact ⟨inside, here⟩
  | file content => exact absurd ⟨entries, found⟩ (not_folderAt_file content more)

end Tree

namespace Disk

/-- The names of all entries are well formed, and the working folder is there. -/
structure Proper (d : Disk) : Prop where
  names : d.root.isProper = true
  home : d.root.FolderAt d.workingFolder

end Disk

/-- The place that a component leads to. -/
def Path.Component.after (place : List String) : Path.Component → List String
  | .root => []
  | .current => place
  | .parent => place.dropLast
  | .name text => place ++ [String.ofList text]

namespace Disk

variable {d : Disk} {place target : List String}

def outset (d : Disk) (p : Path) : List String := if p.isRooted then [] else d.workingFolder

def Opens (d : Disk) (place : List String) : List Path.Component → List String → Prop
  | [], target => d.root.FolderAt place ∧ place = target
  | c :: rest, target => d.root.FolderAt place ∧ d.Opens (c.after place) rest target

theorem Opens.folder {steps : List Path.Component} (opens : d.Opens place steps target) :
    d.root.FolderAt place := by
  cases steps with
  | nil => exact opens.1
  | cons => exact opens.1

theorem opens_append {steps more : List Path.Component} :
    d.Opens place (steps ++ more) target ↔
      ∃ middle, d.Opens place steps middle ∧ d.Opens middle more target := by
  induction steps generalizing place with
  | nil =>
      refine ⟨fun opens => ⟨place, ⟨opens.folder, rfl⟩, opens⟩, ?_⟩
      rintro ⟨_, ⟨_, rfl⟩, opens⟩
      exact opens
  | cons c rest ih =>
      simp only [List.cons_append, Opens, ih, and_assoc, exists_and_left]

def IsStep (c : Path.Component) : Prop := c = .parent ∨ ∃ text, c = .name text

theorem isStep_of_mem_steps {p : Path} {c : Path.Component} (mem : c ∈ p.steps) : IsStep c := by
  cases c with
  | root => exact absurd mem p.root_not_mem_steps
  | current => exact absurd mem p.current_not_mem_steps
  | parent => exact .inl rfl
  | name text => exact .inr ⟨text, rfl⟩

/-- A walk from a folder to a folder meets folders only. -/
theorem opens_iff {steps : List Path.Component} (plain : ∀ c ∈ steps, IsStep c) :
    d.Opens place steps target ↔
      d.root.FolderAt place ∧ d.walk place steps = .ok target ∧ d.root.FolderAt target := by
  induction steps generalizing place with
  | nil =>
      refine ⟨?_, ?_⟩
      · rintro ⟨known, rfl⟩
        exact ⟨known, rfl, known⟩
      · rintro ⟨known, same, _⟩
        cases same
        exact ⟨known, rfl⟩
  | cons c rest ih =>
      obtain ⟨step, later⟩ := List.forall_mem_cons.mp plain
      rw [Opens, ih later, walk_cons]
      constructor
      · rintro ⟨known, inner, walked, ended⟩
        refine ⟨known, ⟨c.after place, ?_, fun _ _ _ _ => inner, walked⟩, ended⟩
        rcases step with rfl | ⟨text, rfl⟩
        · rfl
        · exact step_name.mpr ⟨known, rfl⟩
      · rintro ⟨known, ⟨next, stepped, back, walked⟩, ended⟩
        rcases step with rfl | ⟨text, rfl⟩
        · cases stepped
          exact ⟨known, known.front (List.dropLast_prefix place), walked, ended⟩
        · obtain ⟨_, rfl⟩ := step_name.mp stepped
          -- the next step, if there is one, looks into the named folder
          have inner : d.root.FolderAt (place ++ [String.ofList text]) := by
            cases rest with
            | nil =>
                cases walked
                exact ended
            | cons next more =>
                rcases later next List.mem_cons_self with rfl | ⟨inside, rfl⟩
                · exact back _ _ rfl rfl
                · obtain ⟨_, stepped, _⟩ := walk_cons.mp walked
                  exact (step_name.mp stepped).1
          exact ⟨known, inner, walked, ended⟩

theorem walk_components (d : Disk) (p : Path) :
    d.walk d.workingFolder p.components = d.walk (d.outset p) p.steps := by
  rw [Path.components_eq_steps, outset]
  cases rooted : p.isRooted with
  | true =>
      have undotted : p.beginsAtDot = false := by rw [Path.beginsAtDot, rooted]; rfl
      rw [undotted]
      rfl
  | false => cases p.beginsAtDot <;> rfl

theorem locate_steps {p : Path} : d.locate p = .ok place ↔
    p.text ≠ "" ∧ '\x00' ∉ p.text.toList ∧ d.walk (d.outset p) p.steps = .ok place := by
  rw [locate_ok, walk_components]
  simp [← Bool.not_eq_true, String.isEmpty_iff]

namespace Proper

theorem top (proper : d.Proper) : d.root.FolderAt [] := proper.home.front List.nil_prefix

theorem outset (proper : d.Proper) (p : Path) : d.root.FolderAt (d.outset p) := by
  rw [Disk.outset]
  split
  · exact proper.top
  · exact proper.home

/-- A path leads to a folder exactly if its steps lead through folders. -/
theorem opens_iff_locate (proper : d.Proper) {p : Path} (filled : p.text ≠ "")
    (plain : '\x00' ∉ p.text.toList) : d.Opens (d.outset p) p.steps place ↔
      d.locate p = .ok place ∧ d.root.FolderAt place := by
  rw [opens_iff fun c => isStep_of_mem_steps, locate_steps, and_iff_right (proper.outset p)]
  simp only [filled, plain, ne_eq, not_false_eq_true, true_and]

end Proper

section Find

variable {p : Path} {entries : List (String × Tree)}

theorem find_folder : d.find p = .ok (.folder entries) ↔
    ∃ place, d.locate p = .ok place ∧ d.root.at? place = some (.folder entries) := by
  rw [find, bind_eq_ok]
  refine exists_congr fun place => and_congr_right fun _ => ?_
  rcases d.root.at? place with _ | _ | _ <;> cases wantsFolder p <;>
    simp [throw, throwThe, MonadExceptOf.throw, pure, Except.pure]

theorem isFolder_iff : d.isFolder p = true ↔
    ∃ place, d.locate p = .ok place ∧ d.root.FolderAt place := by
  have found : d.isFolder p = true ↔ ∃ entries, d.find p = .ok (.folder entries) := by
    rw [isFolder]
    rcases d.find p with _ | _ | _ <;> simp [Tree.isFolder]
  simp only [found, find_folder, Tree.FolderAt]
  constructor
  · rintro ⟨entries, place, led, held⟩
    exact ⟨place, led, entries, held⟩
  · rintro ⟨place, led, entries, held⟩
    exact ⟨entries, place, led, held⟩

theorem entries_of_at (led : d.locate p = .ok place)
    (held : d.root.at? place = some (.folder entries)) : d.entries p = entries := by
  rw [Disk.entries, find_folder.mpr ⟨place, led, held⟩]

theorem at_of_mem_entries {entry : String × Tree} (mem : entry ∈ d.entries p) :
    ∃ place, d.locate p = .ok place ∧ d.root.at? place = some (.folder (d.entries p)) := by
  rw [← find_folder]
  rw [Disk.entries] at mem ⊢
  split at mem
  · rename_i found
    rw [found]
  · cases mem

theorem holds_of_folder (found : d.isFolder p = true) : d.holds p = true := by
  rw [isFolder] at found
  rw [holds]
  cases result : d.find p with
  | ok => rfl
  | error => rw [result] at found; cases found

theorem locate_of_holds (held : d.holds p = true) : ∃ place, d.locate p = .ok place := by
  rw [holds, find] at held
  cases led : d.locate p with
  | ok place => exact ⟨place, rfl⟩
  | error => rw [led] at held; cases held

end Find

end Disk

end ImageSearch
