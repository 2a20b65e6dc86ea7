import ImageSearch.Configuration.Check
import ImageSearch.Proofs.Discovery.Found

set_option autoImplicit false

namespace ImageSearch

/-- Sound settings name image folders by one name. -/
theorem ScanSettings.folderName_plain {scan : ScanSettings} (valid : scan.problems = []) :
    '/' ∉ scan.folderName.toList ∧ scan.folderName ≠ "" := by
  rw [problems, List.append_eq_nil_iff, List.append_eq_nil_iff] at valid
  obtain ⟨⟨_, plain⟩, _⟩ := valid
  split at plain
  · cases plain
  · rename_i filled
    rw [onlyIf_eq_nil, List.any_eq_false] at plain
    refine ⟨fun slash => plain _ slash rfl, fun empty => ?_⟩
    rw [empty] at filled
    exact filled rfl

/-- Only the empty piece joined to the empty path is the empty path. -/
theorem Path.join_eq_empty {p : Path} {piece : String} :
    (p.join ⟨piece⟩).text = "" ↔ p.text = "" ∧ piece = "" := by
  rw [join]
  split
  · rename_i rooted
    refine iff_of_false ?_ ?_
    · rintro (empty : piece = "")
      rw [empty] at rooted
      cases rooted
    · rintro ⟨_, rfl⟩
      cases rooted
  · split
    · exact String.append_eq_empty_iff
    · rename_i filled
      simp only [Bool.or_eq_true, not_or, String.isEmpty_iff] at filled
      refine iff_of_false (fun empty => ?_) fun both => filled.1 both.1
      exact filled.1 (String.append_eq_empty_iff.mp (String.append_eq_empty_iff.mp empty).1).1

namespace Disk

variable {d : Disk} {scan : ScanSettings}

/-- The place that a path stands for; the empty path stands for the working folder. -/
def Denotes (d : Disk) (p : Path) (place : List String) : Prop :=
  if p.text = "" then place = d.workingFolder else d.locate p = .ok place

/-- A place strictly inside the one that the path of a root stands for. -/
def InsideRoot (d : Disk) (scan : ScanSettings) (root : String) (place : List String) : Prop :=
  ∃ above names, d.Denotes (scan.baseDir.join ⟨root⟩) above ∧ names ≠ [] ∧ place = above ++ names

theorem mem_imageFolders {path : Path} : path ∈ d.imageFolders scan ↔
    ∃ root ∈ scan.roots, path ∈ d.imageFoldersBelow (scan.baseDir.join ⟨root⟩) scan.folderName :=
  List.mem_flatMap

theorem leadsDown_of_found (proper : d.Proper) (valid : scan.problems = []) {p : Path}
    (filled : p.text ≠ "") {path : Path} (found : path ∈ d.imageFoldersBelow p scan.folderName) :
    ∃ place names, d.LeadsDown p scan.folderName place names ∧
      d.locate path = .ok (place ++ names) := by
  obtain ⟨whole, named⟩ := ScanSettings.folderName_plain valid
  obtain ⟨stalled, onward⟩ := imageFoldersBelow_found proper whole named filled
  cases still : p.stalls with
  | true =>
      rw [stalled still] at found
      cases found
  | false =>
      obtain ⟨place, names, leads, led, _⟩ := (onward still).sound path found
      exact ⟨place, names, leads, led⟩

theorem insideRoot_of_found (proper : d.Proper) (valid : scan.problems = []) {root : String}
    (filled : (scan.baseDir.join ⟨root⟩).text ≠ "") {path : Path}
    (found : path ∈ d.imageFoldersBelow (scan.baseDir.join ⟨root⟩) scan.folderName) :
    ∃ place, d.locate path = .ok place ∧ d.root.FolderAt place ∧ d.InsideRoot scan root place := by
  obtain ⟨place, names, leads, led⟩ := leadsDown_of_found proper valid filled found
  refine ⟨place ++ names, led, leads.folder, place, names, ?_, leads.down, rfl⟩
  rw [Denotes, if_neg filled]
  exact leads.led

/-- Below the empty path the folders of the name are found wherever they are. -/
theorem found_below_empty (proper : d.Proper) (valid : scan.problems = []) {p : Path}
    (empty : p.text = "") :
    (∀ path ∈ d.imageFoldersBelow p scan.folderName, ∃ place, d.locate path = .ok place ∧
      d.root.FolderAt place ∧ place.getLast? = some scan.folderName) ∧
    ∀ place, d.root.FolderAt place → place.getLast? = some scan.folderName →
      ∃ path ∈ d.imageFoldersBelow p scan.folderName, d.locate path = .ok place := by
  obtain ⟨whole, named⟩ := ScanSettings.folderName_plain valid
  have begins := begins_of_empty proper empty
  constructor
  · intro path found
    obtain ⟨place, last, folder, rfl⟩ := (begins.mem_found proper whole named).mp found
    exact ⟨place, begins.locate_under proper last folder, folder, last⟩
  · intro place folder last
    exact ⟨_, (begins.mem_found proper whole named).mpr ⟨place, last, folder, rfl⟩,
      begins.locate_under proper last folder⟩

/-- Every image folder that is found lies inside the folder of a root, unless the base folder and a
root are both the empty path. In that case all of the disk is searched, so it depends on what the
disk holds. -/
theorem imageFolders_inside_iff (d : Disk) (proper : d.Proper) (scan : ScanSettings)
    (valid : scan.problems = []) :
    (∀ path ∈ d.imageFolders scan, ∃ place, d.locate path = .ok place ∧ d.root.FolderAt place ∧
      ∃ root ∈ scan.roots, d.InsideRoot scan root place) ↔
    (scan.baseDir.text = "" → "" ∈ scan.roots → ∀ place, d.root.FolderAt place →
      place.getLast? = some scan.folderName → ∃ root ∈ scan.roots, d.InsideRoot scan root place) := by
  constructor
  · intro inside empty among place folder last
    have none : (scan.baseDir.join ⟨""⟩).text = "" := Path.join_eq_empty.mpr ⟨empty, rfl⟩
    obtain ⟨path, found, led⟩ := (found_below_empty proper valid none).2 place folder last
    obtain ⟨place', led', _, within⟩ := inside path (mem_imageFolders.mpr ⟨_, among, found⟩)
    cases led.symm.trans led'
    exact within
  · intro everywhere path mem
    obtain ⟨root, among, found⟩ := mem_imageFolders.mp mem
    by_cases empty : (scan.baseDir.join ⟨root⟩).text = ""
    · obtain ⟨base, rfl⟩ := Path.join_eq_empty.mp empty
      obtain ⟨place, led, folder, last⟩ := (found_below_empty proper valid empty).1 path found
      exact ⟨place, led, folder, everywhere base among place folder last⟩
    · obtain ⟨place, led, folder, within⟩ := insideRoot_of_found proper valid empty found
      exact ⟨place, led, folder, root, among, within⟩

/-- With the empty path for base folder and root, the folder "pix" outside of the working folder is
found. -/
theorem imageFolders_not_inside :
    let d : Disk := ⟨.folder [("home", .folder []), ("var", .folder [("pix", .folder [])])], ["home"]⟩
    let scan : ScanSettings := ⟨⟨""⟩, [""], "pix", ["png"]⟩
    d.Proper ∧ scan.problems = [] ∧ d.imageFolders scan = [⟨"/var/pix"⟩] ∧
      d.locate ⟨"/var/pix"⟩ = .ok ["var", "pix"] ∧
      ¬∀ path ∈ d.imageFolders scan, ∃ place, d.locate path = .ok place ∧ d.root.FolderAt place ∧
        ∃ root ∈ scan.roots, d.InsideRoot scan root place := by
  intro d scan
  have proper : d.Proper := ⟨by decide +kernel, [], rfl⟩
  have valid : scan.problems = [] := by decide +kernel
  refine ⟨proper, valid, by decide +kernel, rfl, fun inside => ?_⟩
  have everywhere := (imageFolders_inside_iff d proper scan valid).mp inside
  obtain ⟨root, among, above, names, denoted, _, within⟩ :=
    everywhere rfl (List.mem_singleton_self _) ["var", "pix"] ⟨[], rfl⟩ rfl
  cases List.mem_singleton.mp among
  have home : above = ["home"] := denoted
  rw [home] at within
  exact absurd (List.cons.inj within).1 (by decide)

end Disk

end ImageSearch
