import ImageSearch.Proofs.Discovery.Containment

set_option autoImplicit false

namespace ImageSearch

namespace Path

/-- The extension is what follows the last dot, which must follow something. -/
theorem extension?_eq_some {p : Path} {name ending : String} (named : p.fileName? = some name) :
    p.extension? = some ending ↔ ∃ stem, stem ≠ [] ∧
      name.toList = stem ++ '.' :: ending.toList ∧ '.' ∉ ending.toList := by
  have cut : p.extension? =
      let tail := name.toList.reverse.takeWhile (· != '.')
      if tail.length + 1 < name.toList.length then some (String.ofList tail.reverse) else none := by
    rw [extension?, named]
    rfl
  rw [cut]
  constructor
  · intro found
    dsimp only at found
    split at found
    · rename_i short
      cases found
      have parts := List.takeWhile_append_dropWhile (p := (· != '.')) (l := name.toList.reverse)
      have plain := List.all_takeWhile (p := (· != '.')) (l := name.toList.reverse)
      have dot := List.head?_dropWhile_not (· != '.') name.toList.reverse
      generalize name.toList.reverse.takeWhile (· != '.') = tail at parts plain short
      generalize name.toList.reverse.dropWhile (· != '.') = rest at parts dot
      have whole : name.toList = rest.reverse ++ tail.reverse := by
        rw [← List.reverse_append, parts, List.reverse_reverse]
      rw [whole, List.length_append, List.length_reverse, List.length_reverse] at short
      cases rest with
      | nil =>
          rw [List.length_nil] at short
          omega
      | cons c before =>
          have dotted : c = '.' := bne_eq_false_iff_eq.mp dot
          rw [dotted] at whole
          refine ⟨before.reverse, fun none => ?_, ?_, fun mem => ?_⟩
          · rw [List.reverse_eq_nil_iff.mp none, List.length_singleton] at short
            omega
          · rw [whole, String.toList_ofList, List.reverse_cons, List.append_assoc]
            rfl
          · rw [String.toList_ofList, List.mem_reverse] at mem
            exact absurd (List.all_eq_true.mp plain _ mem) (by decide)
    · cases found
  · rintro ⟨stem, filled, whole, plain⟩
    have all : ∀ c ∈ ending.toList.reverse, (c != '.') = true := fun c mem =>
      bne_iff_ne.mpr fun dot => plain (dot ▸ List.mem_reverse.mp mem)
    have tail : name.toList.reverse.takeWhile (· != '.') = ending.toList.reverse := by
      rw [whole, List.reverse_append, List.reverse_cons, List.append_assoc,
        List.takeWhile_append_of_pos all]
      simp
    have short : ending.toList.reverse.length + 1 < name.toList.length := by
      have := List.length_pos_iff.mpr filled
      rw [whole, List.length_append, List.length_cons, List.length_reverse]
      omega
    dsimp only
    rw [tail, if_pos short, List.reverse_reverse, String.ofList_toList]

theorem fileName?_join {p : Path} (filled : p.text ≠ "") {name : String}
    (proper : Tree.isEntryName name = true) : (p.join ⟨name⟩).fileName? = some name := by
  obtain ⟨_, whole, _⟩ := Tree.isEntryName_iff.mp proper
  rw [fileName?, components_join filled whole, Tree.component?_entryName proper]
  simp

end Path

/-- The name of an image: something, a dot, and one of the extensions. Dots in front of these and
the case of ASCII letters do not count. -/
def IsImageName (extensions : List String) (name : String) : Prop :=
  ∃ stem ending, stem ≠ [] ∧ name.toList = stem ++ '.' :: ending ∧ '.' ∉ ending ∧
    ∃ extension ∈ extensions,
      ending.map Char.toLower = (extension.toList.dropWhile (· == '.')).map Char.toLower

theorem hasExtension_iff {p : Path} {name : String} (named : p.fileName? = some name)
    (extensions : List String) :
    p.hasExtension (extensions.map plainExtension) = true ↔ IsImageName extensions name := by
  have member (ending : List Char) : (extensions.map plainExtension).contains
      (ending.map Char.toLower) = true ↔ ∃ extension ∈ extensions,
        ending.map Char.toLower = (extension.toList.dropWhile (· == '.')).map Char.toLower := by
    rw [List.contains_iff_mem, List.mem_map]
    exact exists_congr fun extension => and_congr_right fun _ => eq_comm
  rw [Path.hasExtension]
  constructor
  · intro has
    split at has
    · rename_i ending found
      obtain ⟨stem, filled, whole, plain⟩ := (Path.extension?_eq_some named).mp found
      exact ⟨stem, ending.toList, filled, whole, plain, (member _).mp has⟩
    · cases has
  · rintro ⟨stem, ending, filled, whole, plain, wanted⟩
    have found : p.extension? = some (String.ofList ending) := by
      rw [Path.extension?_eq_some named, String.toList_ofList]
      exact ⟨stem, filled, whole, plain⟩
    rw [found]
    dsimp only
    rw [String.toList_ofList]
    exact (member ending).mpr wanted

namespace Disk

variable {d : Disk} {p folder : Path} {place : List String} {name : String} {t : Tree}
  {entries : List (String × Tree)} {extensions : List String}

theorem locate_join (proper : d.Proper) (led : d.locate folder = .ok place)
    (held : d.root.at? (place ++ [name]) = some t) :
    d.locate (folder.join ⟨name⟩) = .ok (place ++ [name]) ∧
      (folder.join ⟨name⟩).fileName? = some name := by
  have entry : Tree.isEntryName name = true :=
    proper.isEntryName_below held name (List.mem_singleton_self _)
  obtain ⟨_, whole, clean⟩ := Tree.isEntryName_iff.mp entry
  obtain ⟨filled, plain, _⟩ := locate_steps.mp led
  have opens := (proper.opens_iff_locate filled plain).mpr ⟨led, Tree.folderAt_of_at? held⟩
  refine ⟨locate_steps.mpr ⟨Path.join_filled filled whole, fun nul => ?_, ?_⟩,
    Path.fileName?_join filled entry⟩
  · rcases Path.mem_toList_join nul with before | slash | inside
    · exact plain before
    · cases slash
    · exact clean inside
  · rw [outset, Path.isRooted_join filled whole, Path.steps_join filled whole,
      Tree.component?_entryName entry]
    exact opens.walk_append (walk_names held)

theorem at_entry (proper : d.Proper) (held : d.root.at? place = some (.folder entries)) :
    d.root.at? (place ++ [name]) = some t ↔ (name, t) ∈ entries := by
  obtain ⟨once, _⟩ := Tree.isProper_folder.mp (Tree.isProper_at proper.names held)
  rw [Tree.at?_append, held, ← Tree.child?_eq_some once]
  show ((Tree.folder entries).child? name).bind some = some t ↔ _
  rw [Option.bind_fun_some]

theorem nodup_entries (proper : d.Proper) (folder : Path) :
    ((d.entries folder).map Prod.fst).Nodup := by
  cases listed : d.entries folder with
  | nil => exact .nil
  | cons entry rest =>
      obtain ⟨place, _, held⟩ := at_of_mem_entries (listed ▸ List.mem_cons_self)
      rw [← listed]
      exact (Tree.isProper_folder.mp (Tree.isProper_at proper.names held)).1

structure HoldsImage (d : Disk) (extensions : List String) (folder : Path) (place : List String)
    (name : String) : Prop where
  led : d.locate folder = .ok place
  file : ∃ content, d.root.at? (place ++ [name]) = some (.file content)
  named : IsImageName extensions name

/-- A list of exactly the images directly inside a folder, each once and in order. -/
structure ListedIn (d : Disk) (extensions : List String) (folder : Path) (listed : List Path) :
    Prop where
  sorted : listed.Pairwise fun a b => a.le b = true
  once : (listed.map d.locate).Nodup
  sound : ∀ path ∈ listed, ∃ place name, d.HoldsImage extensions folder place name ∧
    d.locate path = .ok (place ++ [name]) ∧ path = folder.join ⟨name⟩
  complete : ∀ place name, d.HoldsImage extensions folder place name →
    folder.join ⟨name⟩ ∈ listed

theorem mem_imagesIn (proper : d.Proper) {path : Path} :
    path ∈ d.imagesIn (extensions.map plainExtension) folder ↔
      ∃ place name, d.HoldsImage extensions folder place name ∧ path = folder.join ⟨name⟩ := by
  rw [imagesIn, List.mem_mergeSort, List.mem_filter, List.mem_map]
  constructor
  · rintro ⟨⟨⟨name, t⟩, mem, rfl⟩, has⟩
    obtain ⟨mem, kind⟩ := List.mem_filter.mp mem
    obtain ⟨place, led, held⟩ := at_of_mem_entries mem
    have there := (at_entry proper held).mpr mem
    have file : ∃ content, d.root.at? (place ++ [name]) = some (.file content) := by
      cases t with
      | file content => exact ⟨content, there⟩
      | folder entries => cases kind
    exact ⟨place, name,
      ⟨led, file, (hasExtension_iff (locate_join proper led there).2 extensions).mp has⟩, rfl⟩
  · rintro ⟨place, name, ⟨led, ⟨content, there⟩, named⟩, rfl⟩
    obtain ⟨entries, held⟩ := Tree.folderAt_of_at? there
    have mem : (name, .file content) ∈ d.entries folder := by
      rw [entries_of_at led held]
      exact (at_entry proper held).mp there
    exact ⟨⟨_, List.mem_filter.mpr ⟨mem, rfl⟩, rfl⟩,
      (hasExtension_iff (locate_join proper led there).2 extensions).mpr named⟩

theorem nodup_imagesIn (proper : d.Proper) (extensions : List (List Char)) (folder : Path) :
    ((d.imagesIn extensions folder).map d.locate).Nodup := by
  have apart : (d.entries folder).Pairwise fun a b =>
      d.locate (folder.join ⟨a.1⟩) ≠ d.locate (folder.join ⟨b.1⟩) := by
    refine (List.pairwise_map.mp (nodup_entries proper folder)).imp_of_mem ?_
    intro a b memA memB differ same
    obtain ⟨place, led, held⟩ := at_of_mem_entries memA
    have ledA := (locate_join proper led ((at_entry proper held).mpr memA)).1
    have ledB := (locate_join proper led ((at_entry proper held).mpr memB)).1
    rw [ledA, ledB, Except.ok.injEq] at same
    exact differ (List.singleton_inj.mp (List.append_cancel_left same))
  rw [imagesIn, ((List.mergeSort_perm _ _).map d.locate).nodup_iff]
  refine List.pairwise_map.mpr (List.Pairwise.filter _ (List.pairwise_map.mpr ?_))
  exact apart.filter _

theorem imagesIn_listed (proper : d.Proper) (extensions : List String) (folder : Path) :
    d.ListedIn extensions folder (d.imagesIn (extensions.map plainExtension) folder) := by
  refine ⟨Path.pairwise_mergeSort _, nodup_imagesIn proper _ folder, fun path mem => ?_,
    fun place name image => (mem_imagesIn proper).mpr ⟨place, name, image, rfl⟩⟩
  obtain ⟨place, name, image, rfl⟩ := (mem_imagesIn proper).mp mem
  obtain ⟨_, there⟩ := image.file
  exact ⟨place, name, image, (locate_join proper image.led there).1, rfl⟩

/-- The image folders that are found below each root, in the order of the roots, are those of the
name, unless the path of the root begins with dots and an empty segment: then nothing is found. The
images that are listed in each of these folders are those that it holds. -/
theorem discovery_exact (d : Disk) (proper : d.Proper) (scan : ScanSettings)
    (valid : scan.problems = [])
    (filled : ∀ root ∈ scan.roots, (scan.baseDir.join ⟨root⟩).text ≠ "") :
    (∃ found : String → List Path, d.imageFolders scan = scan.roots.flatMap found ∧
      ∀ root ∈ scan.roots, let p := scan.baseDir.join ⟨root⟩
        (p.stalls = true → found root = []) ∧
        (d.FoundBelow p scan.folderName (found root) ↔
          (p.stalls = true → ∀ place names, ¬d.LeadsDown p scan.folderName place names))) ∧
    ∃ listed : Path → List Path,
      d.images (d.imageFolders scan) scan.extensions = (d.imageFolders scan).flatMap listed ∧
      ∀ folder ∈ d.imageFolders scan, d.ListedIn scan.extensions folder (listed folder) := by
  obtain ⟨whole, named⟩ := ScanSettings.folderName_plain valid
  refine ⟨⟨fun root => d.imageFoldersBelow (scan.baseDir.join ⟨root⟩) scan.folderName, rfl,
    fun root among => ?_⟩, _, rfl, fun folder _ => imagesIn_listed proper _ folder⟩
  obtain ⟨stalled, onward⟩ := imageFoldersBelow_found proper whole named (filled root among)
  intro p
  refine ⟨stalled, fun found still place names leads => ?_, fun nothing => ?_⟩
  · obtain ⟨path, mem, _⟩ := found.complete place names leads
    dsimp only at mem
    rw [stalled still] at mem
    cases mem
  · cases still : p.stalls with
    | true =>
        dsimp only
        rw [stalled still]
        exact .nil (nothing still)
    | false => exact onward still

/-- Nothing is found below the path "./", though there is an image folder. -/
theorem discovery_stalls :
    let d : Disk := ⟨.folder [("docs", .folder [("_images", .folder [("a.png", .file (.text ""))])])],
      []⟩
    let scan : ScanSettings := ⟨⟨"."⟩, [""], "_images", ["png"]⟩
    d.Proper ∧ scan.problems = [] ∧ (∀ root ∈ scan.roots, (scan.baseDir.join ⟨root⟩).text ≠ "") ∧
      d.LeadsDown ⟨"./"⟩ "_images" [] ["docs", "_images"] ∧
      ∃ found : String → List Path, d.imageFolders scan = scan.roots.flatMap found ∧
        ∀ root ∈ scan.roots, found root = [] ∧
          ¬d.FoundBelow (scan.baseDir.join ⟨root⟩) scan.folderName (found root) := by
  intro d scan
  have proper : d.Proper := ⟨by decide +kernel, _, rfl⟩
  have valid : scan.problems = [] := by decide +kernel
  have filled : ∀ root ∈ scan.roots, (scan.baseDir.join ⟨root⟩).text ≠ "" := by decide +kernel
  have leads : d.LeadsDown ⟨"./"⟩ "_images" [] ["docs", "_images"] := ⟨rfl, rfl, _, rfl⟩
  obtain ⟨⟨found, whole, each⟩, _⟩ := discovery_exact d proper scan valid filled
  refine ⟨proper, valid, filled, leads, found, whole, fun root among => ?_⟩
  cases List.mem_singleton.mp among
  have joined : scan.baseDir.join ⟨""⟩ = ⟨"./"⟩ := by decide +kernel
  have still : (scan.baseDir.join ⟨""⟩).stalls = true := by decide +kernel
  obtain ⟨nothing, exactly⟩ := each "" among
  rw [← joined] at leads
  exact ⟨nothing still, fun complete => exactly.mp complete still [] ["docs", "_images"] leads⟩

end Disk

end ImageSearch
