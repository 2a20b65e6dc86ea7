import ImageSearch.Proofs.Discovery.Search

set_option autoImplicit false

namespace ImageSearch

open ImageSearch.Path

def Path.Component.ofNames (names : List String) : List Component :=
  names.map fun name => .name name.toList

namespace Path

variable {p : Path} {names : List String}

/-- The name of an entry adds itself. -/
theorem Written.entry_name (written : p.Written) {name : String}
    (proper : Tree.isEntryName name = true) :
    (p.entry name).Steady ∧ (p.entry name).isRooted = p.isRooted ∧
      (p.entry name).steps = p.steps ++ [.name name.toList] ∧
      ('\x00' ∉ p.text.toList → '\x00' ∉ (p.entry name).text.toList) := by
  obtain ⟨⟨filled, visible, _⟩, whole, plain⟩ := Tree.isEntryName_iff.mp proper
  obtain ⟨_, rooted, steps, _, chars⟩ := written.entry whole fun _ => filled
  rw [Tree.component?_entryName proper] at steps
  refine ⟨?_, rooted, steps, fun clean nul => ?_⟩
  · rcases written with rfl | steady
    · exact steady_piece whole filled visible
    · rw [steady.entry]
      exact steady.join whole
  · rcases chars _ nul with before | slash | inside
    · exact clean before
    · cases slash
    · exact plain inside

theorem Steady.under (steady : p.Steady)
    (proper : ∀ name ∈ names, Tree.isEntryName name = true) :
    (p.under names).Steady ∧ (p.under names).isRooted = p.isRooted ∧
      (p.under names).steps = p.steps ++ Component.ofNames names ∧
      ('\x00' ∉ p.text.toList → '\x00' ∉ (p.under names).text.toList) := by
  induction names generalizing p with
  | nil => exact ⟨steady, rfl, (List.append_nil _).symm, id⟩
  | cons name rest ih =>
      obtain ⟨first, later⟩ := List.forall_mem_cons.mp proper
      obtain ⟨next, rooted, steps, plain⟩ := Written.entry_name (.inr steady) first
      obtain ⟨ends, rooted', steps', plain'⟩ := ih next later
      refine ⟨ends, rooted'.trans rooted, steps'.trans ?_, fun clean => plain' (plain clean)⟩
      rw [steps, List.append_assoc]
      rfl

theorem Written.under (written : p.Written) (down : names ≠ [])
    (proper : ∀ name ∈ names, Tree.isEntryName name = true) :
    (p.under names).Steady ∧ (p.under names).isRooted = p.isRooted ∧
      (p.under names).steps = p.steps ++ Component.ofNames names ∧
      ('\x00' ∉ p.text.toList → '\x00' ∉ (p.under names).text.toList) := by
  obtain ⟨name, rest, rfl⟩ := List.exists_cons_of_ne_nil down
  obtain ⟨first, later⟩ := List.forall_mem_cons.mp proper
  obtain ⟨next, rooted, steps, plain⟩ := written.entry_name first
  obtain ⟨ends, rooted', steps', plain'⟩ := next.under later
  refine ⟨ends, rooted'.trans rooted, steps'.trans ?_, fun clean => plain' (plain clean)⟩
  rw [steps, List.append_assoc]
  rfl

end Path

namespace Tree

variable {t inner : Tree} {place more : List String}

theorem folderAt_of_at? {name : String} (found : t.at? (place ++ name :: more) = some inner) :
    t.FolderAt place := by
  rw [at?_append, Option.bind_eq_some_iff] at found
  obtain ⟨here, held, found⟩ := found
  cases here with
  | folder entries => exact ⟨entries, held⟩
  | file content => cases found

/-- The names that lead through a proper tree are names of entries. -/
theorem isEntryName_of_at? (proper : t.isProper = true) (found : t.at? place = some inner) :
    ∀ name ∈ place, isEntryName name = true := by
  induction place generalizing t with
  | nil => exact List.forall_mem_nil _
  | cons name rest ih =>
      obtain ⟨next, child, inside⟩ := Option.bind_eq_some_iff.mp found
      cases t with
      | file content => cases child
      | folder entries =>
          obtain ⟨once, all⟩ := isProper_folder.mp proper
          obtain ⟨named, proper'⟩ := all _ ((child?_eq_some once).mp child)
          exact List.forall_mem_cons.mpr ⟨named, ih proper' inside⟩

end Tree

namespace Disk

variable {d : Disk} {p base : Path} {place middle target names : List String} {t : Tree}

theorem step_after (known : d.root.FolderAt place) (c : Component) :
    d.step place c = .ok (c.after place) := by
  cases c with
  | root | current | parent => rfl
  | name text => exact step_name.mpr ⟨known, rfl⟩

/-- After a walk through folders goes on what goes on from its end. -/
theorem Opens.walk_append {steps more : List Component} (opens : d.Opens place steps middle)
    (walked : d.walk middle more = .ok target) : d.walk place (steps ++ more) = .ok target := by
  induction steps generalizing place with
  | nil =>
      obtain ⟨_, rfl⟩ := opens
      exact walked
  | cons c rest ih =>
      obtain ⟨known, inner⟩ := opens
      exact walk_cons.mpr ⟨_, step_after known c, fun _ _ _ _ => inner.folder, ih inner⟩

theorem walk_names (held : d.root.at? (place ++ names) = some t) :
    d.walk place (Component.ofNames names) = .ok (place ++ names) := by
  induction names generalizing place with
  | nil =>
      rw [List.append_nil]
      rfl
  | cons name rest ih =>
      have step : d.step place (.name name.toList) = .ok (place ++ [name]) :=
        step_name.mpr ⟨Tree.folderAt_of_at? held, by rw [String.ofList_toList]⟩
      have onward : ∀ text more, Component.name name.toList = .name text →
          Component.ofNames rest = .parent :: more → d.root.FolderAt (place ++ [name]) := by
        intro _ _ _ back
        cases rest with
        | nil => cases back
        | cons => cases back
      have held' : d.root.at? (place ++ [name] ++ rest) = some t := by rwa [List.append_assoc]
      have inner := ih held'
      rw [List.append_assoc] at inner
      exact walk_cons.mpr ⟨_, step, onward, inner⟩

theorem Proper.isEntryName_below (proper : d.Proper) (held : d.root.at? (place ++ names) = some t) :
    ∀ name ∈ names, Tree.isEntryName name = true := fun name mem =>
  Tree.isEntryName_of_at? proper.names held name (List.mem_append_right place mem)

theorem locate_under (proper : d.Proper) (written : base.Written)
    (led : d.locate base = .ok place) (down : names ≠ [])
    (held : d.root.at? (place ++ names) = some t) :
    d.locate (base.under names) = .ok (place ++ names) := by
  have known : d.root.FolderAt place := by
    obtain ⟨name, rest, rfl⟩ := List.exists_cons_of_ne_nil down
    exact Tree.folderAt_of_at? held
  obtain ⟨filled, clean, _⟩ := locate_steps.mp led
  obtain ⟨steady, rooted, steps, plain⟩ := written.under down (proper.isEntryName_below held)
  have opens := (proper.opens_iff_locate filled clean).mpr ⟨led, known⟩
  refine locate_steps.mpr ⟨steady.filled, plain clean, ?_⟩
  rw [outset, rooted, steps]
  exact opens.walk_append (walk_names held)

end Disk

namespace Tree

def foldersNamed (name : String) (t : Tree) : List (List String) :=
  (t.inside.filter fun found => found.1.getLast? == some name && found.2.isFolder).map Prod.fst

theorem mem_foldersNamed {t : Tree} (proper : t.isProper = true) {name : String}
    {names : List String} :
    names ∈ t.foldersNamed name ↔ names.getLast? = some name ∧ t.FolderAt names := by
  simp only [foldersNamed, List.mem_map, List.mem_filter, Bool.and_eq_true, beq_iff_eq]
  constructor
  · rintro ⟨⟨_, inner⟩, ⟨mem, last, kind⟩, rfl⟩
    obtain ⟨_, held⟩ := (mem_inside proper).mp mem
    cases inner with
    | folder entries => exact ⟨last, entries, held⟩
    | file content => cases kind
  · rintro ⟨last, entries, held⟩
    have down : names ≠ [] := by
      rintro rfl
      cases last
    exact ⟨_, ⟨(mem_inside proper).mpr ⟨down, held⟩, last, rfl⟩, rfl⟩

theorem nodup_foldersNamed {t : Tree} (proper : t.isProper = true) (name : String) :
    (t.foldersNamed name).Nodup :=
  (nodup_inside proper).sublist (List.filter_sublist.map Prod.fst)

end Tree

theorem folderNames_plain {name : String} (whole : '/' ∉ name.toList) (filled : name ≠ "") :
    folderNames name = [name] := by
  have pieces : slashPieces name.toList = [name] := by
    rw [slashPieces, Text.splitOnChar_eq_splitOnP, splitOnP_piece whole, List.map_singleton,
      String.ofList_toList]
  rw [folderNames, pieces]
  simpa using filled

namespace Disk

variable {d : Disk} {p base : Path} {place names : List String} {name : String} {t : Tree}

theorem isFolder_of_at (led : d.locate p = .ok place) (held : d.root.at? place = some t) :
    d.isFolder p = t.isFolder := by
  rw [Bool.eq_iff_iff, isFolder_iff]
  constructor
  · rintro ⟨place', led', entries, held'⟩
    cases led.symm.trans led'
    cases held.symm.trans held'
    rfl
  · intro kind
    cases t with
    | folder entries => exact ⟨place, led, entries, held⟩
    | file content => cases kind

theorem filterMap_imageFolder? (listed : List (Path × String × Tree)) :
    listed.filterMap (d.imageFolder? [name]) =
      (listed.filter fun entry => entry.2.1 == name).map Prod.fst := by
  have one (entry : Path × String × Tree) :
      d.imageFolder? [name] entry = if entry.2.1 = name then some entry.1 else none := rfl
  rw [← List.filterMap_eq_map, List.filterMap_filter]
  simp only [funext one, Function.comp_apply, beq_iff_eq]

/-- The search below a path begins at a folder, and writes it as `base`. -/
structure Begins (d : Disk) (p base : Path) (place : List String) : Prop where
  follow : d.follow p.origin.1 p.origin.2 = some base
  written : base.Written
  led : d.locate base = .ok place
  known : d.root.FolderAt place

/-- The search below an empty path begins at the root. -/
theorem begins_of_empty (proper : d.Proper) (empty : p.text = "") : d.Begins p ⟨"/"⟩ [] :=
  ⟨follow_of_empty empty, .inr ⟨by decide, rfl⟩, rfl, proper.top⟩

section Begins

variable (proper : d.Proper) (whole : '/' ∉ name.toList) (named : name ≠ "")
include proper

theorem Begins.locate_under (begins : d.Begins p base place) (last : names.getLast? = some name)
    (folder : d.root.FolderAt (place ++ names)) :
    d.locate (base.under names) = .ok (place ++ names) := by
  have down : names ≠ [] := by
    rintro rfl
    cases last
  obtain ⟨_, held⟩ := folder
  exact Disk.locate_under proper begins.written begins.led down held

include whole named

/-- Of all that is listed, the search keeps the folders of the name. -/
theorem Begins.found (begins : d.Begins p base place) {entries : List (String × Tree)}
    (held : d.root.at? place = some (.folder entries)) :
    d.imageFoldersBelow p name =
      (((Tree.folder entries).foldersNamed name).map base.under).mergeSort Path.le := by
  have proper' := Tree.isProper_at proper.names held
  have same : ∀ found ∈ Tree.insideAll entries,
      (d.isFolder (base.under found.1) && found.1.getLast?.getD "" == name) =
        (found.1.getLast? == some name && found.2.isFolder) := by
    rintro ⟨names, inner⟩ mem
    obtain ⟨down, held'⟩ := (Tree.mem_inside (t := .folder entries) proper').mp mem
    have there : d.root.at? (place ++ names) = some inner := by
      rw [Tree.at?_append, held]
      exact held'
    have last : (names.getLast?.getD "" == name) = (names.getLast? == some name) := by
      cases names.getLast? with
      | none => simpa using Ne.symm named
      | some => simp
    have led := Disk.locate_under proper begins.written begins.led down there
    rw [last, isFolder_of_at led there, Bool.and_comm]
  rw [imageFoldersBelow, begins.follow]
  dsimp only
  rw [folderNames_plain whole named, entries_of_at begins.led held, filterMap_imageFolder?,
    Tree.entriesBelow_eq, List.filter_map, List.filter_map, List.filter_map, List.filter_filter,
    List.map_map, Tree.foldersNamed, List.map_map]
  exact congrArg (fun kept => (List.map _ kept).mergeSort Path.le) (List.filter_congr same)

theorem Begins.mem_found (begins : d.Begins p base place) {path : Path} :
    path ∈ d.imageFoldersBelow p name ↔ ∃ names, names.getLast? = some name ∧
      d.root.FolderAt (place ++ names) ∧ path = base.under names := by
  obtain ⟨entries, held⟩ := begins.known
  have inner (names : List String) :
      d.root.FolderAt (place ++ names) ↔ (Tree.folder entries).FolderAt names := by
    rw [Tree.FolderAt, Tree.at?_append, held]
    rfl
  rw [begins.found proper whole named held, List.mem_mergeSort, List.mem_map]
  simp only [Tree.mem_foldersNamed (Tree.isProper_at proper.names held), inner, and_assoc]
  exact exists_congr fun names => and_congr_right fun _ => and_congr_right fun _ => eq_comm

theorem Begins.nodup_found (begins : d.Begins p base place) :
    ((d.imageFoldersBelow p name).map d.locate).Nodup := by
  obtain ⟨entries, held⟩ := begins.known
  have proper' := Tree.isProper_at proper.names held
  rw [begins.found proper whole named held, ((List.mergeSort_perm _ _).map d.locate).nodup_iff,
    List.map_map]
  refine List.pairwise_map.mpr ((Tree.nodup_foldersNamed proper' name).imp_of_mem ?_)
  have led {names : List String} (mem : names ∈ (Tree.folder entries).foldersNamed name) :
      d.locate (base.under names) = .ok (place ++ names) := by
    obtain ⟨last, inner, held'⟩ := (Tree.mem_foldersNamed proper').mp mem
    refine begins.locate_under proper last ⟨inner, ?_⟩
    rw [Tree.at?_append, held]
    exact held'
  intro a b memA memB apart same
  rw [Function.comp_apply, Function.comp_apply, led memA, led memB, Except.ok.injEq] at same
  exact apart (List.append_cancel_left same)

theorem Begins.sorted_found (begins : d.Begins p base place) :
    (d.imageFoldersBelow p name).Pairwise fun a b => a.le b = true := by
  obtain ⟨entries, held⟩ := begins.known
  rw [begins.found proper whole named held]
  exact pairwise_mergeSort _

end Begins

/-- Where there is no folder nothing is found. -/
theorem imageFoldersBelow_nil (found : d.follow p.origin.1 p.origin.2 = none ∨
    ∃ base, d.follow p.origin.1 p.origin.2 = some base ∧ d.isFolder base = false) :
    d.imageFoldersBelow p name = [] := by
  rw [imageFoldersBelow]
  rcases found with nowhere | ⟨base, found, bare⟩
  · rw [nowhere]
  · have none : d.entries base = [] := by
      rw [List.eq_nil_iff_forall_not_mem]
      intro entry mem
      obtain ⟨place, led, held⟩ := at_of_mem_entries mem
      rw [isFolder_of_at led held] at bare
      cases bare
    rw [found]
    dsimp only
    rw [none]
    exact List.mergeSort_nil

/-- Names lead from the place of a path down to a folder of a name. -/
structure LeadsDown (d : Disk) (p : Path) (name : String) (place names : List String) : Prop where
  led : d.locate p = .ok place
  last : names.getLast? = some name
  folder : d.root.FolderAt (place ++ names)

theorem LeadsDown.down (leads : d.LeadsDown p name place names) : names ≠ [] := by
  rintro rfl
  cases leads.last

theorem LeadsDown.top (leads : d.LeadsDown p name place names) : d.root.FolderAt place :=
  leads.folder.front (List.prefix_append place names)

/-- A list of exactly the folders of a name below the place of a path, each once and in order. Their
paths go on from that path, but for its leading dot. -/
structure FoundBelow (d : Disk) (p : Path) (name : String) (found : List Path) : Prop where
  sorted : found.Pairwise fun a b => a.le b = true
  once : (found.map d.locate).Nodup
  sound : ∀ path ∈ found, ∃ place names, d.LeadsDown p name place names ∧
    d.locate path = .ok (place ++ names) ∧
    path.components = p.components.filter (· != .current) ++ Component.ofNames names
  complete : ∀ place names, d.LeadsDown p name place names →
    ∃ path ∈ found, d.locate path = .ok (place ++ names)

theorem FoundBelow.nil (nothing : ∀ place names, ¬d.LeadsDown p name place names) :
    d.FoundBelow p name [] :=
  ⟨.nil, .nil, List.forall_mem_nil _, fun place names leads => (nothing place names leads).elim⟩

section Found

variable (proper : d.Proper) (whole : '/' ∉ name.toList) (named : name ≠ "")
include proper whole named

theorem Begins.foundBelow (begins : d.Begins p base place) (filled : p.text ≠ "") :
    d.FoundBelow p name (d.imageFoldersBelow p name) := by
  obtain ⟨_, rooted, steps, _, onward⟩ := locate_of_follow filled begins.follow
  have led := onward place begins.led
  refine ⟨begins.sorted_found proper whole named, begins.nodup_found proper whole named,
    fun path mem => ?_, fun place' names leads => ?_⟩
  · obtain ⟨names, last, folder, rfl⟩ := (begins.mem_found proper whole named).mp mem
    have leads : d.LeadsDown p name place names := ⟨led, last, folder⟩
    have ⟨_, held⟩ := folder
    obtain ⟨steady, rooted', steps', _⟩ :=
      begins.written.under leads.down (proper.isEntryName_below held)
    refine ⟨place, names, leads, begins.locate_under proper last folder, ?_⟩
    rw [steady.components, rooted', rooted, steps', steps, filter_components, List.append_assoc]
  · cases leads.led.symm.trans led
    exact ⟨_, (begins.mem_found proper whole named).mpr ⟨names, leads.last, leads.folder, rfl⟩,
      begins.locate_under proper leads.last leads.folder⟩

/-- The search below a path that is not empty finds all that is there, unless it stalls. -/
theorem imageFoldersBelow_found (filled : p.text ≠ "") :
    (p.stalls = true → d.imageFoldersBelow p name = []) ∧
      (p.stalls = false → d.FoundBelow p name (d.imageFoldersBelow p name)) := by
  cases found : d.follow p.origin.1 p.origin.2 with
  | none =>
      have list : d.imageFoldersBelow p name = [] := imageFoldersBelow_nil (.inl found)
      refine ⟨fun _ => list, fun onward => list ▸ .nil fun place names leads => ?_⟩
      obtain ⟨base, found', _⟩ := follow_of_locate proper onward leads.led leads.top
      rw [found] at found'
      cases found'
  | some base =>
      obtain ⟨written, _, _, onward, _⟩ := locate_of_follow filled found
      refine ⟨fun stalled => absurd (onward.symm.trans stalled) Bool.false_ne_true, fun _ => ?_⟩
      cases kind : d.isFolder base with
      | true =>
          obtain ⟨place, led, known⟩ := isFolder_iff.mp kind
          exact Begins.foundBelow proper whole named ⟨found, written, led, known⟩ filled
      | false =>
          have list : d.imageFoldersBelow p name = [] :=
            imageFoldersBelow_nil (.inr ⟨base, found, kind⟩)
          refine list ▸ .nil fun place names leads => ?_
          obtain ⟨base', found', led'⟩ := follow_of_locate proper onward leads.led leads.top
          cases found.symm.trans found'
          rw [isFolder_iff.mpr ⟨place, led', leads.top⟩] at kind
          cases kind

end Found

end Disk

end ImageSearch
