import ImageSearch.Proofs.Disk.Walks

set_option autoImplicit false

namespace ImageSearch

/-- The path of what names lead to from a folder. -/
def Path.under (folder : Path) (names : List String) : Path := names.foldl Path.entry folder

namespace Tree

mutual

def inside : Tree → List (List String × Tree)
  | file _ => []
  | folder entries => insideAll entries

def insideAll : List (String × Tree) → List (List String × Tree)
  | [] => []
  | (name, t) :: rest =>
    ([name], t) :: (t.inside.map (fun found => (name :: found.1, found.2)) ++ insideAll rest)

end

theorem mem_insideAll {entries : List (String × Tree)} {names : List String} {inner : Tree} :
    (names, inner) ∈ insideAll entries ↔ ∃ name t, (name, t) ∈ entries ∧
      (names = [name] ∧ inner = t ∨ ∃ more, names = name :: more ∧ (more, inner) ∈ t.inside) := by
  induction entries with
  | nil => simp [insideAll]
  | cons entry rest ih =>
      obtain ⟨n, s⟩ := entry
      rw [insideAll, List.mem_cons, List.mem_append, ih, List.mem_map]
      constructor
      · rintro (here | ⟨⟨more, _⟩, among, same⟩ | ⟨name, t, mem, found⟩)
        · cases here
          exact ⟨n, inner, List.mem_cons_self, .inl ⟨rfl, rfl⟩⟩
        · cases same
          exact ⟨n, s, List.mem_cons_self, .inr ⟨more, rfl, among⟩⟩
        · exact ⟨name, t, List.mem_cons_of_mem _ mem, found⟩
      · rintro ⟨name, t, mem, found⟩
        rcases List.mem_cons.mp mem with here | later
        · cases here
          rcases found with ⟨rfl, rfl⟩ | ⟨more, rfl, among⟩
          · exact .inl rfl
          · exact .inr (.inl ⟨(more, inner), among, rfl⟩)
        · exact .inr (.inr ⟨name, t, later, found⟩)

/-- In a proper tree exactly what is there is listed. -/
theorem mem_inside {t inner : Tree} (proper : t.isProper = true) {names : List String} :
    (names, inner) ∈ t.inside ↔ names ≠ [] ∧ t.at? names = some inner := by
  induction names generalizing t with
  | nil =>
      refine iff_of_false (fun mem => ?_) fun found => found.1 rfl
      cases t with
      | file content => cases mem
      | folder entries =>
          obtain ⟨_, _, _, ⟨missing, _⟩ | ⟨_, missing, _⟩⟩ := mem_insideAll.mp mem
          · cases missing
          · cases missing
  | cons name rest ih =>
      rw [and_iff_right (List.cons_ne_nil name rest), at?, Option.bind_eq_some_iff]
      cases t with
      | file content =>
          refine iff_of_false List.not_mem_nil ?_
          rintro ⟨_, child, _⟩
          cases child
      | folder entries =>
          obtain ⟨once, all⟩ := isProper_folder.mp proper
          rw [inside, mem_insideAll]
          constructor
          · rintro ⟨n, t, mem, ⟨same, rfl⟩ | ⟨more, same, found⟩⟩
            · cases same
              exact ⟨inner, (child?_eq_some once).mpr mem, rfl⟩
            · cases same
              exact ⟨t, (child?_eq_some once).mpr mem, ((ih (all _ mem).2).mp found).2⟩
          · rintro ⟨t, child, found⟩
            have mem := (child?_eq_some once).mp child
            refine ⟨name, t, mem, ?_⟩
            cases rest with
            | nil =>
                cases found
                exact .inl ⟨rfl, rfl⟩
            | cons next more =>
                exact .inr ⟨_, rfl, (ih (all _ mem).2).mpr ⟨List.cons_ne_nil _ _, found⟩⟩

theorem names_of_mem_inside {t inner : Tree} {names : List String} (mem : (names, inner) ∈ t.inside) :
    names ≠ [] := by
  cases t with
  | file content => cases mem
  | folder entries =>
      obtain ⟨_, _, _, ⟨rfl, _⟩ | ⟨_, rfl, _⟩⟩ := mem_insideAll.mp mem
      · exact List.cons_ne_nil _ _
      · exact List.cons_ne_nil _ _

/-- What is listed of some entries begins with the name of one. -/
theorem head_of_mem_insideAll {entries : List (String × Tree)} {names : List String}
    (mem : names ∈ (insideAll entries).map Prod.fst) :
    ∃ name ∈ entries.map Prod.fst, ∃ more, names = name :: more := by
  obtain ⟨⟨_, inner⟩, among, rfl⟩ := List.mem_map.mp mem
  obtain ⟨name, t, here, ⟨rfl, _⟩ | ⟨more, rfl, _⟩⟩ := mem_insideAll.mp among
  · exact ⟨name, List.mem_map_of_mem here, [], rfl⟩
  · exact ⟨name, List.mem_map_of_mem here, more, rfl⟩

mutual

theorem nodup_inside {t : Tree} (proper : t.isProper = true) : (t.inside.map Prod.fst).Nodup :=
  match t with
  | file _ => List.nodup_nil
  | folder _ =>
    have ⟨once, all⟩ := isProper_folder.mp proper
    nodup_insideAll once fun entry mem => (all entry mem).2

theorem nodup_insideAll {entries : List (String × Tree)} (once : (entries.map Prod.fst).Nodup)
    (proper : ∀ entry ∈ entries, entry.2.isProper = true) :
    ((insideAll entries).map Prod.fst).Nodup :=
  match entries with
  | [] => List.nodup_nil
  | (name, t) :: rest => by
    obtain ⟨new, once'⟩ := List.nodup_cons.mp once
    obtain ⟨first, later⟩ := List.forall_mem_cons.mp proper
    have whole : (insideAll ((name, t) :: rest)).map Prod.fst =
        [name] :: ((t.inside.map Prod.fst).map (name :: ·) ++ (insideAll rest).map Prod.fst) := by
      simp [insideAll]
    have apart {more : List String} : name :: more ∉ (insideAll rest).map Prod.fst := by
      intro mem
      obtain ⟨_, among, _, same⟩ := head_of_mem_insideAll mem
      cases same
      exact new among
    rw [whole, List.nodup_cons, List.mem_append, List.nodup_append]
    refine ⟨?_, ?_, nodup_insideAll once' later, ?_⟩
    · rintro (inner | other)
      · obtain ⟨_, mem, same⟩ := List.mem_map.mp inner
        cases same
        obtain ⟨_, found, none⟩ := List.mem_map.mp mem
        exact names_of_mem_inside found none
      · exact apart other
    · exact List.Pairwise.map _ (fun _ _ differ same => differ (List.cons.inj same).2)
        (nodup_inside first)
    · rintro _ inner _ other rfl
      obtain ⟨_, _, rfl⟩ := List.mem_map.mp inner
      exact apart other

end

mutual

theorem contents_eq (path : Path) (t : Tree) : t.contents path =
    t.inside.map fun found => (path.under found.1, found.1.getLast?.getD "", found.2) :=
  match t with
  | file _ => rfl
  | folder entries => entriesBelow_eq path entries

theorem entriesBelow_eq (path : Path) (entries : List (String × Tree)) :
    entriesBelow path entries = (insideAll entries).map fun found =>
      (path.under found.1, found.1.getLast?.getD "", found.2) :=
  match entries with
  | [] => rfl
  | (name, t) :: rest => by
    have inner : (t.contents (path.entry name)) =
        (t.inside.map (fun found => (name :: found.1, found.2))).map fun found =>
          (path.under found.1, found.1.getLast?.getD "", found.2) := by
      rw [contents_eq, List.map_map]
      refine List.map_congr_left fun found mem => ?_
      obtain ⟨first, more, names⟩ := List.exists_cons_of_ne_nil (names_of_mem_inside mem)
      simp [names, Path.under, List.getLast?_cons]
    rw [entriesBelow, insideAll, List.map_cons, List.map_append, inner, entriesBelow_eq]
    rfl

end

end Tree

end ImageSearch
