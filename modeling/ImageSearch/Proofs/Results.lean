import ImageSearch.Failure

set_option autoImplicit false

namespace ImageSearch

variable {α β ε : Type}

theorem bind_eq_ok {result : Except ε α} {next : α → Except ε β} {b : β} :
    result >>= next = .ok b ↔ ∃ a, result = .ok a ∧ next a = .ok b := by
  cases result with
  | error e => simp [bind, Except.bind]
  | ok a => simp [bind, Except.bind]

theorem bind_eq_error {result : Except ε α} {next : α → Except ε β} {e : ε} :
    result >>= next = .error e ↔ result = .error e ∨ ∃ a, result = .ok a ∧ next a = .error e := by
  cases result with
  | error e => simp [bind, Except.bind]
  | ok a => simp [bind, Except.bind]

/-- Steps that end in an error: those before the one that fails have a result. -/
theorem foldlM_eq_error {f : β → α → Except ε β} {xs : List α} {b : β} {e : ε} :
    xs.foldlM f b = .error e ↔ ∃ before x after c, xs = before ++ x :: after ∧
      before.foldlM f b = .ok c ∧ f c x = .error e := by
  constructor
  · intro failed
    induction xs generalizing b with
    | nil => cases failed
    | cons x rest ih =>
        rw [List.foldlM_cons, bind_eq_error] at failed
        rcases failed with here | ⟨c, step, later⟩
        · exact ⟨[], x, rest, b, rfl, rfl, here⟩
        · obtain ⟨before, y, after, d, rfl, run, there⟩ := ih later
          refine ⟨x :: before, y, after, d, rfl, ?_, there⟩
          rw [List.foldlM_cons, step]
          exact run
  · rintro ⟨before, x, after, c, rfl, run, failed⟩
    rw [List.foldlM_append, run]
    show List.foldlM f c (x :: after) = _
    rw [List.foldlM_cons, failed]
    rfl

theorem inContext_eq_ok {result : Except ε α} {text : String} {cause : ε → Cause} {a : α} :
    inContext text cause result = .ok a ↔ result = .ok a := by
  cases result with
  | error e => simp [inContext]
  | ok b => simp [inContext]

/-- What is undone item by item is undone as a list. -/
theorem mapM_map_eq_ok {f : β → Except ε α} {g : α → β} {xs : List α}
    (undo : ∀ x ∈ xs, f (g x) = .ok x) : (xs.map g).mapM f = .ok xs := by
  induction xs with
  | nil => rfl
  | cons x rest ih =>
      rw [List.map_cons, List.mapM_cons, undo x List.mem_cons_self,
        ih fun y mem => undo y (List.mem_cons_of_mem x mem)]
      rfl

/-- Every value of a list comes from an item. -/
theorem exists_of_mem_mapM {f : α → Except ε β} {xs : List α} {ys : List β}
    (mapped : xs.mapM f = .ok ys) {y : β} (mem : y ∈ ys) : ∃ x ∈ xs, f x = .ok y := by
  induction xs generalizing ys with
  | nil =>
      cases mapped
      cases mem
  | cons x rest ih =>
      rw [List.mapM_cons] at mapped
      obtain ⟨z, made, later⟩ := bind_eq_ok.mp mapped
      obtain ⟨zs, others, whole⟩ := bind_eq_ok.mp later
      cases whole
      rcases List.mem_cons.mp mem with rfl | mem
      · exact ⟨x, List.mem_cons_self, made⟩
      · obtain ⟨x', among, made⟩ := ih others mem
        exact ⟨x', List.mem_cons_of_mem x among, made⟩

end ImageSearch
