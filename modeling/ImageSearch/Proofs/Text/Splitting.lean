import ImageSearch.Text.Split

set_option autoImplicit false

namespace ImageSearch.Text

theorem splitOnChar_eq_splitOnP (isSep : Char → Bool) (cs : List Char) :
    splitOnChar isSep cs = cs.splitOnP isSep := by
  induction cs with
  | nil => rfl
  | cons c rest ih =>
      rw [splitOnChar, List.splitOnP_cons_eq_if_modifyHead, ih]
      split
      · rfl
      · cases cut : rest.splitOnP isSep with
        | nil => exact absurd cut (List.splitOnP_ne_nil isSep rest)
        | cons piece pieces => rfl

/-- No piece holds a separator. -/
theorem mem_splitOnChar {isSep : Char → Bool} {cs piece : List Char}
    (mem : piece ∈ splitOnChar isSep cs) : ∀ c ∈ piece, c ∈ cs ∧ isSep c = false := by
  induction cs generalizing piece with
  | nil =>
      rw [List.mem_singleton.mp mem]
      exact fun _ missing => absurd missing List.not_mem_nil
  | cons d rest ih =>
      have later {q : List Char} (among : q ∈ splitOnChar isSep rest) (c : Char) (inside : c ∈ q) :
          c ∈ d :: rest ∧ isSep c = false :=
        ⟨List.mem_cons_of_mem d (ih among c inside).1, (ih among c inside).2⟩
      rw [splitOnChar] at mem
      split at mem
      · rcases List.mem_cons.mp mem with rfl | among
        · exact fun _ missing => absurd missing List.not_mem_nil
        · exact later among
      · rename_i solid
        have first : d ∈ d :: rest ∧ isSep d = false :=
          ⟨List.mem_cons_self, Bool.eq_false_iff.mpr solid⟩
        split at mem
        · rw [List.mem_singleton.mp mem]
          intro c inside
          rw [List.mem_singleton.mp inside]
          exact first
        · rename_i head tail pieces
          rcases List.mem_cons.mp mem with rfl | among
          · intro c inside
            rcases List.mem_cons.mp inside with rfl | inside
            · exact first
            · exact later (pieces ▸ List.mem_cons_self) c inside
          · exact later (pieces ▸ List.mem_cons_of_mem head among)

/-- What is no separator is in a piece. -/
theorem exists_mem_splitOnChar {isSep : Char → Bool} {cs : List Char} {c : Char} (mem : c ∈ cs)
    (solid : isSep c = false) : ∃ piece ∈ splitOnChar isSep cs, c ∈ piece := by
  induction cs with
  | nil => cases mem
  | cons d rest ih =>
      rw [splitOnChar]
      split
      · rename_i separator
        rcases List.mem_cons.mp mem with rfl | later
        · rw [solid] at separator
          cases separator
        · obtain ⟨piece, among, inside⟩ := ih later
          exact ⟨piece, List.mem_cons_of_mem _ among, inside⟩
      · split
        · rename_i none
          exact absurd none (splitOnChar_ne_nil isSep rest)
        · rename_i head tail pieces
          rcases List.mem_cons.mp mem with rfl | later
          · exact ⟨c :: head, List.mem_cons_self, List.mem_cons_self⟩
          · obtain ⟨piece, among, inside⟩ := ih later
            rw [pieces] at among
            rcases List.mem_cons.mp among with rfl | among
            · exact ⟨d :: piece, List.mem_cons_self, List.mem_cons_of_mem d inside⟩
            · exact ⟨piece, List.mem_cons_of_mem _ among, inside⟩

theorem none_or_cut (kind : Char → Bool) (cs : List Char) : (∀ c ∈ cs, kind c = false) ∨
    ∃ before c after, cs = before ++ c :: after ∧ (∀ b ∈ before, kind b = false) ∧
      kind c = true := by
  cases first : cs.find? kind with
  | none =>
      rw [List.find?_eq_none] at first
      exact .inl fun c among => Bool.eq_false_iff.mpr (first c among)
  | some c =>
      obtain ⟨found, before, after, parts, others⟩ := List.find?_eq_some_iff_append.mp first
      exact .inr ⟨before, c, after, parts, by simpa using others, found⟩

theorem splitBlank_of_solid {cs : List Char} (solid : ∀ c ∈ cs, isBlank c = false) :
    splitBlank cs = [cs].filter (!·.isEmpty) := by
  rw [splitBlank, splitOnChar_eq_splitOnP, List.splitOnP_eq_singleton solid]

theorem splitBlank_append_cons {c : Char} (blank : isBlank c = true) (cs rest : List Char) :
    splitBlank (cs ++ c :: rest) = splitBlank cs ++ splitBlank rest := by
  simp only [splitBlank, splitOnChar_eq_splitOnP, List.splitOnP_append_cons cs rest blank,
    List.filter_append]

theorem splitBlank_cons {c : Char} (blank : isBlank c = true) (rest : List Char) :
    splitBlank (c :: rest) = splitBlank rest := by
  have first := splitBlank_append_cons blank [] rest
  rw [List.nil_append] at first
  exact first

/-- White space in front of a text is in no run of it. -/
theorem splitBlank_append_of_blank {gap : List Char} (blank : ∀ c ∈ gap, isBlank c = true)
    (rest : List Char) : splitBlank (gap ++ rest) = splitBlank rest := by
  induction gap with
  | nil => rfl
  | cons c gap ih =>
      rw [List.cons_append, splitBlank_cons (blank c List.mem_cons_self)]
      exact ih fun d among => blank d (List.mem_cons_of_mem c among)

theorem splitBlank_of_blank {cs : List Char} (blank : ∀ c ∈ cs, isBlank c = true) :
    splitBlank cs = [] := by
  have nothing := splitBlank_append_of_blank blank []
  rwa [List.append_nil] at nothing

theorem mem_splitBlank {cs piece : List Char} (mem : piece ∈ splitBlank cs) :
    ∀ c ∈ piece, c ∈ cs ∧ isBlank c = false := by
  rw [splitBlank, List.mem_filter] at mem
  exact mem_splitOnChar mem.1

theorem exists_solid_of_mem_splitBlank {cs piece : List Char} (mem : piece ∈ splitBlank cs) :
    ∃ c ∈ cs, isBlank c = false := by
  cases piece with
  | nil => exact absurd rfl (ne_nil_of_mem_splitBlank mem)
  | cons c rest => exact ⟨c, mem_splitBlank mem c List.mem_cons_self⟩

/-- What keeps white space where it is changes a text run by run. -/
theorem splitBlank_map {f : List Char → List Char} (nil : f [] = [])
    (solid : ∀ cs, (∀ c ∈ cs, isBlank c = false) → ∀ c ∈ f cs, isBlank c = false)
    (cut : ∀ before c after, isBlank c = true → f (before ++ c :: after) = f before ++ c :: f after)
    (cs : List Char) : splitBlank (f cs) = ((splitBlank cs).map f).filter (!·.isEmpty) := by
  have single {cs : List Char} (plain : ∀ c ∈ cs, isBlank c = false) :
      splitBlank (f cs) = ((splitBlank cs).map f).filter (!·.isEmpty) := by
    rw [splitBlank_of_solid plain, splitBlank_of_solid (solid cs plain)]
    cases cs with
    | nil => rw [nil]; rfl
    | cons c cs => rfl
  -- The induction is on the length: what is left after the first white space is shorter.
  induction size : cs.length using Nat.strongRecOn generalizing cs with
  | ind n ih =>
      rcases none_or_cut isBlank cs with plain | ⟨before, c, after, rfl, plain, blank⟩
      · exact single plain
      · have shorter : after.length < n := by
          rw [← size, List.length_append, List.length_cons]
          omega
        rw [cut before c after blank, splitBlank_append_cons blank, splitBlank_append_cons blank,
          single plain, ih _ shorter after rfl, List.map_append, List.filter_append]

theorem intercalate_cons_cons (text next : List Char) (rest : List (List Char)) :
    [' '].intercalate (text :: next :: rest) = text ++ ' ' :: [' '].intercalate (next :: rest) := by
  rw [List.intercalate_cons_cons, List.append_assoc]
  rfl

/-- What can be done before and after a space by itself can be done text by text. -/
theorem map_intercalate {f : List Char → List Char} (nil : f [] = [])
    (cut : ∀ before after, f (before ++ ' ' :: after) = f before ++ ' ' :: f after)
    (texts : List (List Char)) : f ([' '].intercalate texts) = [' '].intercalate (texts.map f) := by
  induction texts with
  | nil => exact nil
  | cons text rest ih =>
      cases rest with
      | nil => rw [List.map_singleton, List.intercalate_singleton, List.intercalate_singleton]
      | cons next rest =>
          rw [intercalate_cons_cons, cut, ih]
          simp only [List.map_cons, intercalate_cons_cons]

theorem splitBlank_intercalate (texts : List (List Char)) :
    splitBlank ([' '].intercalate texts) = texts.flatMap splitBlank := by
  induction texts with
  | nil => rfl
  | cons text rest ih =>
      cases rest with
      | nil => rw [List.intercalate_singleton, List.flatMap_singleton]
      | cons next rest =>
          rw [intercalate_cons_cons, splitBlank_append_cons (by decide), ih]
          exact List.flatMap_cons.symm

theorem isBlankText_intercalate (texts : List (List Char)) :
    isBlankText ([' '].intercalate texts) = true ↔ ∀ text ∈ texts, isBlankText text = true := by
  induction texts with
  | nil => simp [isBlankText]
  | cons text rest ih =>
      cases rest with
      | nil => rw [List.intercalate_singleton, List.forall_mem_singleton]
      | cons next rest =>
          have space : isBlank ' ' = true := by decide
          rw [List.forall_mem_cons, ← ih, intercalate_cons_cons]
          simp only [isBlankText, List.all_append, List.all_cons, space, Bool.true_and,
            Bool.and_eq_true]

end ImageSearch.Text
