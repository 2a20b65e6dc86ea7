import ImageSearch.Log.Filter
import ImageSearch.Proofs.Text.LetterCase
import ImageSearch.Proofs.Text.Trimming

set_option autoImplicit false

namespace ImageSearch

open Text

/-- The name of a level in any letter case, with white space around it. -/
def IsPaddedName (level : String) : Prop :=
  trim level.toList ≠ level.toList ∧
    String.ofList ((trim level.toList).map Char.toLower) ∈ levelNames

instance (level : String) : Decidable (IsPaddedName level) := instDecidableAnd

section Levels

variable {cs : List Char}

theorem equals_mem_map_toLower (cs : List Char) : '=' ∈ cs.map Char.toLower ↔ '=' ∈ cs := by
  have same (c : Char) : (c.toLower == '=') = (c == '=') :=
    toLower_same (f := (· == '=')) (by decide) c
  rw [List.mem_map]
  constructor
  · rintro ⟨c, among, folded⟩
    have sign : (c == '=') = true := by rw [← same c, folded]; rfl
    exact beq_iff_eq.mp sign ▸ among
  · exact fun among => ⟨'=', among, rfl⟩

theorem solid_of_levelName {name : String} (named : name ∈ levelNames) :
    ∀ c ∈ name.toList, isBlank c = false := by
  have plain : (levelNames.all fun name => name.toList.all (!isBlank ·)) = true := by decide
  intro c among
  have solid := List.all_eq_true.mp (List.all_eq_true.mp plain name named) c among
  rwa [Bool.not_eq_true'] at solid

/-- A level's name has no white space around it, in whatever letter case it is. -/
theorem trim_of_levelName (named : String.ofList (cs.map Char.toLower) ∈ levelNames) :
    trim cs = cs := by
  apply trim_of_solid
  intro c among
  rw [← isBlank_toLower]
  apply solid_of_levelName named
  rw [String.toList_ofList]
  exact List.mem_map_of_mem among

theorem isLevel_eq_false {level : String} : isLevel level = false ↔
    '=' ∉ level.toList ∧ String.ofList (level.toList.map Char.toLower) ∉ levelNames := by
  rw [isLevel, Bool.or_eq_false_iff, List.contains_eq_mem, List.contains_eq_mem,
    decide_eq_false_iff_not, decide_eq_false_iff_not, equals_mem_map_toLower]

end Levels

/-- Only an unknown level is remarked on at the place of the level. -/
theorem Doubt.place_remark {d : Doubt} :
    d.remark.place = "log.level" ↔ ∃ level, d = .unknownLevel level := by
  cases d with
  | noTimeout => simp [remark]
  | leadingDot index =>
      have first : (indexed "scan.extensions" index).toList.head? = some 's' := by
        simp [indexed, ToString.toString]
      have apart : indexed "scan.extensions" index ≠ "log.level" := by
        intro same
        rw [same] at first
        cases first
      simp [remark, apart]
  | unknownLevel level => simp [remark]

theorem Configuration.unknownLevel_remarked (c : Configuration) :
    (Doubt.unknownLevel c.log.level).remark ∈ c.doubts.map Doubt.remark ↔
      isLevel c.log.level = false := by
  constructor
  · intro remarked
    obtain ⟨d, among, same⟩ := List.mem_map.mp remarked
    obtain ⟨level, rfl⟩ := Doubt.place_remark.mp (same ▸ rfl : d.remark.place = "log.level")
    by_contra known
    simp [doubts, onlyIf, known] at among
  · intro unknown
    apply List.mem_map_of_mem
    rw [doubts, onlyIf, onlyIf, unknown]
    exact List.mem_append_right _ List.mem_cons_self

namespace Log.Filter

variable {read : List Char → Option Filter} {level : String}

/-- A level is not read if it is no level's name, white space around it apart, and no list of rules
either. -/
theorem ofLevel?_eq_none (bare : ∀ name ∈ levelNames, (read name.toList).isSome) :
    ofLevel? read level = none ↔
      String.ofList ((trim level.toList).map Char.toLower) ∉ levelNames ∧
        ('=' ∈ level.toList → read ((trim level.toList).map Char.toLower) = none) := by
  have sign : '=' ∈ (trim level.toList).map Char.toLower ↔ '=' ∈ level.toList := by
    rw [equals_mem_map_toLower, mem_trim (by decide)]
  rw [ofLevel?, List.contains_eq_mem, List.contains_eq_mem]
  by_cases named : String.ofList ((trim level.toList).map Char.toLower) ∈ levelNames
  · have some := bare _ named
    rw [String.toList_ofList] at some
    simp [named, Option.isSome_iff_ne_none.mp some]
  · simp [named, sign]

/-- The check of a level and the filter for it, where `read` is any reader of rules that takes the
bare levels and the environment has no filter of its own. No filter is given exactly if the level
is neither a name nor a list of rules; and unless it is a name with white space around it, it is
remarked on as unknown exactly if no filter is given and there is no equals sign in it. -/
theorem unknown_iff_not_given (bare : ∀ name ∈ levelNames, (read name.toList).isSome)
    {env : Environment} (unset : env.get? "RUST_LOG" = none) (c : Configuration) :
    (given? read env c.log.level = none ↔
        String.ofList ((trim c.log.level.toList).map Char.toLower) ∉ levelNames ∧
          ('=' ∈ c.log.level.toList →
            read ((trim c.log.level.toList).map Char.toLower) = none)) ∧
      (¬ IsPaddedName c.log.level →
        ((Doubt.unknownLevel c.log.level).remark ∈ c.doubts.map Doubt.remark ↔
          given? read env c.log.level = none ∧ '=' ∉ c.log.level.toList)) := by
  have given : given? read env c.log.level = ofLevel? read c.log.level := by
    rw [given?, unset, Option.bind_none, Option.none_or]
  rw [given, ofLevel?_eq_none bare]
  refine ⟨Iff.rfl, fun unpadded => ?_⟩
  rw [c.unknownLevel_remarked, isLevel_eq_false, and_comm]
  refine and_congr_left fun plain => ?_
  rw [and_iff_left fun sign => absurd sign plain]
  by_cases same : trim c.log.level.toList = c.log.level.toList
  · rw [same]
  · exact iff_of_true (fun named => same (trim_of_levelName named))
      fun named => unpadded ⟨same, named⟩

/-- Two names with a comma are no name: the text is remarked on, and no filter is given. -/
theorem unknown_iff_not_given_loud :
    let c := { Configuration.default none with log := ⟨"debug,Warn", none⟩ }
    let env : Environment := [("HOME", "/home/ada")]
    (Doubt.unknownLevel "debug,Warn").remark ∈ c.doubts.map Doubt.remark ∧
      given? ofText? env "debug,Warn" = none := by
  intro c env
  have bare : ∀ name ∈ levelNames, (ofText? name.toList).isSome := by decide +kernel
  have unset : env.get? "RUST_LOG" = none := by decide +kernel
  have agreed := (unknown_iff_not_given bare unset c).2 (by decide +kernel)
  have remarked : (Doubt.unknownLevel "debug,Warn").remark ∈ c.doubts.map Doubt.remark := by
    decide +kernel
  exact ⟨remarked, (agreed.mp remarked).1⟩

/-- A list of rules with an unknown level is not remarked on, and no filter is given. -/
theorem unread_rules_unremarked :
    let c := { Configuration.default none with log := ⟨"a=loud", none⟩ }
    c.problems = [] ∧ ¬ ((Doubt.unknownLevel c.log.level).remark ∈ c.doubts.map Doubt.remark ↔
      given? ofText? [] c.log.level = none) := by
  decide +kernel

end Log.Filter

end ImageSearch
