import ImageSearch.Path

set_option autoImplicit false

namespace ImageSearch.Path

namespace Component

def label : Component → String
  | .name text => String.ofList text
  | .root | .current | .parent => ""

theorem le_iff {a b : Component} :
    a.le b = true ↔ a.rank < b.rank ∨ a.rank = b.rank ∧ a.label ≤ b.label := by
  cases a <;> cases b <;> simp [le, rank, label]

theorem eq_of_label {a b : Component} (kind : a.rank = b.rank) (text : a.label = b.label) :
    a = b := by
  cases a with
  | name s =>
      cases b with
      | name t => exact congrArg name (String.ofList_injective text)
      | root | current | parent => cases kind
  | root | current | parent => cases b <;> first | rfl | cases kind

theorem le_total (a b : Component) : a.le b = true ∨ b.le a = true := by
  rw [le_iff, le_iff]
  rcases Nat.lt_trichotomy a.rank b.rank with less | same | greater
  · exact .inl (.inl less)
  · rcases String.le_total a.label b.label with before | after
    · exact .inl (.inr ⟨same, before⟩)
    · exact .inr (.inr ⟨same.symm, after⟩)
  · exact .inr (.inl greater)

theorem le_trans {a b c : Component} (ab : a.le b = true) (bc : b.le c = true) :
    a.le c = true := by
  rw [le_iff] at ab bc ⊢
  rcases ab with less | ⟨same, before⟩
  · exact .inl (by omega)
  · rcases bc with less | ⟨same', before'⟩
    · exact .inl (by omega)
    · exact .inr ⟨same.trans same', String.le_trans before before'⟩

theorem le_antisymm {a b : Component} (ab : a.le b = true) (ba : b.le a = true) : a = b := by
  rw [le_iff] at ab ba
  have kind : a.rank = b.rank := by omega
  refine eq_of_label kind (String.le_antisymm ?_ ?_)
  · exact (ab.resolve_left (by omega)).2
  · exact (ba.resolve_left (by omega)).2

end Component

theorem componentsLe_cons {a b : Component} {as bs : List Component} :
    componentsLe (a :: as) (b :: bs) = true ↔
      a = b ∧ componentsLe as bs = true ∨ a ≠ b ∧ a.le b = true := by
  rw [componentsLe]
  split
  · rename_i same
    simp [same]
  · rename_i apart
    simp [apart]

theorem componentsLe_total (as bs : List Component) :
    componentsLe as bs = true ∨ componentsLe bs as = true := by
  induction as generalizing bs with
  | nil => exact .inl rfl
  | cons a as ih =>
      cases bs with
      | nil => exact .inr rfl
      | cons b bs =>
          rw [componentsLe_cons, componentsLe_cons]
          by_cases same : a = b
          · subst same
            exact (ih bs).imp (fun le => .inl ⟨rfl, le⟩) fun le => .inl ⟨rfl, le⟩
          · exact (a.le_total b).imp (fun le => .inr ⟨same, le⟩) fun le => .inr ⟨Ne.symm same, le⟩

theorem componentsLe_trans {as bs cs : List Component} (ab : componentsLe as bs = true)
    (bc : componentsLe bs cs = true) : componentsLe as cs = true := by
  induction as generalizing bs cs with
  | nil => rfl
  | cons a as ih =>
      cases bs with
      | nil => cases ab
      | cons b bs =>
          cases cs with
          | nil => cases bc
          | cons c cs =>
              rw [componentsLe_cons] at ab bc ⊢
              rcases ab with ⟨rfl, ab⟩ | ⟨apart, ab⟩
              · exact bc.imp (fun ⟨same, bc⟩ => ⟨same, ih ab bc⟩) id
              · rcases bc with ⟨rfl, _⟩ | ⟨apart', bc⟩
                · exact .inr ⟨apart, ab⟩
                · -- were the outer two equal, the middle one would be the same
                  refine .inr ⟨?_, Component.le_trans ab bc⟩
                  rintro rfl
                  exact apart (Component.le_antisymm ab bc)

theorem pairwise_mergeSort (paths : List Path) :
    (paths.mergeSort le).Pairwise fun p q => p.le q = true := by
  have trans (p q r : Path) (pq : p.le q = true) (qr : q.le r = true) : p.le r = true :=
    componentsLe_trans pq qr
  have total (p q : Path) : (p.le q || q.le p) = true :=
    Bool.or_eq_true_iff.mpr (componentsLe_total p.components q.components)
  exact List.pairwise_mergeSort trans total paths

end ImageSearch.Path
