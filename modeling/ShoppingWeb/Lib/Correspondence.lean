import Mathlib.Data.List.Forall2

/-!
# Lists that correspond item by item

`List.Forall₂` relates the items of two lists position by position.  The rules
below carry a correspondence through numbering and filtering.
-/

namespace ShoppingWeb.Correspondence

variable {Left Right Value : Type*} {related : Left → Right → Prop}

/-- Every item has a counterpart. -/
theorem exists_counterpart {first : List Left} {second : List Right}
    (hpairs : List.Forall₂ related first second) {right : Right} (hright : right ∈ second) :
    ∃ left ∈ first, related left right := by
  induction hpairs with
  | nil => cases hright
  | cons hhead _ ih =>
      rcases List.mem_cons.mp hright with rfl | htail
      · exact ⟨_, List.mem_cons_self, hhead⟩
      · obtain ⟨left, hleft, hrelated⟩ := ih htail
        exact ⟨left, List.mem_cons_of_mem _ hleft, hrelated⟩

/-- Counterparts stand at the same position. -/
theorem forall₂_zipIdx {first : List Left} {second : List Right}
    (hpairs : List.Forall₂ related first second) (start : ℕ) :
    List.Forall₂ (fun left right => related left.1 right.1 ∧ left.2 = right.2)
      (first.zipIdx start) (second.zipIdx start) := by
  induction hpairs generalizing start with
  | nil => exact .nil
  | cons hhead _ ih => exact .cons ⟨hhead, rfl⟩ (ih (start + 1))

/-- So do the counterparts of numbered items. -/
theorem forall₂_zipIdx_right {related : Left × ℕ → Right → Prop} {first : List Left}
    {second : List Right} {start : ℕ} (hpairs : List.Forall₂ related (first.zipIdx start) second) :
    List.Forall₂ (fun left right => related left right.1 ∧ left.2 = right.2)
      (first.zipIdx start) (second.zipIdx start) := by
  induction first generalizing start second with
  | nil =>
      cases hpairs
      exact .nil
  | cons left first ih =>
      cases hpairs with
      | cons hhead hrest => exact .cons ⟨hhead, rfl⟩ (ih hrest)

theorem map_eq_map_of_forall₂ {first : List Left} {second : List Right} {value : Left → Value}
    {otherValue : Right → Value}
    (hpairs : List.Forall₂ (fun left right => value left = otherValue right) first second) :
    first.map value = second.map otherValue := by
  rw [← List.forall₂_eq_eq_eq, List.forall₂_map_left_iff, List.forall₂_map_right_iff]
  exact hpairs

theorem countP_eq_countP_of_forall₂ {first : List Left} {second : List Right} {keep : Left → Bool}
    {keepOther : Right → Bool}
    (hpairs : List.Forall₂ (fun left right => keep left = keepOther right) first second) :
    first.countP keep = second.countP keepOther := by
  have hflags := congrArg (List.countP id) (map_eq_map_of_forall₂ hpairs)
  rwa [List.countP_map, List.countP_map] at hflags

/-- Filters that keep the same counterparts leave equal values. -/
theorem filter_map_eq_of_forall₂ {first : List Left} {second : List Right} {keep : Left → Bool}
    {keepOther : Right → Bool} {value : Left → Value} {otherValue : Right → Value}
    (hpairs : List.Forall₂ (fun left right => keep left = keepOther right ∧
      value left = otherValue right) first second) :
    (first.filter keep).map value = (second.filter keepOther).map otherValue := by
  induction hpairs with
  | nil => rfl
  | @cons left right _ _ hhead _ ih =>
      obtain ⟨hkeep, hvalue⟩ := hhead
      cases hright : keepOther right with
      | false => rw [List.filter_cons_of_neg (by simp [hkeep, hright]),
          List.filter_cons_of_neg (by simp [hright]), ih]
      | true => rw [List.filter_cons_of_pos (by simp [hkeep, hright]),
          List.filter_cons_of_pos hright, List.map_cons, List.map_cons, ih, hvalue]

end ShoppingWeb.Correspondence
