import Mathlib.Data.List.Basic
import Mathlib.Order.MinMax

/-!
# Pages of a list

Pages are numbered from 1.
-/

namespace ShoppingWeb.Paging

variable {Item : Type*}

/-- `slice((number - 1) * size, number * size)` -/
def pageAt (size number : ℕ) (items : List Item) : List Item :=
  (items.take (number * size)).drop ((number - 1) * size)

/-- `ceil(items.length / size)` -/
def pageCount (size : ℕ) (items : List Item) : ℕ :=
  (items.length + (size - 1)) / size

variable {size number : ℕ}

theorem pageAt_ne_nil (hsize : 0 < size) (hnumber : 1 ≤ number) (items : List Item) :
    pageAt size number items ≠ [] ↔ (number - 1) * size < items.length := by
  obtain ⟨before, rfl⟩ := Nat.exists_eq_add_of_le' hnumber
  rw [pageAt, Ne, List.drop_eq_nil_iff, List.length_take, not_le, lt_min_iff,
    Nat.add_sub_cancel, Nat.add_one_mul]
  constructor
  · exact And.right
  · intro hbefore
    exact ⟨by omega, hbefore⟩

theorem le_pageCount (hsize : 0 < size) (hnumber : 1 ≤ number) (items : List Item) :
    number ≤ pageCount size items ↔ (number - 1) * size < items.length := by
  obtain ⟨before, rfl⟩ := Nat.exists_eq_add_of_le' hnumber
  rw [pageCount, Nat.le_div_iff_mul_le hsize, Nat.add_sub_cancel, Nat.add_one_mul]
  omega

theorem one_le_pageCount (hsize : 0 < size) {items : List Item} (hitems : items ≠ []) :
    1 ≤ pageCount size items := by
  rw [le_pageCount hsize le_rfl]
  simpa using List.length_pos_of_ne_nil hitems

end ShoppingWeb.Paging
