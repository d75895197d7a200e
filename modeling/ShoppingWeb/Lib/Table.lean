import Mathlib.Algebra.BigOperators.Group.List.Basic
import Mathlib.Data.List.Nodup
import Mathlib.Data.Int.Order.Basic
import Mathlib.Tactic.Ring

/-!
# Database tables with generated keys

A table is a list of rows with pairwise different primary keys, all of them
below the next key the database will generate.  Rolling a table back restores
its rows but not its key generator.  Sums over the rows follow every
operation, which is what conservation arguments need.
-/

namespace ShoppingWeb

/-- A row type with a generated primary key. -/
class Keyed (Row : Type) where
  key : Row → ℤ
  withKey : ℤ → Row → Row
  key_withKey : ∀ value row, key (withKey value row) = value

@[ext]
structure Table (Row : Type) [Keyed Row] where
  rows : List Row
  nextKey : ℤ
  keys_nodup : (rows.map Keyed.key).Nodup
  key_lt : ∀ row ∈ rows, Keyed.key row < nextKey

namespace Table

open Keyed

variable {Row : Type} [Keyed Row]

def empty : Table Row where
  rows := []
  nextKey := 1
  keys_nodup := List.nodup_nil
  key_lt := fun _ hrow => absurd hrow List.not_mem_nil

def find? (table : Table Row) (value : ℤ) : Option Row :=
  table.rows.find? fun row => key row == value

/-- Store a new row under the next generated key. -/
def insert (table : Table Row) (row : Row) : Table Row where
  rows := table.rows ++ [withKey table.nextKey row]
  nextKey := table.nextKey + 1
  keys_nodup := by
    rw [List.map_append, List.map_singleton, key_withKey]
    apply List.Nodup.append table.keys_nodup (List.nodup_singleton _)
    rw [List.disjoint_singleton]
    intro hmem
    obtain ⟨other, hother, hkey⟩ := List.mem_map.mp hmem
    have hlt := table.key_lt other hother
    omega
  key_lt := by
    intro other hother
    rcases List.mem_append.mp hother with hold | hnew
    · have hlt := table.key_lt other hold
      omega
    · rw [List.mem_singleton.mp hnew, key_withKey]
      omega

/-- Change the row under a key; `change` leaves the key alone. -/
def update (table : Table Row) (value : ℤ) (change : Row → Row)
    (hchange : ∀ row, key (change row) = key row) : Table Row where
  rows := table.rows.map fun row => if key row = value then change row else row
  nextKey := table.nextKey
  keys_nodup := by
    have hkeys : (table.rows.map fun row => if key row = value then change row else row).map key =
        table.rows.map key := by
      rw [List.map_map]
      apply List.map_congr_left
      intro row _
      simp only [Function.comp_apply]
      split
      · exact hchange row
      · rfl
    rw [hkeys]
    exact table.keys_nodup
  key_lt := by
    intro other hother
    obtain ⟨row, hrow, rfl⟩ := List.mem_map.mp hother
    split
    · rw [hchange]
      exact table.key_lt row hrow
    · exact table.key_lt row hrow

def deleteWhere (table : Table Row) (test : Row → Bool) : Table Row where
  rows := table.rows.filter fun row => !test row
  nextKey := table.nextKey
  keys_nodup := table.keys_nodup.sublist (List.filter_sublist.map key)
  key_lt := fun row hrow => table.key_lt row (List.mem_of_mem_filter hrow)

def delete (table : Table Row) (value : ℤ) : Table Row :=
  table.deleteWhere fun row => key row == value

/-- The rows of `before`; keys generated since then stay used. -/
def rollBack (before after : Table Row) : Table Row where
  rows := before.rows
  nextKey := max before.nextKey after.nextKey
  keys_nodup := before.keys_nodup
  key_lt := fun row hrow => lt_of_lt_of_le (before.key_lt row hrow) (le_max_left _ _)

section Rows

variable (table : Table Row)

@[simp]
theorem rows_insert (row : Row) :
    (table.insert row).rows = table.rows ++ [withKey table.nextKey row] := rfl

@[simp]
theorem rows_deleteWhere (test : Row → Bool) :
    (table.deleteWhere test).rows = table.rows.filter fun row => !test row := rfl

theorem mem_rows_update {value : ℤ} {change : Row → Row}
    {hchange : ∀ row, key (change row) = key row} {row : Row}
    (hrow : row ∈ (table.update value change hchange).rows) :
    (row ∈ table.rows ∧ key row ≠ value) ∨
      ∃ old ∈ table.rows, key old = value ∧ row = change old := by
  obtain ⟨old, hold, rfl⟩ := List.mem_map.mp hrow
  by_cases hkey : key old = value
  · exact Or.inr ⟨old, hold, hkey, if_pos hkey⟩
  · rw [if_neg hkey]
    exact Or.inl ⟨hold, hkey⟩

/-- A selection without the row under the key does not see its change. -/
theorem filter_rows_update {value : ℤ} {change : Row → Row}
    (hchange : ∀ row, key (change row) = key row) {test : Row → Bool}
    (hunseen : ∀ row ∈ table.rows, key row = value →
      test row = false ∧ test (change row) = false) :
    (table.update value change hchange).rows.filter test = table.rows.filter test := by
  simp only [update]
  generalize table.rows = rows at hunseen
  induction rows with
  | nil => rfl
  | cons row rows ih =>
      have hrest := ih fun other hother => hunseen other (List.mem_cons_of_mem _ hother)
      rw [List.map_cons, List.filter_cons, List.filter_cons, hrest]
      by_cases hkey : key row = value
      · obtain ⟨hold, hnew⟩ := hunseen row List.mem_cons_self hkey
        rw [if_pos hkey, hold, hnew]
        rfl
      · rw [if_neg hkey]

theorem row_unique {left right : Row} (hleft : left ∈ table.rows) (hright : right ∈ table.rows)
    (hkey : key left = key right) : left = right :=
  List.inj_on_of_nodup_map table.keys_nodup hleft hright hkey

theorem find?_eq_some_iff {value : ℤ} {row : Row} :
    table.find? value = some row ↔ row ∈ table.rows ∧ key row = value := by
  constructor
  · intro hfind
    exact ⟨List.mem_of_find?_eq_some hfind, by simpa using List.find?_some hfind⟩
  · rintro ⟨hrow, hkey⟩
    cases hfind : table.find? value with
    | none =>
        have hmissing := List.find?_eq_none.mp hfind row hrow
        simp [hkey] at hmissing
    | some other =>
        have hother : key other = value := by simpa using List.find?_some hfind
        rw [table.row_unique (List.mem_of_find?_eq_some hfind) hrow (hother.trans hkey.symm)]

end Rows

def total (table : Table Row) (weight : Row → ℤ) : ℤ :=
  (table.rows.map weight).sum

section Totals

variable (table : Table Row) (weight : Row → ℤ)

@[simp]
theorem total_insert (row : Row) :
    (table.insert row).total weight =
      table.total weight + weight (withKey table.nextKey row) := by
  simp [total]

theorem total_deleteWhere (test : Row → Bool) :
    (table.deleteWhere test).total weight =
      table.total weight - table.total fun row => if test row then weight row else 0 := by
  simp only [total, rows_deleteWhere]
  induction table.rows with
  | nil => rfl
  | cons row rows ih =>
      cases htest : test row with
      | true => simp [htest, ih]
      | false =>
          simp only [List.filter_cons, htest, Bool.not_false, if_true, List.map_cons,
            List.sum_cons, ih, Bool.false_eq_true, if_false]
          ring

/-- Only one row has a given key. -/
theorem total_at_key {value : ℤ} {row : Row} (hfind : table.find? value = some row) :
    (table.total fun other => if key other = value then weight other else 0) = weight row := by
  obtain ⟨hrow, hkey⟩ := table.find?_eq_some_iff.mp hfind
  have hnodup := table.keys_nodup
  simp only [total]
  revert hnodup hrow
  induction table.rows with
  | nil => intro hrow; exact absurd hrow List.not_mem_nil
  | cons other rows ih =>
      intro hrow hnodup
      rw [List.map_cons, List.nodup_cons] at hnodup
      rw [List.map_cons, List.sum_cons]
      rcases List.mem_cons.mp hrow with rfl | hmem
      · have hrest : (rows.map fun other => if key other = value then weight other else 0) =
            rows.map fun _ => 0 := by
          refine List.map_congr_left fun other hother => if_neg fun heq => hnodup.1 ?_
          exact List.mem_map.mpr ⟨other, hother, heq.trans hkey.symm⟩
        simp [hrest, hkey]
      · have hne : key other ≠ value := fun heq =>
          hnodup.1 (List.mem_map.mpr ⟨row, hmem, hkey.trans heq.symm⟩)
        rw [if_neg hne, zero_add]
        exact ih hmem hnodup.2

theorem total_update {value : ℤ} {row : Row} (hfind : table.find? value = some row)
    (change : Row → Row) (hchange : ∀ row, key (change row) = key row) :
    (table.update value change hchange).total weight =
      table.total weight - weight row + weight (change row) := by
  have hold := table.total_at_key weight hfind
  have hnew := table.total_at_key (fun other => weight (change other)) hfind
  have hsplit : (table.update value change hchange).total weight = table.total weight -
      (table.total fun other => if key other = value then weight other else 0) +
      table.total fun other => if key other = value then weight (change other) else 0 := by
    simp only [total, update, List.map_map]
    induction table.rows with
    | nil => rfl
    | cons other rows ih =>
        simp only [List.map_cons, List.sum_cons, ih, Function.comp_apply]
        split_ifs <;> ring
  rw [hsplit, hold, hnew]

theorem total_delete {value : ℤ} {row : Row} (hfind : table.find? value = some row) :
    (table.delete value).total weight = table.total weight - weight row := by
  rw [delete, total_deleteWhere]
  simp only [beq_iff_eq, table.total_at_key weight hfind]

end Totals

end Table

end ShoppingWeb
