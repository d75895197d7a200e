import Mathlib.Data.List.Nodup
import Mathlib.Data.List.Perm.Basic

/-!
# Records under assigned keys

A table whose keys are given by the application: saving a record replaces the
one with its key, or adds it.  A selection that only one record meets is that
record alone.
-/

namespace ShoppingWeb

structure Records {Row Key : Type} (key : Row → Key) where
  rows : List Row
  keys_nodup : (rows.map key).Nodup

namespace Records

variable {Row Key : Type} {key : Row → Key}

def empty : Records key := ⟨[], List.nodup_nil⟩

theorem eq_of_key_eq {records : Records key} {left right : Row} (hleft : left ∈ records.rows)
    (hright : right ∈ records.rows) (hkey : key left = key right) : left = right :=
  List.inj_on_of_nodup_map records.keys_nodup hleft hright hkey

section Merge

variable [DecidableEq Key]

/-- Replace the row with the same key, or append. -/
def merge (key : Row → Key) (row : Row) : List Row → List Row
  | [] => [row]
  | other :: rest => if key other = key row then row :: rest else other :: merge key row rest

/-- A merge keeps the keys, or adds a new one at the end. -/
theorem map_merge (row : Row) (rows : List Row) :
    (merge key row rows).map key =
      if key row ∈ rows.map key then rows.map key else rows.map key ++ [key row] := by
  induction rows with
  | nil => rfl
  | cons other rest ih =>
      by_cases hkey : key other = key row
      · simp [merge, hkey]
      · have hkey' : ¬ key row = key other := fun heq => hkey heq.symm
        rw [merge, if_neg hkey, List.map_cons, ih, List.map_cons]
        by_cases hmem : key row ∈ rest.map key
        · rw [if_pos hmem, if_pos (List.mem_cons_of_mem _ hmem)]
        · have hnew : key row ∉ key other :: rest.map key := by simp [hkey', hmem]
          rw [if_neg hmem, if_neg hnew, List.cons_append]

theorem mem_merge {row other : Row} {rows : List Row} (hrows : (rows.map key).Nodup) :
    other ∈ merge key row rows ↔ other = row ∨ (other ∈ rows ∧ key other ≠ key row) := by
  induction rows with
  | nil => simp [merge]
  | cons first rest ih =>
      rw [List.map_cons, List.nodup_cons] at hrows
      by_cases hkey : key first = key row
      · have hrest : other ∈ rest → key other ≠ key row := by
          intro hmem heq
          exact hrows.1 (List.mem_map.mpr ⟨other, hmem, heq.trans hkey.symm⟩)
        rw [merge, if_pos hkey, List.mem_cons, List.mem_cons]
        grind
      · rw [merge, if_neg hkey, List.mem_cons, ih hrows.2, List.mem_cons]
        grind

def save (records : Records key) (row : Row) : Records key where
  rows := merge key row records.rows
  keys_nodup := by
    rw [map_merge]
    split
    · exact records.keys_nodup
    · rename_i hnew
      apply List.Nodup.append records.keys_nodup (List.nodup_singleton _)
      rwa [List.disjoint_singleton]

@[simp]
theorem mem_save {records : Records key} {row other : Row} :
    other ∈ (records.save row).rows ↔
      other = row ∨ (other ∈ records.rows ∧ key other ≠ key row) :=
  mem_merge records.keys_nodup

/-- `findById` -/
def findById (records : Records key) (value : Key) : Option Row :=
  records.rows.find? fun row => key row = value

theorem findById_eq_some_iff {records : Records key} {value : Key} {row : Row} :
    records.findById value = some row ↔ row ∈ records.rows ∧ key row = value := by
  constructor
  · intro hfind
    exact ⟨List.mem_of_find?_eq_some hfind, by simpa using List.find?_some hfind⟩
  · intro ⟨hrow, hkey⟩
    cases hfind : records.findById value with
    | none =>
        have hmissing := List.find?_eq_none.mp hfind row hrow
        simp [hkey] at hmissing
    | some other =>
        have hother : key other = value := by simpa using List.find?_some hfind
        exact congrArg some (eq_of_key_eq (List.mem_of_find?_eq_some hfind) hrow
          (hother.trans hkey.symm))

end Merge

/-- The selection of one record. -/
theorem filter_eq_singleton {records : Records key} {test : Row → Bool} {row : Row}
    (hrow : row ∈ records.rows) (htest : test row = true)
    (honly : ∀ other ∈ records.rows, test other = true → other = row) :
    records.rows.filter test = [row] := by
  have hnodup := (List.Nodup.of_map key records.keys_nodup).filter test
  apply List.perm_singleton.mp
  apply (List.perm_ext_iff_of_nodup hnodup (List.nodup_singleton row)).mpr
  intro other
  rw [List.mem_filter, List.mem_singleton]
  constructor
  · intro ⟨hother, hpasses⟩
    exact honly other hother hpasses
  · intro heq
    rw [heq]
    exact ⟨hrow, htest⟩

end Records

end ShoppingWeb
