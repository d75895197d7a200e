import Mathlib.Algebra.BigOperators.Group.Finset.Piecewise

/-!
# Lists of keyed amounts

A list of entries, each an amount for a key, stands for what it holds of every
key.  Adding goes to the first entry of the key, so it moves the amount of
that entry alone.  A total over all entries, each amount measured by its key,
depends on the amounts of the keys only.
-/

namespace ShoppingWeb.Quantities

variable {Key Amount : Type*} [DecidableEq Key]

/-- The sum of what the entries list for a key. -/
def amountOf [AddMonoid Amount] (entries : List (Key × Amount)) (key : Key) : Amount :=
  (entries.map fun entry => if entry.1 = key then entry.2 else 0).sum

/-- The amount of the first entry of a key. -/
def firstOf [Zero Amount] : List (Key × Amount) → Key → Amount
  | [], _ => 0
  | entry :: entries, key => if entry.1 = key then entry.2 else firstOf entries key

/-- Add to the first entry of the key, or append an entry. -/
def addTo [Add Amount] : List (Key × Amount) → Key → Amount → List (Key × Amount)
  | [], key, amount => [(key, amount)]
  | entry :: entries, key, amount =>
      if entry.1 = key then (entry.1, entry.2 + amount) :: entries
      else entry :: addTo entries key amount

theorem exists_addTo_iff [Add Amount] (entries : List (Key × Amount)) (key other : Key)
    (amount : Amount) :
    (∃ entry ∈ addTo entries key amount, entry.1 = other) ↔
      (∃ entry ∈ entries, entry.1 = other) ∨ key = other := by
  induction entries with
  | nil => simp [addTo]
  | cons entry entries ih =>
      rw [addTo]
      split_ifs with hkey
      · subst hkey
        simp only [List.exists_mem_cons_iff]
        grind
      · simp only [List.exists_mem_cons_iff, ih]
        grind

theorem firstOf_addTo [AddZeroClass Amount] (entries : List (Key × Amount)) (key other : Key)
    (amount : Amount) :
    firstOf (addTo entries key amount) other =
      firstOf entries other + if key = other then amount else 0 := by
  induction entries with
  | nil => simp [addTo, firstOf]
  | cons entry entries ih =>
      rw [addTo]
      split_ifs with hkey hother hother
      · subst hkey hother
        simp [firstOf]
      · subst hkey
        simp [firstOf, hother]
      · subst hother
        simpa [firstOf, hkey] using ih
      · simp only [firstOf, ih, hother, if_false, add_zero]

theorem amountOf_cons [AddMonoid Amount] (entry : Key × Amount) (entries : List (Key × Amount))
    (key : Key) :
    amountOf (entry :: entries) key =
      (if entry.1 = key then entry.2 else 0) + amountOf entries key := by
  simp [amountOf]

theorem amountOf_eq_zero [AddMonoid Amount] {entries : List (Key × Amount)} {key : Key}
    (habsent : key ∉ entries.map Prod.fst) : amountOf entries key = 0 := by
  induction entries with
  | nil => rfl
  | cons entry entries ih =>
      obtain ⟨hentry, hrest⟩ := not_or.mp (mt List.mem_cons.mpr habsent)
      rw [amountOf_cons, if_neg (Ne.symm hentry), ih hrest, add_zero]

/-- Whatever measures the amounts, an addition moves the sum as it moves the
first entry. -/
theorem amountOf_addTo {Measure : Type*} [AddZeroClass Amount] [AddCommGroup Measure]
    {measure : Amount → Measure} (hzero : measure 0 = 0) (entries : List (Key × Amount))
    (key other : Key) (amount : Amount) :
    amountOf ((addTo entries key amount).map (Prod.map id measure)) other -
        measure (firstOf (addTo entries key amount) other) =
      amountOf (entries.map (Prod.map id measure)) other - measure (firstOf entries other) := by
  induction entries with
  | nil =>
      by_cases hother : key = other
      · simp [addTo, amountOf, firstOf, hother, hzero]
      · simp [addTo, amountOf, firstOf, hother, hzero]
  | cons entry entries ih =>
      rw [addTo]
      split_ifs with hkey
      · by_cases hother : entry.1 = other
        · simp [amountOf_cons, firstOf, hother]
        · simp [amountOf_cons, firstOf, hother]
      · by_cases hother : entry.1 = other
        · -- The addition is for another key, so it does not touch the sum.
          have hne : key ≠ other := fun heq => hkey (hother.trans heq.symm)
          rw [firstOf_addTo, if_neg hne, add_zero] at ih
          simp [amountOf_cons, firstOf, hother, sub_left_injective ih]
        · simpa [amountOf_cons, firstOf, hother] using ih

/-- Add entry by entry. -/
def addAll [Add Amount] (entries added : List (Key × Amount)) : List (Key × Amount) :=
  added.foldl (fun entries entry => addTo entries entry.1 entry.2) entries

theorem exists_addAll_iff [Add Amount] (entries added : List (Key × Amount)) (key : Key) :
    (∃ entry ∈ addAll entries added, entry.1 = key) ↔
      (∃ entry ∈ entries, entry.1 = key) ∨ ∃ entry ∈ added, entry.1 = key := by
  induction added generalizing entries with
  | nil => simp [addAll]
  | cons first added ih =>
      rw [addAll, List.foldl_cons, ← addAll, ih, exists_addTo_iff, List.exists_mem_cons_iff,
        or_assoc]

theorem firstOf_addAll [AddCommMonoid Amount] (entries added : List (Key × Amount)) (key : Key) :
    firstOf (addAll entries added) key = firstOf entries key + amountOf added key := by
  induction added generalizing entries with
  | nil => simp [addAll, amountOf]
  | cons first added ih =>
      rw [addAll, List.foldl_cons, ← addAll, ih, firstOf_addTo, amountOf_cons, add_assoc]

theorem amountOf_addAll {Measure : Type*} [AddCommMonoid Amount] [AddCommGroup Measure]
    {measure : Amount → Measure} (hzero : measure 0 = 0) (entries added : List (Key × Amount))
    (key : Key) :
    amountOf ((addAll entries added).map (Prod.map id measure)) key =
      amountOf (entries.map (Prod.map id measure)) key - measure (firstOf entries key) +
        measure (firstOf entries key + amountOf added key) := by
  rw [← firstOf_addAll, ← sub_eq_iff_eq_add]
  induction added generalizing entries with
  | nil => rfl
  | cons first added ih =>
      rw [addAll, List.foldl_cons, ← addAll, ih, amountOf_addTo hzero]

/-- The sum of all amounts, each measured by its key. -/
def total {Measure : Type*} [AddMonoid Amount] [AddMonoid Measure]
    (measure : Key → Amount →+ Measure) (entries : List (Key × Amount)) : Measure :=
  (entries.map fun entry => measure entry.1 entry.2).sum

/-- A total, key by key. -/
theorem total_eq_sum {Measure : Type*} [AddCommMonoid Amount] [AddCommMonoid Measure]
    (measure : Key → Amount →+ Measure) (entries : List (Key × Amount)) (keys : Finset Key)
    (hkeys : ∀ entry ∈ entries, entry.1 ∈ keys) :
    total measure entries = ∑ key ∈ keys, measure key (amountOf entries key) := by
  induction entries with
  | nil => simp [total, amountOf]
  | cons entry entries ih =>
      obtain ⟨hentry, hrest⟩ := List.forall_mem_cons.mp hkeys
      have hone : ∑ key ∈ keys, measure key (if entry.1 = key then entry.2 else 0) =
          measure entry.1 entry.2 := by
        rw [Finset.sum_eq_single_of_mem entry.1 hentry]
        · rw [if_pos rfl]
        · intro key _ hne
          rw [if_neg hne.symm, map_zero]
      calc
        total measure (entry :: entries) = measure entry.1 entry.2 + total measure entries := by
          simp [total]
        _ = ∑ key ∈ keys, (measure key (if entry.1 = key then entry.2 else 0) +
            measure key (amountOf entries key)) := by
          rw [ih hrest, Finset.sum_add_distrib, hone]
        _ = ∑ key ∈ keys, measure key (amountOf (entry :: entries) key) := by
          apply Finset.sum_congr rfl
          intro key _
          rw [amountOf_cons, map_add]

/-- Lists with the same amount for every key have the same totals. -/
theorem total_eq_of_amountOf_eq {Measure : Type*} [AddCommMonoid Amount]
    [AddCommMonoid Measure] (measure : Key → Amount →+ Measure)
    {left right : List (Key × Amount)} (hsame : ∀ key, amountOf left key = amountOf right key) :
    total measure left = total measure right := by
  let keys := (left.map Prod.fst ++ right.map Prod.fst).toFinset
  calc
    total measure left = ∑ key ∈ keys, measure key (amountOf left key) := by
      apply total_eq_sum
      intro entry hentry
      exact List.mem_toFinset.mpr (List.mem_append_left _ (List.mem_map_of_mem hentry))
    _ = ∑ key ∈ keys, measure key (amountOf right key) := by simp only [hsame]
    _ = total measure right := by
      symm
      apply total_eq_sum
      intro entry hentry
      exact List.mem_toFinset.mpr (List.mem_append_right _ (List.mem_map_of_mem hentry))

end ShoppingWeb.Quantities
