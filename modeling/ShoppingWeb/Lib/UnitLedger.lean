import Mathlib.Data.List.Count
import Mathlib.Data.List.Nodup

/-!
# A ledger of single units

Units of a key are told apart by serial numbers.  A ledger issues them, holds
them, removes them again or hands all it holds over.  Which units of a key are
removed is left to a choice; every unit is in one place, whatever it chooses.
-/

namespace ShoppingWeb.UnitLedger

structure SerialUnit (Key : Type) where
  serial : ℕ
  key : Key
  deriving DecidableEq, Repr

variable {Key : Type}

/-- Which of some units go when a number of them have to. -/
structure Choice (Key : Type) where
  pick : List (SerialUnit Key) → ℕ → List (SerialUnit Key)
  sublist : ∀ units amount, (pick units amount).Sublist units
  length : ∀ units amount, amount ≤ units.length → (pick units amount).length = amount

def Choice.oldest : Choice Key where
  pick units amount := units.take amount
  sublist units amount := List.take_sublist amount units
  length _ _ hamount := List.length_take_of_le hamount

structure Ledger (Key : Type) where
  issued : List (SerialUnit Key)
  held : List (SerialUnit Key)
  removed : List (SerialUnit Key)
  deriving DecidableEq, Repr

def countOf [DecidableEq Key] (units : List (SerialUnit Key)) (key : Key) : ℕ :=
  units.countP fun unit => unit.key == key

namespace Ledger

def empty : Ledger Key := ⟨[], [], []⟩

def newUnits (ledger : Ledger Key) (key : Key) (amount : ℕ) : List (SerialUnit Key) :=
  (List.range amount).map fun offset => ⟨ledger.issued.length + offset, key⟩

def issue (ledger : Ledger Key) (key : Key) (amount : ℕ) : Ledger Key :=
  { ledger with
    issued := ledger.issued ++ ledger.newUnits key amount
    held := ledger.held ++ ledger.newUnits key amount }

def chosen [DecidableEq Key] (choice : Choice Key) (ledger : Ledger Key) (key : Key)
    (amount : ℕ) : List (SerialUnit Key) :=
  choice.pick (ledger.held.filter fun unit => unit.key == key) amount

def remove [DecidableEq Key] (choice : Choice Key) (ledger : Ledger Key) (key : Key)
    (amount : ℕ) : Ledger Key :=
  { ledger with
    held := ledger.held.diff (ledger.chosen choice key amount)
    removed := ledger.chosen choice key amount ++ ledger.removed }

def removeAll (ledger : Ledger Key) : Ledger Key :=
  { ledger with
    held := []
    removed := ledger.held ++ ledger.removed }

def handOver (ledger : Ledger Key) : Ledger Key := { ledger with held := [] }

end Ledger

section Counting

variable [DecidableEq Key] {ledger : Ledger Key} {key : Key} {amount : ℕ}

theorem countOf_append (left right : List (SerialUnit Key)) (key : Key) :
    countOf (left ++ right) key = countOf left key + countOf right key :=
  List.countP_append

theorem countOf_eq_of_perm {left right : List (SerialUnit Key)} (hperm : left.Perm right)
    (key : Key) : countOf left key = countOf right key :=
  hperm.countP_eq _

theorem countOf_eq_of_forall {units : List (SerialUnit Key)} (hkey : ∀ unit ∈ units, unit.key = key)
    (other : Key) : countOf units other = if key = other then units.length else 0 := by
  rw [countOf]
  split
  · rename_i hother
    apply List.countP_eq_length.mpr
    intro unit hunit
    rw [hkey unit hunit, hother]
    exact beq_self_eq_true other
  · rename_i hother
    apply List.countP_eq_zero.mpr
    intro unit hunit
    rw [hkey unit hunit]
    simpa using hother

namespace Ledger

theorem countOf_issue (ledger : Ledger Key) (key : Key) (amount : ℕ) (other : Key) :
    countOf (ledger.issue key amount).held other =
      countOf ledger.held other + if key = other then amount else 0 := by
  have hkey : ∀ unit ∈ ledger.newUnits key amount, unit.key = key := by
    intro unit hunit
    obtain ⟨offset, -, rfl⟩ := List.mem_map.mp hunit
    rfl
  have hlength : (ledger.newUnits key amount).length = amount := by simp [newUnits]
  rw [issue, countOf_append, countOf_eq_of_forall hkey, hlength]

/-- What is chosen was held. -/
theorem chosen_perm (choice : Choice Key) (ledger : Ledger Key) (key : Key) (amount : ℕ) :
    (ledger.chosen choice key amount ++
      ledger.held.diff (ledger.chosen choice key amount)).Perm ledger.held := by
  have hsublist : (ledger.chosen choice key amount).Sublist ledger.held :=
    (choice.sublist _ amount).trans List.filter_sublist
  exact List.subperm_append_diff_self_of_count_le fun unit _ => hsublist.count_le unit

theorem countOf_remove (choice : Choice Key) (hamount : amount ≤ countOf ledger.held key)
    (other : Key) :
    countOf (ledger.remove choice key amount).held other + (if key = other then amount else 0) =
      countOf ledger.held other := by
  have hkey : ∀ unit ∈ ledger.chosen choice key amount, unit.key = key := by
    intro unit hunit
    have hmem := (choice.sublist _ amount).subset hunit
    exact beq_iff_eq.mp (List.mem_filter.mp hmem).2
  have hlength : (ledger.chosen choice key amount).length = amount := by
    apply choice.length
    rwa [countOf, List.countP_eq_length_filter] at hamount
  calc
    countOf (ledger.remove choice key amount).held other + (if key = other then amount else 0) =
        countOf (ledger.chosen choice key amount) other +
          countOf (ledger.held.diff (ledger.chosen choice key amount)) other := by
      rw [countOf_eq_of_forall hkey, hlength, Nat.add_comm]
      rfl
    _ = countOf ledger.held other := by
      rw [← countOf_append, countOf_eq_of_perm (ledger.chosen_perm choice key amount)]

end Ledger

end Counting

namespace Ledger

/-- The units that the ledger has issued are those it holds, those it has
removed and those it has handed over, each in one place. -/
structure Keeps (ledger : Ledger Key) (handedOver : List (SerialUnit Key)) : Prop where
  serials : ledger.issued.map SerialUnit.serial = List.range ledger.issued.length
  places : ledger.issued.Perm (ledger.held ++ (ledger.removed ++ handedOver))

variable {ledger : Ledger Key} {handedOver : List (SerialUnit Key)}

theorem keeps_empty : (empty : Ledger Key).Keeps [] := ⟨rfl, List.Perm.refl _⟩

theorem Keeps.nodup (hkeeps : ledger.Keeps handedOver) :
    (ledger.held ++ (ledger.removed ++ handedOver)).Nodup := by
  have hissued : (ledger.issued.map SerialUnit.serial).Nodup := by
    rw [hkeeps.serials]
    exact List.nodup_range
  exact hkeeps.places.nodup_iff.mp (List.Nodup.of_map SerialUnit.serial hissued)

theorem Keeps.of_perm (hkeeps : ledger.Keeps handedOver) {units : List (SerialUnit Key)}
    (hunits : handedOver.Perm units) : ledger.Keeps units :=
  ⟨hkeeps.serials, hkeeps.places.trans ((hunits.append_left _).append_left _)⟩

theorem keeps_issue (hkeeps : ledger.Keeps handedOver) (key : Key) (amount : ℕ) :
    (ledger.issue key amount).Keeps handedOver := by
  constructor
  · have hnew : (ledger.newUnits key amount).map SerialUnit.serial =
        (List.range amount).map (ledger.issued.length + ·) := by
      rw [newUnits, List.map_map]
      rfl
    rw [issue, List.map_append, hkeeps.serials, hnew, List.length_append, List.range_add]
    simp [newUnits]
  · have hswap : ((ledger.held ++ (ledger.removed ++ handedOver)) ++
        ledger.newUnits key amount).Perm
          ((ledger.held ++ ledger.newUnits key amount) ++ (ledger.removed ++ handedOver)) := by
      rw [List.append_assoc ledger.held, List.append_assoc ledger.held]
      exact List.perm_append_comm.append_left _
    exact (hkeeps.places.append_right (ledger.newUnits key amount)).trans hswap

theorem keeps_remove [DecidableEq Key] (hkeeps : ledger.Keeps handedOver) (choice : Choice Key)
    (key : Key) (amount : ℕ) : (ledger.remove choice key amount).Keeps handedOver := by
  refine ⟨hkeeps.serials, hkeeps.places.trans ?_⟩
  have hheld := (ledger.chosen_perm choice key amount).symm.append_right
    (ledger.removed ++ handedOver)
  apply hheld.trans
  rw [remove, List.append_assoc, List.append_assoc]
  exact List.perm_append_comm_assoc _ _ _

theorem keeps_removeAll (hkeeps : ledger.Keeps handedOver) :
    ledger.removeAll.Keeps handedOver := by
  refine ⟨hkeeps.serials, hkeeps.places.trans ?_⟩
  rw [removeAll, List.nil_append, List.append_assoc]

/-- Units that are all the ledger holds are handed over. -/
theorem keeps_handOver (hkeeps : ledger.Keeps handedOver) {units : List (SerialUnit Key)}
    (hunits : units.Perm ledger.held) : ledger.handOver.Keeps (units ++ handedOver) := by
  refine ⟨hkeeps.serials, hkeeps.places.trans ?_⟩
  rw [handOver, List.nil_append]
  exact (hunits.symm.append_right _).trans (List.perm_append_comm_assoc _ _ _)

end Ledger

end ShoppingWeb.UnitLedger
