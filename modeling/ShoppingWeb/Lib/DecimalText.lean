import Mathlib.Data.Nat.Digits.Lemmas
import ShoppingWeb.Lib.Utf16

/-!
# Decimal text of integers

The text Java and JavaScript print for an integer, and the value it is read
back to.  Reading inverts printing, so printing is injective.
-/

namespace ShoppingWeb.DecimalText

open ShoppingWeb.Utf16

def digitUnit (digit : ℕ) : CodeUnit :=
  UInt16.ofNat (48 + digit)

/-- The ASCII digits `0` to `9`. -/
def IsDigitUnit (unit : CodeUnit) : Prop :=
  48 ≤ unit.toNat ∧ unit.toNat < 58

instance (unit : CodeUnit) : Decidable (IsDigitUnit unit) :=
  inferInstanceAs (Decidable (_ ∧ _))

def natText (value : ℕ) : JString :=
  if value = 0 then [48] else (Nat.digits 10 value).reverse.map digitUnit

def natValue (text : JString) : ℕ :=
  text.foldl (fun value unit => 10 * value + (unit.toNat - 48)) 0

/-- Java's `Long.toString` and `BigInteger.toString`. -/
def intText (value : ℤ) : JString :=
  if value < 0 then 45 :: natText value.natAbs else natText value.natAbs

def intValue : JString → ℤ
  | 45 :: digits => -(natValue digits : ℤ)
  | 43 :: digits => natValue digits
  | digits => natValue digits

private theorem toNat_digitUnit {digit : ℕ} (hdigit : digit < 10) :
    (digitUnit digit).toNat = 48 + digit := by
  simp only [digitUnit, UInt16.toNat_ofNat']
  omega

theorem natText_ne_nil (value : ℕ) : natText value ≠ [] := by
  by_cases hvalue : value = 0
  · simp [natText, hvalue]
  · simp [natText, hvalue, Nat.digits_ne_nil_iff_ne_zero]

theorem isDigitUnit_of_mem_natText {value : ℕ} {unit : CodeUnit}
    (hunit : unit ∈ natText value) : IsDigitUnit unit := by
  by_cases hvalue : value = 0
  · obtain rfl : unit = 48 := by simpa [natText, hvalue] using hunit
    decide
  · simp only [natText, if_neg hvalue, List.mem_map, List.mem_reverse] at hunit
    obtain ⟨digit, hdigit, rfl⟩ := hunit
    have hlt := Nat.digits_lt_base (by norm_num) hdigit
    simp only [IsDigitUnit, toNat_digitUnit hlt]
    omega

/-- Reading inverts printing. -/
@[simp]
theorem natValue_natText (value : ℕ) : natValue (natText value) = value := by
  by_cases hvalue : value = 0
  · simp [natText, natValue, hvalue]
  · have hfold : ∀ digits : List ℕ, (∀ digit ∈ digits, digit < 10) →
        natValue (digits.reverse.map digitUnit) = Nat.ofDigits 10 digits := by
      intro digits hdigits
      rw [natValue, List.foldl_map, List.foldl_reverse, Nat.ofDigits_eq_foldr]
      apply List.foldr_ext _ _ _
      intro digit hdigit accumulated
      rw [toNat_digitUnit (hdigits digit hdigit)]
      simp only [Nat.cast_id]
      omega
    rw [natText, if_neg hvalue,
      hfold _ fun digit hdigit => Nat.digits_lt_base (by norm_num) hdigit,
      Nat.ofDigits_digits]

/-- Leading zeros do not change the value. -/
theorem natValue_replicate_zero_append (count : ℕ) (text : JString) :
    natValue (List.replicate count 48 ++ text) = natValue text := by
  rw [natValue, List.foldl_append]
  congr 1
  induction count with
  | zero => rfl
  | succ count ih => simpa [List.replicate_succ] using ih

private theorem intValue_natText (value : ℕ) : intValue (natText value) = value := by
  cases htext : natText value with
  | nil => exact absurd htext (natText_ne_nil value)
  | cons unit rest =>
      have hmem : unit ∈ natText value := by simp [htext]
      have hunit := isDigitUnit_of_mem_natText hmem
      have hminus : unit ≠ 45 := by
        rintro rfl
        exact absurd hunit (by decide)
      have hplus : unit ≠ 43 := by
        rintro rfl
        exact absurd hunit (by decide)
      have hvalue : natValue (unit :: rest) = value := by
        rw [← htext, natValue_natText]
      rw [intValue, hvalue]
      · simpa using hminus
      · simpa using hplus

@[simp]
theorem intValue_intText (value : ℤ) : intValue (intText value) = value := by
  by_cases hneg : value < 0
  · simp only [intText, if_pos hneg, intValue, natValue_natText]
    omega
  · rw [intText, if_neg hneg, intValue_natText]
    omega

/-- An explicit plus sign is accepted. -/
theorem intValue_plus {value : ℤ} (hvalue : 0 ≤ value) :
    intValue (43 :: intText value) = value := by
  rw [intText, if_neg (by omega), intValue, natValue_natText]
  omega

theorem intText_injective : Function.Injective intText :=
  Function.LeftInverse.injective intValue_intText

/-- The printed text of an integer holds digits and the minus sign only. -/
theorem isDigitUnit_or_minus_of_mem_intText {value : ℤ} {unit : CodeUnit}
    (hunit : unit ∈ intText value) : IsDigitUnit unit ∨ unit = 45 := by
  rw [intText] at hunit
  split at hunit
  · rcases List.mem_cons.mp hunit with rfl | hdigit
    · exact Or.inr rfl
    · exact Or.inl (isDigitUnit_of_mem_natText hdigit)
  · exact Or.inl (isDigitUnit_of_mem_natText hunit)

theorem not_mem_intText {other : CodeUnit} (hdigit : ¬ IsDigitUnit other) (hminus : other ≠ 45)
    (value : ℤ) : other ∉ intText value := by
  intro hmem
  rcases isDigitUnit_or_minus_of_mem_intText hmem with hisDigit | hisMinus
  · exact hdigit hisDigit
  · exact hminus hisMinus

theorem wellFormed_intText (value : ℤ) : WellFormed (intText value) := by
  refine wellFormed_of_no_surrogate fun unit hunit => Or.inl ?_
  rcases isDigitUnit_or_minus_of_mem_intText hunit with hdigit | rfl
  · exact hdigit.2.trans (by decide)
  · decide

end ShoppingWeb.DecimalText
