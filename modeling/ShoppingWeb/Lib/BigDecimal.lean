import Mathlib.Algebra.Order.Field.Power
import Mathlib.Data.Rat.Cast.Order
import Mathlib.Tactic.FieldSimp
import Mathlib.Tactic.Ring
import ShoppingWeb.Lib.DecimalText
import ShoppingWeb.Lib.Delimited

/-!
# Decimal numbers with a scale

`java.math.BigDecimal`: an unscaled integer and the number of decimal places.
Two decimals can denote the same rational with different scales, so equality
(`equals`), comparison (`compareTo`) and the two printed forms are kept
apart.  The canonical text determines both components.
-/

namespace ShoppingWeb

open ShoppingWeb.Utf16
open ShoppingWeb.DecimalText
open ShoppingWeb.Delimited

/-- `BigDecimal.equals` is equality of this structure. -/
structure BigDecimal where
  unscaledValue : ℤ
  scale : ℤ
  deriving DecidableEq, Repr

namespace BigDecimal

def zero : BigDecimal := ⟨0, 0⟩

def ofInt (value : ℤ) : BigDecimal := ⟨value, 0⟩

/-- The unscaled value after moving to a scale at least as large. -/
def unscaledAt (value : BigDecimal) (scale : ℤ) : ℤ :=
  value.unscaledValue * 10 ^ (scale - value.scale).toNat

def add (left right : BigDecimal) : BigDecimal :=
  let scale := max left.scale right.scale
  ⟨left.unscaledAt scale + right.unscaledAt scale, scale⟩

def subtract (left right : BigDecimal) : BigDecimal :=
  let scale := max left.scale right.scale
  ⟨left.unscaledAt scale - right.unscaledAt scale, scale⟩

def multiply (left right : BigDecimal) : BigDecimal :=
  ⟨left.unscaledValue * right.unscaledValue, left.scale + right.scale⟩

def abs (value : BigDecimal) : BigDecimal :=
  ⟨|value.unscaledValue|, value.scale⟩

def compareTo (left right : BigDecimal) : Ordering :=
  let scale := max left.scale right.scale
  compare (left.unscaledAt scale) (right.unscaledAt scale)

/-- The number a decimal denotes. -/
def toRat (value : BigDecimal) : ℚ :=
  value.unscaledValue * (10 : ℚ) ^ (-value.scale)

private theorem ten_zpow_pos (exponent : ℤ) : (0 : ℚ) < 10 ^ exponent :=
  zpow_pos (by norm_num) exponent

theorem unscaledAt_mul_zpow (value : BigDecimal) {scale : ℤ}
    (hscale : value.scale ≤ scale) :
    (value.unscaledAt scale : ℚ) * 10 ^ (-scale) = value.toRat := by
  have hexponent : ((scale - value.scale).toNat : ℤ) = scale - value.scale :=
    Int.toNat_of_nonneg (by omega)
  have hpow : ((10 : ℚ) ^ (scale - value.scale).toNat) = 10 ^ (scale - value.scale) := by
    rw [← hexponent, zpow_natCast, hexponent]
  rw [unscaledAt, toRat, Int.cast_mul, Int.cast_pow, Int.cast_ofNat, hpow, mul_assoc,
    ← zpow_add₀ (by norm_num)]
  congr 2
  ring

@[simp]
theorem toRat_zero : zero.toRat = 0 := by
  simp [zero, toRat]

@[simp]
theorem toRat_ofInt (value : ℤ) : (ofInt value).toRat = value := by
  simp [ofInt, toRat]

@[simp]
theorem toRat_add (left right : BigDecimal) :
    (left.add right).toRat = left.toRat + right.toRat := by
  rw [← unscaledAt_mul_zpow left (le_max_left left.scale right.scale),
    ← unscaledAt_mul_zpow right (le_max_right left.scale right.scale), ← add_mul]
  simp [add, toRat]

@[simp]
theorem toRat_subtract (left right : BigDecimal) :
    (left.subtract right).toRat = left.toRat - right.toRat := by
  rw [← unscaledAt_mul_zpow left (le_max_left left.scale right.scale),
    ← unscaledAt_mul_zpow right (le_max_right left.scale right.scale), ← sub_mul]
  simp [subtract, toRat]

@[simp]
theorem toRat_multiply (left right : BigDecimal) :
    (left.multiply right).toRat = left.toRat * right.toRat := by
  simp only [multiply, toRat, Int.cast_mul, neg_add, zpow_add₀ (show (10 : ℚ) ≠ 0 by norm_num)]
  ring

@[simp]
theorem toRat_abs (value : BigDecimal) : value.abs.toRat = |value.toRat| := by
  rw [abs, toRat, toRat, abs_mul, abs_of_pos (ten_zpow_pos _), Int.cast_abs]

/-- `compareTo` compares the numbers, whatever the scales. -/
theorem compareTo_eq_gt_iff (left right : BigDecimal) :
    left.compareTo right = .gt ↔ right.toRat < left.toRat := by
  rw [compareTo, compare_gt_iff_gt,
    ← unscaledAt_mul_zpow left (le_max_left left.scale right.scale),
    ← unscaledAt_mul_zpow right (le_max_right left.scale right.scale),
    mul_lt_mul_iff_left₀ (ten_zpow_pos _)]
  exact_mod_cast Iff.rfl

/-- Digits with the decimal point `scale` places from the right. -/
def plainLayout (coefficient : JString) (scale : ℕ) : JString :=
  if scale = 0 then coefficient
  else if coefficient.length ≤ scale then
    [48, 46] ++ List.replicate (scale - coefficient.length) 48 ++ coefficient
  else
    coefficient.take (coefficient.length - scale) ++ 46 ::
      coefficient.drop (coefficient.length - scale)

/-- One digit before the point. -/
def scientificMantissa (coefficient : JString) : JString :=
  coefficient.take 1 ++ if 1 < coefficient.length then 46 :: coefficient.drop 1 else []

def exponentText (adjusted : ℤ) : JString :=
  if adjusted = 0 then []
  else 69 :: ((if 0 < adjusted then [43] else []) ++ intText adjusted)

def scientificLayout (coefficient : JString) (adjusted : ℤ) : JString :=
  scientificMantissa coefficient ++ exponentText adjusted

def signText (value : BigDecimal) : JString :=
  if value.unscaledValue < 0 then [45] else []

/-- The text of a number without its sign. -/
def magnitudeText (coefficient : JString) (scale : ℤ) : JString :=
  let adjusted := -scale + (coefficient.length - 1 : ℤ)
  if 0 ≤ scale ∧ -6 ≤ adjusted then plainLayout coefficient scale.toNat
  else scientificLayout coefficient adjusted

/-- The canonical text, `BigDecimal.toString`. -/
def toText (value : BigDecimal) : JString :=
  value.signText ++ magnitudeText (natText value.unscaledValue.natAbs) value.scale

/-- `BigDecimal.toPlainString`: the text without an exponent. -/
def toPlainString (value : BigDecimal) : JString :=
  let coefficient := natText value.unscaledValue.natAbs
  if value.scale < 0 then
    if value.unscaledValue = 0 then [48]
    else value.signText ++ coefficient ++ List.replicate (-value.scale).toNat 48
  else value.signText ++ plainLayout coefficient value.scale.toNat

/-- Coefficient and scale of an unsigned text, as `new BigDecimal(String)`
reads them. -/
def readUnsigned (text : JString) : ℕ × ℤ :=
  let (mantissa, exponent) := cutAt 69 text
  let (whole, fraction) := cutAt 46 mantissa
  (natValue (whole ++ fraction), fraction.length - intValue exponent)

def ofText (text : JString) : BigDecimal :=
  if text.head? = some 45 then
    ⟨-((readUnsigned (text.drop 1)).1 : ℤ), (readUnsigned (text.drop 1)).2⟩
  else ⟨(readUnsigned text).1, (readUnsigned text).2⟩

private theorem not_mem_digits {digits : JString}
    (hdigits : ∀ unit ∈ digits, IsDigitUnit unit) {other : CodeUnit}
    (hother : ¬ IsDigitUnit other) : other ∉ digits :=
  fun hmem => hother (hdigits other hmem)

private theorem readUnsigned_of_cuts {text mantissa exponent whole fraction : JString}
    (hexponent : cutAt 69 text = (mantissa, exponent))
    (hpoint : cutAt 46 mantissa = (whole, fraction)) :
    readUnsigned text = (natValue (whole ++ fraction), fraction.length - intValue exponent) := by
  simp [readUnsigned, hexponent, hpoint]

section Reading

variable {digits : JString} (hdigits : ∀ unit ∈ digits, IsDigitUnit unit)
include hdigits

/-- The plain text is read back to its digits and its scale. -/
theorem readUnsigned_plainLayout (scale : ℕ) :
    readUnsigned (plainLayout digits scale) = (natValue digits, (scale : ℤ)) := by
  have hexponent : (69 : CodeUnit) ∉ digits := not_mem_digits hdigits (by decide)
  have hpoint : (46 : CodeUnit) ∉ digits := not_mem_digits hdigits (by decide)
  rw [plainLayout]
  split_ifs with hzero hlength
  · rw [readUnsigned_of_cuts (cutAt_of_not_mem hexponent) (cutAt_of_not_mem hpoint)]
    simp [hzero, intValue, natValue]
  · have hnone : (69 : CodeUnit) ∉
        [48, 46] ++ List.replicate (scale - digits.length) 48 ++ digits := by
      simp [hexponent, List.mem_replicate]
    have hzeroPart : (46 : CodeUnit) ∉ [(48 : CodeUnit)] := by decide
    rw [readUnsigned_of_cuts (cutAt_of_not_mem hnone) (cutAt_append hzeroPart _)]
    apply Prod.ext
    · exact natValue_replicate_zero_append (scale - digits.length + 1) digits
    · simp [intValue, natValue, Nat.sub_add_cancel hlength]
  · have hnone : (69 : CodeUnit) ∉ digits.take (digits.length - scale) ++
        46 :: digits.drop (digits.length - scale) := by
      simp only [List.mem_append, List.mem_cons, not_or]
      exact ⟨fun hmem => hexponent (List.mem_of_mem_take hmem), by decide,
        fun hmem => hexponent (List.mem_of_mem_drop hmem)⟩
    rw [readUnsigned_of_cuts (cutAt_of_not_mem hnone)
      (cutAt_append (fun hmem => hpoint (List.mem_of_mem_take hmem)) _), List.take_append_drop]
    refine Prod.ext rfl ?_
    simp only [List.length_drop, intValue, natValue, List.foldl_nil]
    omega

private theorem cutAt_scientificMantissa :
    cutAt 46 (scientificMantissa digits) = (digits.take 1, digits.drop 1) := by
  have htake : (46 : CodeUnit) ∉ digits.take 1 := fun hmem =>
    not_mem_digits hdigits (by decide) (List.mem_of_mem_take hmem)
  rw [scientificMantissa]
  split_ifs with hlength
  · exact cutAt_append htake _
  · rw [List.append_nil, cutAt_of_not_mem htake, List.drop_of_length_le (by omega)]

/-- A mantissa holds digits and the point. -/
private theorem not_mem_scientificMantissa {other : CodeUnit} (hother : ¬ IsDigitUnit other)
    (hpoint : other ≠ 46) : other ∉ scientificMantissa digits := by
  have hnone : other ∉ digits := not_mem_digits hdigits hother
  rw [scientificMantissa, List.mem_append, not_or]
  constructor
  · exact fun hmem => hnone (List.mem_of_mem_take hmem)
  · split_ifs
    · rw [List.mem_cons, not_or]
      exact ⟨hpoint, fun hmem => hnone (List.mem_of_mem_drop hmem)⟩
    · exact List.not_mem_nil

omit hdigits in
private theorem cutAt_exponentText {mantissa : JString} (hmantissa : (69 : CodeUnit) ∉ mantissa)
    (adjusted : ℤ) : ∃ exponent, cutAt 69 (mantissa ++ exponentText adjusted) =
      (mantissa, exponent) ∧ intValue exponent = adjusted := by
  rw [exponentText]
  split_ifs with hzero hpositive
  · exact ⟨[], by simp [cutAt_of_not_mem hmantissa], by simp [hzero, intValue, natValue]⟩
  · exact ⟨43 :: intText adjusted, cutAt_append hmantissa _, intValue_plus hpositive.le⟩
  · exact ⟨intText adjusted, cutAt_append hmantissa _, intValue_intText adjusted⟩

/-- The scientific text is read back to its digits and a scale that undoes
the exponent. -/
theorem readUnsigned_scientificLayout (adjusted : ℤ) :
    readUnsigned (scientificLayout digits adjusted) =
      (natValue digits, ((digits.length - 1 : ℕ) : ℤ) - adjusted) := by
  obtain ⟨exponent, hexponent, hadjusted⟩ :=
    cutAt_exponentText (not_mem_scientificMantissa hdigits (by decide) (by decide)) adjusted
  rw [scientificLayout, readUnsigned_of_cuts hexponent (cutAt_scientificMantissa hdigits),
    List.take_append_drop, hadjusted, List.length_drop]

theorem readUnsigned_magnitudeText (hne : digits ≠ []) (scale : ℤ) :
    readUnsigned (magnitudeText digits scale) = (natValue digits, scale) := by
  have hpos := List.length_pos_iff.mpr hne
  rw [magnitudeText]
  split_ifs with hplain
  · rw [readUnsigned_plainLayout hdigits, Int.toNat_of_nonneg hplain.1]
  · rw [readUnsigned_scientificLayout hdigits]
    refine Prod.ext rfl ?_
    simp only
    omega

/-- The sign is the only place for a leading minus. -/
private theorem head_magnitudeText_ne (hne : digits ≠ []) (scale : ℤ) :
    (magnitudeText digits scale).head? ≠ some 45 := by
  obtain ⟨head, tail, rfl⟩ := List.exists_cons_of_ne_nil hne
  have hhead : head ≠ 45 := by
    rintro rfl
    exact absurd (hdigits 45 List.mem_cons_self) (by decide)
  rw [magnitudeText]
  split_ifs
  · rw [plainLayout]
    split_ifs with hzero hlength
    · simpa using hhead
    · simp
    · have hcount : (head :: tail).length - scale.toNat =
          (tail.length - scale.toNat) + 1 := by
        simp only [List.length_cons] at hlength ⊢
        omega
      rw [hcount, List.take_succ_cons]
      simpa using hhead
  · simpa [scientificLayout, scientificMantissa] using hhead

private theorem underscore_not_mem_plainLayout (scale : ℕ) :
    (95 : CodeUnit) ∉ plainLayout digits scale := by
  have hnone : (95 : CodeUnit) ∉ digits := not_mem_digits hdigits (by decide)
  rw [plainLayout]
  split_ifs
  · exact hnone
  · simp [hnone, List.mem_replicate]
  · simp only [List.mem_append, List.mem_cons, not_or]
    exact ⟨fun hmem => hnone (List.mem_of_mem_take hmem), by decide,
      fun hmem => hnone (List.mem_of_mem_drop hmem)⟩

omit hdigits in
private theorem underscore_not_mem_exponentText (adjusted : ℤ) :
    (95 : CodeUnit) ∉ exponentText adjusted := by
  have hinteger : (95 : CodeUnit) ∉ intText adjusted :=
    not_mem_intText (by decide) (by decide) adjusted
  rw [exponentText]
  split_ifs <;> simp [hinteger]

end Reading

/-- The canonical text is read back to the same unscaled value and scale. -/
@[simp]
theorem ofText_toText (value : BigDecimal) : ofText value.toText = value := by
  have hdigits : ∀ unit ∈ natText value.unscaledValue.natAbs, IsDigitUnit unit :=
    fun _ hunit => isDigitUnit_of_mem_natText hunit
  have hne := natText_ne_nil value.unscaledValue.natAbs
  have hread := readUnsigned_magnitudeText hdigits hne value.scale
  rw [natValue_natText] at hread
  by_cases hneg : value.unscaledValue < 0
  · have hsign : -((value.unscaledValue.natAbs : ℕ) : ℤ) = value.unscaledValue := by omega
    rw [ofText, toText, signText, if_pos hneg, List.singleton_append, List.head?_cons,
      if_pos rfl, List.drop_one, List.tail_cons, hread, hsign]
  · have hsign : ((value.unscaledValue.natAbs : ℕ) : ℤ) = value.unscaledValue := by omega
    rw [ofText, toText, signText, if_neg hneg, List.nil_append,
      if_neg (head_magnitudeText_ne hdigits hne value.scale), hread, hsign]

/-- The canonical text holds digits, a point, signs and the letter E. -/
theorem underscore_not_mem_toText (value : BigDecimal) : (95 : CodeUnit) ∉ value.toText := by
  have hdigits : ∀ unit ∈ natText value.unscaledValue.natAbs, IsDigitUnit unit :=
    fun _ hunit => isDigitUnit_of_mem_natText hunit
  rw [toText, signText, magnitudeText, List.mem_append, not_or]
  constructor
  · split_ifs <;> decide
  · split_ifs
    · exact underscore_not_mem_plainLayout hdigits _
    · rw [scientificLayout, List.mem_append, not_or]
      exact ⟨not_mem_scientificMantissa hdigits (by decide) (by decide),
        underscore_not_mem_exponentText _⟩

/-- No two decimals have the same canonical text. -/
theorem toText_injective : Function.Injective toText :=
  Function.LeftInverse.injective ofText_toText

/-! ## Plain text -/

theorem mem_plainLayout {digits : JString} (hdigits : ∀ unit ∈ digits, IsDigitUnit unit)
    {scale : ℕ} {unit : CodeUnit} (hunit : unit ∈ plainLayout digits scale) :
    IsDigitUnit unit ∨ unit = 46 := by
  have hzero : IsDigitUnit 48 := by decide
  rw [plainLayout] at hunit
  split_ifs at hunit
  · exact Or.inl (hdigits unit hunit)
  · simp only [List.mem_append, List.mem_cons, List.not_mem_nil, or_false,
      List.mem_replicate] at hunit
    rcases hunit with ((rfl | rfl) | ⟨-, rfl⟩) | hdigit
    · exact Or.inl hzero
    · exact Or.inr rfl
    · exact Or.inl hzero
    · exact Or.inl (hdigits unit hdigit)
  · rcases List.mem_append.mp hunit with htake | hrest
    · exact Or.inl (hdigits unit (List.mem_of_mem_take htake))
    · rcases List.mem_cons.mp hrest with rfl | hdrop
      · exact Or.inr rfl
      · exact Or.inl (hdigits unit (List.mem_of_mem_drop hdrop))

/-- The plain text holds digits, a minus sign and a point. -/
theorem mem_toPlainString {value : BigDecimal} {unit : CodeUnit}
    (hunit : unit ∈ value.toPlainString) : IsDigitUnit unit ∨ unit = 45 ∨ unit = 46 := by
  have hdigits : ∀ unit ∈ natText value.unscaledValue.natAbs, IsDigitUnit unit :=
    fun _ hunit => isDigitUnit_of_mem_natText hunit
  have hzero : IsDigitUnit 48 := by decide
  have hsign : ∀ unit ∈ value.signText, unit = 45 := by
    intro unit hunit
    rw [signText] at hunit
    split_ifs at hunit
    · exact List.mem_singleton.mp hunit
    · exact absurd hunit List.not_mem_nil
  rw [toPlainString] at hunit
  split_ifs at hunit
  · rw [List.mem_singleton.mp hunit]
    exact Or.inl hzero
  · simp only [List.mem_append, List.mem_replicate] at hunit
    rcases hunit with (hminus | hdigit) | ⟨-, rfl⟩
    · exact Or.inr (Or.inl (hsign unit hminus))
    · exact Or.inl (hdigits unit hdigit)
    · exact Or.inl hzero
  · rcases List.mem_append.mp hunit with hminus | hplain
    · exact Or.inr (Or.inl (hsign unit hminus))
    · rcases mem_plainLayout hdigits hplain with hdigit | hpoint
      · exact Or.inl hdigit
      · exact Or.inr (Or.inr hpoint)

theorem wellFormed_toPlainString (value : BigDecimal) : WellFormed value.toPlainString := by
  apply wellFormed_of_no_surrogate
  intro unit hunit
  left
  rcases mem_toPlainString hunit with hdigit | rfl | rfl
  · exact hdigit.2.trans (by decide)
  · decide
  · decide

theorem colon_not_mem_toPlainString (value : BigDecimal) :
    (58 : CodeUnit) ∉ value.toPlainString := by
  intro hcolon
  rcases mem_toPlainString hcolon with hdigit | hminus | hpoint
  · exact absurd hdigit (by decide)
  · exact absurd hminus (by decide)
  · exact absurd hpoint (by decide)

example : (⟨-12345, 2⟩ : BigDecimal).toText = js "-123.45" := by decide
example : (⟨5, -3⟩ : BigDecimal).toText = js "5E+3" := by decide
example : (⟨105, 9⟩ : BigDecimal).toText = js "1.05E-7" := by decide

end BigDecimal

end ShoppingWeb
