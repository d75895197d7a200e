import Mathlib.Algebra.Order.Round
import Mathlib.Data.Int.Log
import Mathlib.Data.Rat.Floor
import Mathlib.Tactic.NormNum
import Mathlib.Tactic.Positivity

/-!
# Binary64 numbers and their decimals

Every operation on numbers gives the nearest number of binary64 to the exact
result, ties to even.  The text of a number is the shortest decimal that is read
back as the number.  Both zeros are one number here.
-/

namespace ShoppingWeb.Binary64

/-- A number by its value; `none` is an infinity or no number at all. -/
abbrev Number := Option ℚ

def roundHalfEven (x : ℚ) : ℤ :=
  if Int.fract x < 1 / 2 then ⌊x⌋
  else if 1 / 2 < Int.fract x then ⌊x⌋ + 1
  else if Even ⌊x⌋ then ⌊x⌋
  else ⌊x⌋ + 1

/-- How far numbers of this magnitude are apart: 53 significant bits, and no bit
below the last subnormal one. -/
def spacing (x : ℚ) : ℚ := 2 ^ max (Int.log 2 |x| - 52) (-1074)

/-- The number that a decimal text is read as, and that an exact result becomes. -/
def nearest (x : ℚ) : Number :=
  let rounded := roundHalfEven (x / spacing x) * spacing x
  if |rounded| < 2 ^ 1024 then some rounded else none

def add (left right : Number) : Number :=
  left.bind fun x => right.bind fun y => nearest (x + y)

def multiply (left right : Number) : Number :=
  left.bind fun x => right.bind fun y => nearest (x * y)

/-- The multiples of a power of ten around a number, the nearest first. -/
def candidates (x unit : ℚ) : List ℚ :=
  [roundHalfEven (x / unit) * unit, ⌊x / unit⌋ * unit, ⌈x / unit⌉ * unit]

/-- The decimal that a number is printed as: no more digits than it takes to
read the number back, which 17 always are. -/
def shortestDecimal (x : ℚ) : ℚ :=
  ((List.range 17).findSome? fun position : ℕ =>
    (candidates x (10 ^ (Int.log 10 |x| - position))).find? fun candidate =>
      nearest candidate == some x).getD x

/-- The decimal printed without a fraction, halves away from zero. -/
def wholePart (x : ℚ) : ℤ := if 0 ≤ x then round x else -round (-x)

theorem roundHalfEven_intCast (n : ℤ) : roundHalfEven n = n := by
  rw [roundHalfEven, Int.fract_intCast, Int.floor_intCast, if_pos (by norm_num)]

theorem le_roundHalfEven {n : ℤ} {x : ℚ} (hle : (n : ℚ) ≤ x) : n ≤ roundHalfEven x := by
  have hfloor : n ≤ ⌊x⌋ := Int.le_floor.mpr hle
  rw [roundHalfEven]
  split_ifs
  all_goals omega

theorem exists_natCast_zpow {exponent : ℤ} (hexponent : 0 ≤ exponent) (base : ℕ) :
    ∃ n : ℤ, (base : ℚ) ^ exponent = n :=
  ⟨base ^ exponent.toNat, by
    conv_lhs => rw [← Int.toNat_of_nonneg hexponent]
    rw [zpow_natCast, Int.cast_pow, Int.cast_natCast]⟩

theorem spacing_pos (x : ℚ) : 0 < spacing x := zpow_pos two_pos _

theorem two_zpow_log_le {n : ℤ} (hn : 0 < n) : (2 : ℚ) ^ Int.log 2 |(n : ℚ)| ≤ n := by
  have hpos : (0 : ℚ) < |(n : ℚ)| := by positivity
  have hlog := Int.zpow_log_le_self one_lt_two hpos
  rwa [abs_of_pos (by exact_mod_cast hn)] at hlog ⊢

/-- Whole numbers of 53 bits are numbers. -/
theorem nearest_intCast {n : ℤ} (hlow : 0 ≤ n) (hhigh : n < 2 ^ 53) :
    nearest n = some (n : ℚ) := by
  have hlog : Int.log 2 |(n : ℚ)| ≤ 52 := by
    rcases hlow.eq_or_lt with rfl | hpos
    · simp
    · have hbelow : (2 : ℚ) ^ Int.log 2 |(n : ℚ)| < 2 ^ (53 : ℤ) :=
        (two_zpow_log_le hpos).trans_lt (by exact_mod_cast hhigh)
      have := (zpow_lt_zpow_iff_right₀ one_lt_two).mp hbelow
      omega
  obtain ⟨scale, hscale⟩ := @exists_natCast_zpow
    (-max (Int.log 2 |(n : ℚ)| - 52) (-1074)) (by omega) 2
  have hquotient : (n : ℚ) / spacing n = ((n * scale : ℤ) : ℚ) := by
    rw [spacing, div_eq_mul_inv, ← zpow_neg, Int.cast_mul, ← hscale]
    rfl
  have hrounded : (roundHalfEven ((n : ℚ) / spacing n) : ℚ) * spacing n = n := by
    rw [hquotient, roundHalfEven_intCast, ← hquotient, div_mul_cancel₀ _ (spacing_pos _).ne']
  have hfinite : |(n : ℚ)| < 2 ^ 1024 := by
    rw [abs_of_nonneg (by exact_mod_cast hlow)]
    calc
      (n : ℚ) < 2 ^ 53 := by exact_mod_cast hhigh
      _ ≤ 2 ^ 1024 := pow_le_pow_right₀ one_le_two (by norm_num)
  rw [nearest, hrounded, if_pos hfinite]

/-- A larger whole number is not read as one of 53 bits. -/
theorem le_of_nearest_intCast {n : ℤ} {x : ℚ} (hn : 2 ^ 53 ≤ n) (hnearest : nearest n = some x) :
    2 ^ 53 ≤ x := by
  have hpos : 0 < n := lt_of_lt_of_le (by norm_num) hn
  have hlog : 53 ≤ Int.log 2 |(n : ℚ)| := by
    rw [← Int.zpow_le_iff_le_log one_lt_two (by positivity), abs_of_pos (by exact_mod_cast hpos)]
    exact_mod_cast hn
  have hspacing : spacing n = 2 ^ (Int.log 2 |(n : ℚ)| - 52) := by
    rw [spacing, max_eq_left (by omega)]
  have hbits : ((2 ^ 52 : ℤ) : ℚ) * spacing n = 2 ^ Int.log 2 |(n : ℚ)| := by
    rw [hspacing, Int.cast_pow, Int.cast_ofNat, ← zpow_natCast, ← zpow_add₀ two_ne_zero]
    congr 1
    omega
  have hquotient : ((2 ^ 52 : ℤ) : ℚ) ≤ n / spacing n := by
    rw [le_div_iff₀ (spacing_pos _), hbits]
    exact two_zpow_log_le hpos
  obtain ⟨-, hrounded⟩ := Option.ite_none_right_eq_some.mp hnearest
  obtain rfl := Option.some.inj hrounded
  calc
    (2 : ℚ) ^ 53 = 2 ^ (53 : ℤ) := by norm_num
    _ ≤ 2 ^ Int.log 2 |(n : ℚ)| := zpow_le_zpow_right₀ one_le_two hlog
    _ = ((2 ^ 52 : ℤ) : ℚ) * spacing n := hbits.symm
    _ ≤ roundHalfEven (n / spacing n) * spacing n :=
      mul_le_mul_of_nonneg_right (Int.cast_le.mpr (le_roundHalfEven hquotient))
        (spacing_pos _).le

theorem eq_of_nearest_intCast {n other : ℤ} (hlow : 0 ≤ n) (hother : other < 2 ^ 53)
    (hnearest : nearest n = some (other : ℚ)) : n = other := by
  by_cases hhigh : n < 2 ^ 53
  · rw [nearest_intCast hlow hhigh] at hnearest
    exact_mod_cast Option.some.inj hnearest
  · have hle := le_of_nearest_intCast (not_lt.mp hhigh) hnearest
    have hbound : 2 ^ 53 ≤ other := by exact_mod_cast hle
    omega

theorem add_intCast {left right : ℤ} (hlow : 0 ≤ left + right) (hhigh : left + right < 2 ^ 53) :
    add (some left) (some right) = some ((left + right : ℤ) : ℚ) := by
  rw [add, Option.bind_some, Option.bind_some, ← Int.cast_add]
  exact nearest_intCast hlow hhigh

theorem multiply_intCast {left right : ℤ} (hlow : 0 ≤ left * right)
    (hhigh : left * right < 2 ^ 53) :
    multiply (some left) (some right) = some ((left * right : ℤ) : ℚ) := by
  rw [multiply, Option.bind_some, Option.bind_some, ← Int.cast_mul]
  exact nearest_intCast hlow hhigh

/-- Around a whole number, the multiples of a power of ten are whole or the
number itself. -/
theorem exists_intCast_of_mem_candidates {n exponent : ℤ} (hn : 0 ≤ n) {candidate : ℚ}
    (hcandidate : candidate ∈ candidates n (10 ^ exponent)) :
    candidate = n ∨ ∃ whole : ℤ, 0 ≤ whole ∧ candidate = whole := by
  have hpos : (0 : ℚ) < 10 ^ exponent := zpow_pos (by norm_num) _
  have hquotient : (0 : ℚ) ≤ n / 10 ^ exponent := div_nonneg (by exact_mod_cast hn) hpos.le
  rcases le_total 0 exponent with hwhole | hfraction
  · obtain ⟨unit, hunit⟩ := exists_natCast_zpow hwhole 10
    have hunit : (10 : ℚ) ^ exponent = unit := hunit
    have hunitPos : 0 ≤ unit := by exact_mod_cast (hunit ▸ hpos).le
    right
    simp only [candidates, List.mem_cons, List.not_mem_nil, or_false] at hcandidate
    rcases hcandidate with rfl | rfl | rfl
    · refine ⟨roundHalfEven (n / 10 ^ exponent) * unit, mul_nonneg ?_ hunitPos, ?_⟩
      · exact le_roundHalfEven (by exact_mod_cast hquotient)
      · rw [Int.cast_mul, hunit]
    · refine ⟨⌊(n : ℚ) / 10 ^ exponent⌋ * unit, mul_nonneg ?_ hunitPos, ?_⟩
      · exact Int.floor_nonneg.mpr hquotient
      · rw [Int.cast_mul, hunit]
    · refine ⟨⌈(n : ℚ) / 10 ^ exponent⌉ * unit, mul_nonneg ?_ hunitPos, ?_⟩
      · exact Int.ceil_nonneg hquotient
      · rw [Int.cast_mul, hunit]
  · obtain ⟨scale, hscale⟩ := @exists_natCast_zpow (-exponent) (by omega) 10
    have hscaled : (n : ℚ) / 10 ^ exponent = ((n * scale : ℤ) : ℚ) := by
      rw [div_eq_mul_inv, ← zpow_neg, Int.cast_mul, ← hscale]
      rfl
    have hback : ((n * scale : ℤ) : ℚ) * 10 ^ exponent = n := by
      rw [← hscaled, div_mul_cancel₀ _ hpos.ne']
    left
    simp only [candidates, hscaled, roundHalfEven_intCast, Int.floor_intCast, Int.ceil_intCast,
      hback, List.mem_cons, List.not_mem_nil, or_false, or_self] at hcandidate
    exact hcandidate

/-- A whole number of 53 bits is printed as it is. -/
theorem shortestDecimal_intCast {n : ℤ} (hlow : 0 ≤ n) (hhigh : n < 2 ^ 53) :
    shortestDecimal n = n := by
  rw [shortestDecimal]
  cases hfound : (List.range 17).findSome? fun position : ℕ =>
      (candidates n (10 ^ (Int.log 10 |(n : ℚ)| - position))).find? fun candidate =>
        nearest candidate == some (n : ℚ) with
  | none => rfl
  | some candidate =>
      obtain ⟨position, -, hfind⟩ := List.exists_of_findSome?_eq_some hfound
      have hback : nearest candidate = some (n : ℚ) := by simpa using List.find?_some hfind
      rcases exists_intCast_of_mem_candidates hlow (List.mem_of_find?_eq_some hfind) with
        rfl | ⟨whole, hwhole, rfl⟩
      · rfl
      · rw [eq_of_nearest_intCast hwhole hhigh hback]
        rfl

/-- Three times 1.1 is not 3.3. -/
example : (multiply (nearest (11 / 10)) (nearest 3)).map shortestDecimal =
    some (33000000000000003 / 10 ^ 16) := by
  decide +kernel

theorem wholePart_intCast {n : ℤ} (hn : 0 ≤ n) : wholePart n = n := by
  rw [wholePart, if_pos (by exact_mod_cast hn), round_intCast]

end ShoppingWeb.Binary64
