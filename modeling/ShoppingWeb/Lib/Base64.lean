import ShoppingWeb.Lib.Utf16

/-!
# Base64

The encoder of `java.util.Base64` (and of the browser's `btoa`) with padding,
and the basic decoder, which accepts a missing padding but no other character.
-/

namespace ShoppingWeb.Base64

open ShoppingWeb.Utf16

def alphabetUnit (sextet : ℕ) : CodeUnit :=
  if sextet < 26 then UInt16.ofNat (65 + sextet)
  else if sextet < 52 then UInt16.ofNat (97 + (sextet - 26))
  else if sextet < 62 then UInt16.ofNat (48 + (sextet - 52))
  else if sextet = 62 then 43
  else 47

def sextet? (unit : CodeUnit) : Option ℕ :=
  let value := unit.toNat
  if 65 ≤ value ∧ value < 91 then some (value - 65)
  else if 97 ≤ value ∧ value < 123 then some (value - 97 + 26)
  else if 48 ≤ value ∧ value < 58 then some (value - 48 + 52)
  else if value = 43 then some 62
  else if value = 47 then some 63
  else none

def padding : CodeUnit := 61

def encode : List UInt8 → JString
  | [] => []
  | [a] => [alphabetUnit (a.toNat / 4), alphabetUnit (a.toNat % 4 * 16), padding, padding]
  | [a, b] =>
      [alphabetUnit (a.toNat / 4), alphabetUnit (a.toNat % 4 * 16 + b.toNat / 16),
        alphabetUnit (b.toNat % 16 * 4), padding]
  | a :: b :: c :: rest =>
      alphabetUnit (a.toNat / 4) :: alphabetUnit (a.toNat % 4 * 16 + b.toNat / 16) ::
        alphabetUnit (b.toNat % 16 * 4 + c.toNat / 64) :: alphabetUnit (c.toNat % 64) ::
        encode rest

def decodeOne (a b : CodeUnit) : Option (List UInt8) := do
  let a ← sextet? a
  let b ← sextet? b
  return [UInt8.ofNat (a * 4 + b / 16)]

def decodeTwo (a b c : CodeUnit) : Option (List UInt8) := do
  let a ← sextet? a
  let b ← sextet? b
  let c ← sextet? c
  return [UInt8.ofNat (a * 4 + b / 16), UInt8.ofNat (b % 16 * 16 + c / 4)]

def decodeThree (a b c d : CodeUnit) : Option (List UInt8) := do
  let a ← sextet? a
  let b ← sextet? b
  let c ← sextet? c
  let d ← sextet? d
  return [UInt8.ofNat (a * 4 + b / 16), UInt8.ofNat (b % 16 * 16 + c / 4),
    UInt8.ofNat (c % 4 * 64 + d)]

/-- `Base64.getDecoder().decode`; `none` is its IllegalArgumentException. -/
def decode : JString → Option (List UInt8)
  | [] => some []
  | [_] => none
  | [a, b] => decodeOne a b
  | [a, b, c] => if c = padding then none else decodeTwo a b c
  | a :: b :: c :: d :: rest =>
      if c = padding then
        if d = padding ∧ rest = [] then decodeOne a b else none
      else if d = padding then
        if rest = [] then decodeTwo a b c else none
      else do
        let group ← decodeThree a b c d
        let tail ← decode rest
        return group ++ tail

/-- Java's `String.trim`, which drops everything up to the space. -/
def trim (text : JString) : JString :=
  ((text.dropWhile (·.toNat ≤ 32)).reverse.dropWhile (·.toNat ≤ 32)).reverse

@[simp]
theorem sextet?_alphabetUnit {sextet : ℕ} (hsextet : sextet < 64) :
    sextet? (alphabetUnit sextet) = some sextet := by
  have hall : ∀ value < 64, sextet? (alphabetUnit value) = some value := by decide
  exact hall sextet hsextet

theorem alphabetUnit_ne_padding (sextet : ℕ) (hsextet : sextet < 64) :
    alphabetUnit sextet ≠ padding := by
  have hall : ∀ value < 64, alphabetUnit value ≠ padding := by decide
  exact hall sextet hsextet

private theorem ofNat_eq_of_toNat (byte : UInt8) (value : ℕ) (h : value = byte.toNat) :
    UInt8.ofNat value = byte := by
  rw [h, UInt8.ofNat_toNat]

private theorem decodeOne_encode (a : UInt8) :
    decodeOne (alphabetUnit (a.toNat / 4)) (alphabetUnit (a.toNat % 4 * 16)) = some [a] := by
  have ha := a.toNat_lt
  rw [decodeOne, sextet?_alphabetUnit (by omega), sextet?_alphabetUnit (by omega)]
  exact congrArg some (congrArg (· :: []) (ofNat_eq_of_toNat a _ (by omega)))

private theorem decodeTwo_encode (a b : UInt8) :
    decodeTwo (alphabetUnit (a.toNat / 4)) (alphabetUnit (a.toNat % 4 * 16 + b.toNat / 16))
      (alphabetUnit (b.toNat % 16 * 4)) = some [a, b] := by
  have ha := a.toNat_lt
  have hb := b.toNat_lt
  rw [decodeTwo, sextet?_alphabetUnit (by omega), sextet?_alphabetUnit (by omega),
    sextet?_alphabetUnit (by omega)]
  have hfirst := ofNat_eq_of_toNat a
    (a.toNat / 4 * 4 + (a.toNat % 4 * 16 + b.toNat / 16) / 16) (by omega)
  have hsecond := ofNat_eq_of_toNat b
    ((a.toNat % 4 * 16 + b.toNat / 16) % 16 * 16 + b.toNat % 16 * 4 / 4) (by omega)
  simp only [Option.bind_eq_bind, Option.bind_some, Option.pure_def, hfirst, hsecond]

private theorem decodeThree_encode (a b c : UInt8) :
    decodeThree (alphabetUnit (a.toNat / 4)) (alphabetUnit (a.toNat % 4 * 16 + b.toNat / 16))
      (alphabetUnit (b.toNat % 16 * 4 + c.toNat / 64)) (alphabetUnit (c.toNat % 64)) =
      some [a, b, c] := by
  have ha := a.toNat_lt
  have hb := b.toNat_lt
  have hc := c.toNat_lt
  rw [decodeThree, sextet?_alphabetUnit (by omega), sextet?_alphabetUnit (by omega),
    sextet?_alphabetUnit (by omega), sextet?_alphabetUnit (by omega)]
  have hfirst := ofNat_eq_of_toNat a
    (a.toNat / 4 * 4 + (a.toNat % 4 * 16 + b.toNat / 16) / 16) (by omega)
  have hsecond := ofNat_eq_of_toNat b
    ((a.toNat % 4 * 16 + b.toNat / 16) % 16 * 16 +
      (b.toNat % 16 * 4 + c.toNat / 64) / 4) (by omega)
  have hthird := ofNat_eq_of_toNat c
    ((b.toNat % 16 * 4 + c.toNat / 64) % 4 * 64 + c.toNat % 64) (by omega)
  simp only [Option.bind_eq_bind, Option.bind_some, Option.pure_def, hfirst, hsecond, hthird]

/-- Decoding inverts encoding. -/
@[simp]
theorem decode_encode (bytes : List UInt8) : decode (encode bytes) = some bytes := by
  induction bytes using encode.induct with
  | case1 => rfl
  | case2 a => simp [encode, decode, decodeOne_encode]
  | case3 a b =>
      have hb := b.toNat_lt
      have hunit := alphabetUnit_ne_padding (b.toNat % 16 * 4) (by omega)
      simp [encode, decode, hunit, decodeTwo_encode]
  | case4 a b c rest ih =>
      have hb := b.toNat_lt
      have hc := c.toNat_lt
      have hthird := alphabetUnit_ne_padding
        (b.toNat % 16 * 4 + c.toNat / 64) (by omega)
      have hfourth := alphabetUnit_ne_padding (c.toNat % 64) (by omega)
      rw [encode, decode, if_neg hthird, if_neg hfourth, decodeThree_encode, ih]
      rfl

/-- A group with a unit outside the alphabet does not decode. -/
theorem decodeThree_eq_none {a b c d unit : CodeUnit} (hsextet : sextet? unit = none)
    (hmem : unit = a ∨ unit = b ∨ unit = c ∨ unit = d) : decodeThree a b c d = none := by
  rcases hmem with rfl | rfl | rfl | rfl <;> simp [decodeThree, hsextet]

theorem decodeTwo_eq_none {a b c unit : CodeUnit} (hsextet : sextet? unit = none)
    (hmem : unit = a ∨ unit = b ∨ unit = c) : decodeTwo a b c = none := by
  rcases hmem with rfl | rfl | rfl <;> simp [decodeTwo, hsextet]

theorem decodeOne_eq_none {a b unit : CodeUnit} (hsextet : sextet? unit = none)
    (hmem : unit = a ∨ unit = b) : decodeOne a b = none := by
  rcases hmem with rfl | rfl <;> simp [decodeOne, hsextet]

/-- A text with a unit that is neither in the alphabet nor padding does not
decode. -/
theorem decode_eq_none_of_mem {text : JString} {unit : CodeUnit} (hmem : unit ∈ text)
    (hsextet : sextet? unit = none) (hpadding : unit ≠ padding) : decode text = none := by
  induction text using decode.induct with
  | case1 => cases hmem
  | case2 => rfl
  | case3 a b => exact decodeOne_eq_none hsextet (by simpa using hmem)
  | case4 a b => simp [decode]
  | case5 a b c hc =>
      rw [decode, if_neg hc]
      exact decodeTwo_eq_none hsextet (by simpa using hmem)
  | case6 a b d rest hend =>
      obtain ⟨rfl, rfl⟩ := hend
      rw [decode, if_pos rfl, if_pos ⟨rfl, rfl⟩]
      exact decodeOne_eq_none hsextet (by simpa [hpadding] using hmem)
  | case7 a b d rest hend => rw [decode, if_pos rfl, if_neg hend]
  | case8 a b c hc =>
      rw [decode, if_neg hc, if_pos rfl, if_pos rfl]
      exact decodeTwo_eq_none hsextet (by simpa [hpadding] using hmem)
  | case9 a b c rest hc hrest => rw [decode, if_neg hc, if_pos rfl, if_neg hrest]
  | case10 a b c d rest hc hd ih =>
      rw [decode, if_neg hc, if_neg hd]
      simp only [List.mem_cons] at hmem
      by_cases hgroup : unit = a ∨ unit = b ∨ unit = c ∨ unit = d
      · rw [decodeThree_eq_none hsextet hgroup]
        rfl
      · have hrest : unit ∈ rest := by tauto
        rw [ih hrest]
        cases decodeThree a b c d <;> rfl

theorem not_mem_encode {unit : CodeUnit} (hsextet : sextet? unit = none)
    (hpadding : unit ≠ padding) (bytes : List UInt8) : unit ∉ encode bytes := by
  intro hmem
  have hnone := decode_eq_none_of_mem hmem hsextet hpadding
  rw [decode_encode] at hnone
  cases hnone
theorem encode_ne_nil {bytes : List UInt8} (hbytes : bytes ≠ []) : encode bytes ≠ [] := by
  intro hencode
  have hdecode := decode_encode bytes
  rw [hencode] at hdecode
  exact hbytes (Option.some.inj hdecode).symm

private theorem blank_lt_alphabetUnit {sextet : ℕ} (hsextet : sextet < 64) :
    32 < (alphabetUnit sextet).toNat := by
  have hall : ∀ value < 64, 32 < (alphabetUnit value).toNat := by decide
  exact hall sextet hsextet

/-- No unit of an encoding is blank. -/
theorem blank_lt_of_mem_encode {bytes : List UInt8} {unit : CodeUnit}
    (hunit : unit ∈ encode bytes) : 32 < unit.toNat := by
  induction bytes using encode.induct with
  | case1 => simp [encode] at hunit
  | case2 a =>
      have ha := a.toNat_lt
      simp only [encode, List.mem_cons, List.not_mem_nil, or_false] at hunit
      rcases hunit with rfl | rfl | rfl | rfl
      · exact blank_lt_alphabetUnit (by omega)
      · exact blank_lt_alphabetUnit (by omega)
      all_goals decide
  | case3 a b =>
      have ha := a.toNat_lt
      have hb := b.toNat_lt
      simp only [encode, List.mem_cons, List.not_mem_nil, or_false] at hunit
      rcases hunit with rfl | rfl | rfl | rfl
      · exact blank_lt_alphabetUnit (by omega)
      · exact blank_lt_alphabetUnit (by omega)
      · exact blank_lt_alphabetUnit (by omega)
      · decide
  | case4 a b c rest ih =>
      have ha := a.toNat_lt
      have hb := b.toNat_lt
      have hc := c.toNat_lt
      simp only [encode, List.mem_cons] at hunit
      rcases hunit with rfl | rfl | rfl | rfl | hrest
      · exact blank_lt_alphabetUnit (by omega)
      · exact blank_lt_alphabetUnit (by omega)
      · exact blank_lt_alphabetUnit (by omega)
      · exact blank_lt_alphabetUnit (by omega)
      · exact ih hrest

/-- Trimming leaves an encoding as it is. -/
@[simp]
theorem trim_encode (bytes : List UInt8) : trim (encode bytes) = encode bytes := by
  have hdrop : ∀ text : JString, (∀ unit ∈ text, 32 < unit.toNat) →
      text.dropWhile (·.toNat ≤ 32) = text := by
    intro text htext
    cases text with
    | nil => rfl
    | cons unit rest =>
        have hunit := htext unit List.mem_cons_self
        rw [List.dropWhile_cons_of_neg (by simpa using hunit)]
  rw [trim, hdrop _ fun unit hunit => blank_lt_of_mem_encode hunit,
    hdrop _ fun unit hunit => blank_lt_of_mem_encode (List.mem_reverse.mp hunit),
    List.reverse_reverse]

end ShoppingWeb.Base64
