import ShoppingWeb.Lib.Utf16

/-!
# JavaScript strings

`String.prototype.trim` and `parseInt` on code units.
-/

namespace ShoppingWeb.JavaScriptText

open ShoppingWeb.Utf16

/-- White space and line terminators of ECMAScript. -/
def isWhiteSpace (unit : CodeUnit) : Bool :=
  (0x09 ≤ unit && unit ≤ 0x0D) || (0x2000 ≤ unit && unit ≤ 0x200A) ||
    [0x20, 0xA0, 0x1680, 0x2028, 0x2029, 0x202F, 0x205F, 0x3000, 0xFEFF].contains unit

def trimStart (text : JString) : JString := text.dropWhile isWhiteSpace

def trim (text : JString) : JString := (trimStart (trimStart text).reverse).reverse

/-- The value of a digit or of a letter used as one. -/
def digitValue (unit : CodeUnit) : Option ℕ :=
  if 48 ≤ unit ∧ unit ≤ 57 then some (unit.toNat - 48)
  else if 97 ≤ unit ∧ unit ≤ 122 then some (unit.toNat - 87)
  else if 65 ≤ unit ∧ unit ≤ 90 then some (unit.toNat - 55)
  else none

/-- The digits a text begins with. -/
def leadingDigits (radix : ℕ) : JString → List ℕ
  | [] => []
  | unit :: rest =>
      match (digitValue unit).filter (· < radix) with
      | some digit => digit :: leadingDigits radix rest
      | none => []

/-- An unsigned integer, hexadecimal behind `0x`; none stands for `NaN`. -/
def parseUnsigned (text : JString) : Option ℕ :=
  let hexadecimal := [js "0x", js "0X"].contains (text.take 2)
  let radix := if hexadecimal then 16 else 10
  match leadingDigits radix (if hexadecimal then text.drop 2 else text) with
  | [] => none
  | digits => some (digits.foldl (fun value digit => radix * value + digit) 0)

/-- `parseInt`, as an exact integer. -/
def parseInt (text : JString) : Option ℤ :=
  match trimStart text with
  | 45 :: rest => (parseUnsigned rest).map fun value => -(value : ℤ)
  | 43 :: rest => (parseUnsigned rest).map fun value => (value : ℤ)
  | rest => (parseUnsigned rest).map fun value => (value : ℤ)

example : parseInt (js " -12.5") = some (-12) := by decide
example : parseInt (js "0x1Fg") = some 31 := by decide

end ShoppingWeb.JavaScriptText
